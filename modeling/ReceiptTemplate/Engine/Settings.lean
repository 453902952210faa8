import ReceiptTemplate.Expr.Parser
import ReceiptTemplate.Locale.Basic
import ReceiptTemplate.Text.Integer

/-!
# Settings — what an engine can be told, and the environment variables that tell it

A variable that is not set or blank leaves the standard setting.  Of several bad variables the locale is
reported first, then the log level and then the numbers.
-/

namespace ReceiptTemplate

structure Settings where
  locale : String
  limits : Expr.Limits
  /-- The most entries of the cache; zero sets no bound. -/
  cacheSize : Nat
  logLevel : String
deriving DecidableEq

/-- Why a variable is refused. -/
inductive SettingsFault where
  | badLocale (fault : LocaleFault)
  | badLogLevel (name : String)
  | noInteger (name text : String)
  | negative (name : String) (n : Int)
deriving DecidableEq

namespace Settings

def standard : Settings :=
  ⟨Locale.standardName, .standard, 1024, "WARNING"⟩

/-! ## Variables -/

/-- The part that all names of variables begin with. -/
def variableStem : String := "PRINTFORGE_"

def localeVariable : String := variableStem ++ "LOCALE"

def logLevelVariable : String := variableStem ++ "LOG_LEVEL"

def lengthVariable : String := variableStem ++ "MAX_EXPRESSION_LENGTH"

def depthVariable : String := variableStem ++ "MAX_EXPRESSION_DEPTH"

def cacheVariable : String := variableStem ++ "CACHE_SIZE"

/-- Names of log levels. -/
def logLevels : List String :=
  ["CRITICAL", "FATAL", "ERROR", "WARN", "WARNING", "INFO", "DEBUG", "NOTSET"]

/-- Whether remarks of the lowest level are shown. -/
def showsNotes (s : Settings) : Bool :=
  s.logLevel == "DEBUG" || s.logLevel == "NOTSET"

end Settings

def SettingsFault.message : SettingsFault → String
  | .badLocale fault => s!"{Settings.localeVariable}: {fault.message}"
  | .badLogLevel name =>
    s!"{Settings.logLevelVariable} must be a logging level name, got {Text.quoted name}"
  | .noInteger name text => s!"{name} must be an integer, got {Text.quoted text}"
  | .negative name n => s!"{name} must not be negative, got {Text.integerText n}"

namespace Settings

/-- The text of a variable; an empty one counts as not set. -/
def textOr (environment : Entries String) (name otherwise : String) : String :=
  match environment.get? name with
  | some s => if s = "" then otherwise else s
  | none => otherwise

/-- The number that a variable sets. -/
def numberOr (environment : Entries String) (name : String) (otherwise : Nat) :
    Except SettingsFault Nat :=
  match environment.get? name with
  | none => .ok otherwise
  | some s =>
    if Text.isAllBlank s then .ok otherwise
    else
      match Text.readInteger? s with
      | none => .error (.noInteger name s)
      | some n => if n < 0 then .error (.negative name n) else .ok n.toNat

/-- The settings that the environment gives. -/
def ofEnvironment (environment : Entries String) : Except SettingsFault Settings := do
  let locale := textOr environment localeVariable standard.locale
  let _ ← (Locale.parse (some locale) Locale.standardName).mapError .badLocale
  let logLevel := Text.upper (textOr environment logLevelVariable standard.logLevel)
  if !logLevels.contains logLevel then .error (.badLogLevel logLevel)
  else
    let length ← numberOr environment lengthVariable standard.limits.length
    let depth ← numberOr environment depthVariable standard.limits.depth
    let cacheSize ← numberOr environment cacheVariable standard.cacheSize
    .ok ⟨locale, ⟨length, depth⟩, cacheSize, logLevel⟩

end Settings
end ReceiptTemplate
