import ReceiptTemplate.Entries
import ReceiptTemplate.Locale.Tag

/-!
# Locales — known identifiers and how others resolve to them

A known identifier stands for itself.  For any other one, an outdated language is replaced, an unknown
territory or script is dropped, and the likely script and territory of the language are filled in.
-/

namespace ReceiptTemplate

/-- A locale for which the library has data. -/
structure Locale where
  tag : LocaleTag
deriving DecidableEq

/-- Why an identifier stands for no locale. -/
inductive LocaleFault where
  | malformed (fault : TagFault)
  | unknown (identifier : Option String)
deriving DecidableEq

namespace LocaleFault

def message : LocaleFault → String
  | .malformed fault => fault.message
  | .unknown (some identifier) => s!"Unknown locale: {identifier}"
  | .unknown none => "Unknown locale: None"

end LocaleFault

namespace Locale

def text (l : Locale) : String :=
  l.tag.text

/-! ## Tables -/

def knownBases : List String :=
  ["root",
   "de", "de_CH", "de_DE",
   "en", "en_001", "en_GB", "en_US", "en_US_POSIX",
   "es", "es_419", "es_ES",
   "fr", "fr_FR",
   "he", "he_IL",
   "ja", "ja_JP",
   "nb", "nb_NO", "no",
   "pl", "pl_PL",
   "pt", "pt_BR", "pt_PT",
   "ru", "ru_RU",
   "sr", "sr_Cyrl", "sr_Cyrl_RS", "sr_Latn", "sr_Latn_RS",
   "sv", "sv_SE",
   "zh", "zh_Hans", "zh_Hans_CN", "zh_Hant", "zh_Hant_TW"]

/-- Outdated language codes. -/
def languageAliases : Entries String :=
  [("iw", "he")]

/-- The full identifier that a shorter one most likely means. -/
def likely : Entries LocaleTag :=
  let tag language script territory : LocaleTag :=
    ⟨language, some script, some territory, none, none⟩
  [("und", tag "en" "Latn" "US"),
   ("de", tag "de" "Latn" "DE"),
   ("en", tag "en" "Latn" "US"),
   ("es", tag "es" "Latn" "ES"),
   ("fr", tag "fr" "Latn" "FR"),
   ("he", tag "he" "Hebr" "IL"),
   ("ja", tag "ja" "Jpan" "JP"),
   ("nb", tag "nb" "Latn" "NO"),
   ("no", tag "no" "Latn" "NO"),
   ("pl", tag "pl" "Latn" "PL"),
   ("pt", tag "pt" "Latn" "BR"),
   ("ru", tag "ru" "Cyrl" "RU"),
   ("sr", tag "sr" "Cyrl" "RS"),
   ("sv", tag "sv" "Latn" "SE"),
   ("zh", tag "zh" "Hans" "CN"),
   ("zh_TW", tag "zh" "Hant" "TW")]

/-! ## Resolution -/

/-- The locale of a tag that is known as it stands. -/
def ofKnown? (t : LocaleTag) : Option Locale :=
  if knownBases.contains t.base then some ⟨t⟩ else none

/-- The locale of a tag, or of its language and territory alone. -/
def ofReduced? (t : LocaleTag) : Option Locale :=
  (ofKnown? t).or (ofKnown? { t with script := none, variant := none, modifier := none })

/-- The tag without an outdated language and without the codes for unknown parts. -/
def modernTag (t : LocaleTag) : LocaleTag :=
  { t with
    language := (languageAliases.get? t.language).getD t.language
    territory := if t.territory = some "ZZ" then none else t.territory
    script := if t.script = some "Zzzz" then none else t.script }

/-- The locale that a tag stands for. -/
def ofTag? (t : LocaleTag) : Option Locale :=
  let m := modernTag t
  ofKnown? t
    |>.or ((likely.get? m.text).bind ofReduced?)
    |>.or ((likely.get? m.language).bind fun f => ofReduced? { f with territory := m.territory })

/-- The locale of an identifier, or of the fallback if there is none; hyphens stand for underscores
and blanks around the identifier are dropped. -/
def parse (identifier : Option String) (fallback : String) : Except LocaleFault Locale :=
  let given := identifier.getD ""
  let wanted := Text.stripChars (if given = "" then fallback else given).toList
  match LocaleTag.read (String.ofList (wanted.map fun c => if c = '-' then '_' else c)) with
  | .error fault => .error (.malformed fault)
  | .ok tag =>
    match ofTag? tag with
    | some l => .ok l
    | none => .error (.unknown identifier)

/-- The identifier of the locale that is used where none is given. -/
def standardName : String := "en"

/-- The locale that is used where none is given. -/
def standard : Locale := ⟨⟨standardName, none, none, none, none⟩⟩

/-- The identifiers under which data of a locale is looked up, the most specific first. -/
def lineage (l : Locale) : List String :=
  let t := l.tag
  [t.base, { t with variant := none }.base, { t with variant := none, territory := none }.base,
    t.language]

/-- The data of a locale in a table, or what is used where the table has none. -/
def findData {α : Type} (l : Locale) (table : Entries α) (otherwise : α) : α :=
  (l.lineage.findSome? table.get?).getD otherwise

end Locale
end ReceiptTemplate
