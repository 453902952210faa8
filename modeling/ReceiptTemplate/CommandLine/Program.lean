import ReceiptTemplate.CommandLine.Files
import ReceiptTemplate.CommandLine.Usage
import ReceiptTemplate.Engine.Notes
import ReceiptTemplate.Expr.ConstructorText
import ReceiptTemplate.Value.Display
import ReceiptTemplate.Yaml.NodeData

/-!
# Program — evaluating, checking and listing on the command line

The program has three commands: one evaluates an expression or a template against the data of a file, one
shows the tree of an expression, and one lists the filters.  A call is a value with the arguments, the
environment and the files, and its outcome is a value too: the exit code and what is printed.  Faults come
in a fixed order: the arguments before the command, the environment, the arguments of the command, the data
file, and last the expression.
-/

namespace ReceiptTemplate
namespace CommandLine

structure Call where
  arguments : List String
  environment : Entries String
  files : Entries FileEntry

/-- What ends the program without a message. -/
inductive Breakdown where
  | content (fault : Yaml.ContentFault)
  | failure (f : Failure)

structure Outcome where
  exitCode : Nat
  output : String
  errors : String
  breakdown : Option Breakdown

/-! ## Outcomes -/

namespace Outcome

/-- Lines as they are printed. -/
def printed (lines : List String) : String :=
  String.join (lines.map (· ++ "\n"))

def success (lines : List String) : Outcome :=
  ⟨0, printed lines, "", none⟩

/-- A failure with a message. -/
def refusal (message : String) : Outcome :=
  ⟨1, "", s!"Error: {message}\n", none⟩

def ofBreakdown (b : Breakdown) : Outcome :=
  ⟨1, "", "", some b⟩

/-- The outcome with lines printed before its errors. -/
def after (lines : List String) (o : Outcome) : Outcome :=
  { o with errors := printed lines ++ o.errors }

end Outcome

/-- Whether a failure is one of the expression or its data, which are reported. -/
def isReported : Failure → Bool
  | .parse _ | .locale _ => true
  | .data fault => fault.isContentFault
  | .eval (.filter (.unwritable .imprecise)) => false
  | .eval (.filter (.unwritable .overflow)) => false
  | .eval _ => true

def failureMessage : Failure → String
  | .parse error => error.message
  | .locale fault => fault.message
  | .data fault => fault.message
  | .eval fault => fault.message

def Outcome.ofFailure (f : Failure) : Outcome :=
  if isReported f then .refusal (failureMessage f) else .ofBreakdown (.failure f)

/-- The lines of a log, which the settings can leave out. -/
def logLines (s : Settings) (notes : List Note) : List String :=
  if s.showsNotes then notes.map fun n => s!"DEBUG {n.topic.name}: {n.text}" else []

/-! ## Commands -/

def evalCommand : Command where
  name := "eval"
  summary := "Evaluate EXPRESSION against the render data."
  argument := some "EXPRESSION"
  ownOptions :=
    [⟨"--data", some "FILE", "YAML or JSON file with the render data."⟩,
     ⟨"--locale", some "TEXT", s!"Locale for filters, e.g. de_DE (overrides {Settings.localeVariable})."⟩,
     ⟨"--text", none, "Treat EXPRESSION as property text containing \x7b\x7b \x7d\x7d segments."⟩]

def checkCommand : Command where
  name := "check"
  summary := "Parse EXPRESSION and print its syntax tree."
  argument := some "EXPRESSION"
  ownOptions := []

def filtersCommand : Command where
  name := "filters"
  summary := "List the registered filters."
  argument := none
  ownOptions := [⟨"--json", none, "Print documentation as JSON."⟩]

/-- The commands in alphabetical order. -/
def commands : List Command :=
  [checkCommand, evalCommand, filtersCommand]

/-! ## Usage -/

def programName : String := "cli"

def programUsage : String :=
  usageLine programName ["COMMAND", "[ARGS]..."]

def programHelp : List String :=
  helpLines programUsage "PrintForge template expression tooling." [.showHelp] ++
    block "Commands" (commands.map fun c => (c.name, c.summary))

def Command.path (c : Command) : String :=
  s!"{programName} {c.name}"

def Command.usage (c : Command) : String :=
  usageLine c.path c.argument.toList

def Command.help (c : Command) : List String :=
  helpLines c.usage c.summary c.options

/-- The outcome of arguments that are refused. -/
def misuse (usage path : String) (fault : UsageFault) : Outcome :=
  ⟨2, "", Outcome.printed
    [usage, s!"Try '{path} {CommandOption.showHelp.name}' for help.", "", s!"Error: {fault.message}"],
    none⟩

/-! ## Evaluating -/

/-- The data of the file that an option names; without one there is none. -/
def loadData (files : Entries FileEntry) (path : Option String) : Except Outcome Datum :=
  match path.bind fun p => (lookUp? files p).map fun f => (p, f) with
  | some (p, .text content) =>
    match Yaml.read content with
    | .ok .null => .ok (.mapping [])
    | .ok d => .ok d
    | .error (.content fault) => .error (.ofBreakdown (.content fault))
    | .error fault =>
      let file := Path.simplest p
      .error (.refusal s!"Cannot read data file {file}: {fault.message file}")
  | _ => .ok (.mapping [])

/-- What an engine prints for an expression or a template. -/
def evaluateText (e : Engine) (isTemplate : Bool) (source : String) (data : RenderData) :
    Except Failure String :=
  if isTemplate then (e.render source data none).1
  else (e.evaluate source data none).1.map Value.display

def evaluateNotes (e : Engine) (isTemplate : Bool) (source : String) (data : RenderData) :
    List Note :=
  if isTemplate then e.renderNotes source data else e.evaluateNotes source data

/-- The settings with another locale, unless it is empty. -/
def withLocale (s : Settings) (locale : Option String) : Settings :=
  match locale with
  | some name => if name = "" then s else { s with locale := name }
  | none => s

def runEval (call : Call) (s : Settings) (p : Parsed) (source : String) : Outcome :=
  let s := withLocale s (p.value? "--locale")
  match loadData call.files (p.value? "--data") with
  | .error o => o
  | .ok d =>
    match Engine.create s .standard with
    | .error fault => .refusal fault.message
    | .ok e =>
      let isTemplate := p.isGiven "--text"
      let notes := e.creationNote :: evaluateNotes e isTemplate source (.data d)
      let outcome :=
        match evaluateText e isTemplate source (.data d) with
        | .ok text => Outcome.success [text]
        | .error f => .ofFailure f
      outcome.after (logLines s notes)

/-! ## Checking -/

def runCheck (s : Settings) (source : String) : Outcome :=
  match Engine.create s .standard with
  | .error fault => .refusal fault.message
  | .ok e =>
    let outcome :=
      match (e.cache.parse source).1 with
      | .ok t => Outcome.success [t.tree.constructorText, "Expression is valid."]
      | .error error => .refusal error.message
    outcome.after (logLines s (e.creationNote :: e.parseNotes source))

/-! ## Listing -/

/-- The lines on a filter: its name and category, its description and its examples. -/
def filterLines (f : Filter) : List String :=
  match f.docs with
  | none => [s!"  {f.name}"]
  | some d =>
    s!"  {f.name} [{d.category.name}]" ::
      ((if d.description = "" then [] else [d.description]) ++
        d.examples.map fun sample => s!"e.g. {sample}").map fun line => s!"      {line}"

/-- The filters in the order of their folded names. -/
def sortedFilters (r : FilterRegistry) : List Filter :=
  r.filters.mergeSort fun f g => decide (Text.fold f.name ≤ Text.fold g.name)

def runFilters (s : Settings) (p : Parsed) : Outcome :=
  match Engine.create s .standard with
  | .error fault => .refusal fault.message
  | .ok e =>
    let lines :=
      if p.isGiven "--json" then [e.filters.documentation.indented 0]
      else
        s!"{e.filters.size} filter(s):" :: "" :: (sortedFilters e.filters).flatMap filterLines
    (Outcome.success lines).after (logLines s [e.creationNote])

/-! ## Calls -/

/-- Refuses a data file that is not there. -/
def checkData (files : Entries FileEntry) (p : Parsed) : Except UsageFault Unit :=
  match p.value? "--data" with
  | none => .ok ()
  | some path =>
    match lookUp? files path with
    | some (.text _) => .ok ()
    | some .directory => .error (.directory "--data" path)
    | none => .error (.noFile "--data" path)

/-- The positional argument of a command, empty for one that takes none. -/
def operand (c : Command) (p : Parsed) : Except UsageFault String :=
  match c.argument, p.rest with
  | some name, [] => .error (.missingArgument name)
  | some _, [a] => .ok a
  | some _, _ :: extra => .error (.extraArguments extra)
  | none, [] => .ok ""
  | none, extra => .error (.extraArguments extra)

/-- What a command does with arguments that are read. -/
def Command.perform (c : Command) (call : Call) (s : Settings) (p : Parsed) (source : String) :
    Outcome :=
  if c.name = evalCommand.name then runEval call s p source
  else if c.name = checkCommand.name then runCheck s source
  else runFilters s p

def runCommand (call : Call) (s : Settings) (c : Command) (arguments : List String) : Outcome :=
  match readArguments c.options false arguments with
  | .error fault => misuse c.usage c.path fault
  | .ok p =>
    if p.isGiven CommandOption.showHelp.name then .success c.help
    else
      match checkData call.files p, operand c p with
      | .error fault, _ => misuse c.usage c.path fault
      | .ok _, .error fault => misuse c.usage c.path fault
      | .ok _, .ok source => c.perform call s p source

/-- Whether a name of a command starts with neither a letter nor a digit. -/
def startsWithMark (name : String) : Bool :=
  match name.toList with
  | c :: _ => !(c.isAlphanum || 128 ≤ c.toNat)
  | [] => false

/-- The outcome of a call. -/
def run (call : Call) : Outcome :=
  let misuse := misuse programUsage programName
  match readArguments [.showHelp] true call.arguments with
  | .error fault => misuse fault
  | .ok p =>
    if call.arguments.isEmpty || p.isGiven CommandOption.showHelp.name then .success programHelp
    else
      match p.rest with
      | [] => misuse .missingCommand
      | name :: arguments =>
        match commands.find? (·.name == name) with
        | none => if startsWithMark name then .success programHelp else misuse (.noSuchCommand name)
        | some c =>
          match Settings.ofEnvironment call.environment with
          | .error fault => .refusal fault.message
          | .ok s => runCommand call s c arguments

end CommandLine
end ReceiptTemplate
