import ReceiptTemplate.Text.Quoted
import ReceiptTemplate.Text.Similarity

/-!
# Usage — commands, their options and how arguments are read

A command has options and at most one positional argument.  An option starts with two hyphens; one that
takes a value has it after an equals sign or as the next argument.  Options may stand before and after the
positional argument, and two hyphens alone end them.  Every command has an option that shows its help.
-/

namespace ReceiptTemplate
namespace CommandLine

/-- An option; one without a placeholder for its value is a flag. -/
structure CommandOption where
  name : String
  placeholder : Option String
  help : String

namespace CommandOption

def showHelp : CommandOption := ⟨"--help", none, "Show this message and exit."⟩

/-- The option as a help text lists it. -/
def label (o : CommandOption) : String :=
  match o.placeholder with
  | some p => s!"{o.name} {p}"
  | none => o.name

end CommandOption

structure Command where
  name : String
  summary : String
  /-- The name of the positional argument. -/
  argument : Option String
  ownOptions : List CommandOption

def Command.options (c : Command) : List CommandOption :=
  c.ownOptions ++ [.showHelp]

/-! ## Help texts -/

/-- Rows of two columns; the second starts two blanks after the widest entry of the first. -/
def rows (entries : List (String × String)) : List String :=
  let width := (entries.map fun e => e.1.length).foldl max 0
  entries.map fun e =>
    let padding := String.ofList (List.replicate (width + 2 - e.1.length) ' ')
    s!"  {e.1}{padding}{e.2}"

/-- A heading and its rows, after an empty line. -/
def block (heading : String) (entries : List (String × String)) : List String :=
  "" :: s!"{heading}:" :: rows entries

/-- The lines of a help text. -/
def helpLines (usage summary : String) (options : List CommandOption) : List String :=
  usage :: "" :: s!"  {summary}" ::
    block "Options" (options.map fun o => (o.label, o.help))

/-- The line that shows how a program or a command of it is called. -/
def usageLine (path : String) (operands : List String) : String :=
  String.intercalate " " ("Usage:" :: path :: "[OPTIONS]" :: operands)

/-! ## Faults -/

/-- Why arguments are refused. -/
inductive UsageFault where
  | noSuchOption (name : String) (similar : List String)
  | noValue (option : String)
  | unwantedValue (option : String)
  | missingArgument (name : String)
  | extraArguments (arguments : List String)
  | noSuchCommand (name : String)
  | missingCommand
  | noFile (option path : String)
  | directory (option path : String)
deriving DecidableEq

/-- A hint at options with similar names. -/
def suggestion (similar : List String) : String :=
  match similar with
  | [] => ""
  | [name] => s!" Did you mean {name}?"
  | names => " (Possible options: " ++ String.intercalate ", " names ++ ")"

def UsageFault.message : UsageFault → String
  | .noSuchOption name similar => s!"No such option: {name}{suggestion similar}"
  | .noValue option => s!"Option {Text.quoted option} requires an argument."
  | .unwantedValue option => s!"Option {Text.quoted option} does not take a value."
  | .missingArgument name => s!"Missing argument '{name}'."
  | .extraArguments [a] => s!"Got unexpected extra argument ({a})"
  | .extraArguments as =>
    "Got unexpected extra arguments (" ++ String.intercalate " " as ++ ")"
  | .noSuchCommand name => s!"No such command {Text.quoted name}."
  | .missingCommand => "Missing command."
  | .noFile option path =>
    s!"Invalid value for '{option}': File {Text.quoted path} does not exist."
  | .directory option path =>
    s!"Invalid value for '{option}': File {Text.quoted path} is a directory."

/-! ## Arguments -/

/-- What arguments say: the options in order, each with its value, and the other arguments. -/
structure Parsed where
  given : List (String × Option String)
  rest : List String
deriving DecidableEq

namespace Parsed

def isGiven (p : Parsed) (option : String) : Bool :=
  p.given.any (·.1 == option)

/-- The value of an option that was given last. -/
def value? (p : Parsed) (option : String) : Option String :=
  ((p.given.reverse.find? (·.1 == option)).map (·.2)).join

def withOption (option : String) (value : Option String) (p : Parsed) : Parsed :=
  { p with given := (option, value) :: p.given }

end Parsed

/-- Whether an argument is an option or meant as one. -/
def looksLikeOption (argument : String) : Bool :=
  argument.toList.head? == some '-' && argument.length != 1

/-- An argument cut at its first equals sign. -/
def cutValue (argument : String) : String × Option String :=
  let cs := argument.toList
  let isPlain (c : Char) : Bool := c != '='
  match cs.dropWhile isPlain with
  | [] => (argument, none)
  | _ :: value => (String.ofList (cs.takeWhile isPlain), some (String.ofList value))

/-- The fault of an option that there is not.  After one hyphen the first letter is the option. -/
def unknownOption (options : List CommandOption) (argument : String) : UsageFault :=
  match argument.toList with
  | '-' :: '-' :: _ =>
    let name := (cutValue argument).1
    .noSuchOption name (Text.closeTo name (options.map (·.name)))
  | cs => .noSuchOption (String.ofList (cs.take 2)) []

/-- Reads arguments.  Where options end with the first positional argument, all that follows is left as it
is. -/
def readArguments (options : List CommandOption) (endsAtPositional : Bool) :
    List String → Except UsageFault Parsed
  | [] => .ok ⟨[], []⟩
  | argument :: rest =>
    if argument = "--" then .ok ⟨[], rest⟩
    else if !looksLikeOption argument then
      if endsAtPositional then .ok ⟨[], argument :: rest⟩
      else
        (readArguments options endsAtPositional rest).map fun p =>
          { p with rest := argument :: p.rest }
    else
      let (name, explicit) := cutValue argument
      match options.find? (·.name == name) with
      | none => .error (unknownOption options argument)
      | some o =>
        match o.placeholder, explicit, rest with
        | none, some _, _ => .error (.unwantedValue name)
        | none, none, rest => (readArguments options endsAtPositional rest).map (·.withOption name none)
        | some _, some v, rest =>
          (readArguments options endsAtPositional rest).map (·.withOption name (some v))
        | some _, none, v :: rest =>
          (readArguments options endsAtPositional rest).map (·.withOption name (some v))
        | some _, none, [] => .error (.noValue name)

end CommandLine
end ReceiptTemplate
