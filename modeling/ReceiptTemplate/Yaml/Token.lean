import ReceiptTemplate.Yaml.Cursor

/-!
# YAML tokens — the words of a data file

Block collections have no brackets of their own: tokens for their start and end follow from the
indentation.
-/

namespace ReceiptTemplate
namespace Yaml

/-- What a line that starts with a percent sign says. -/
inductive Directive where
  | version (major minor : Nat)
  /-- A handle stands for the first part of tags. -/
  | tagHandle (handle stem : String)
  | other
deriving DecidableEq, Inhabited

inductive Token where
  | directive (d : Directive)
  | documentStart | documentEnd | streamEnd
  | blockSequenceStart | blockMappingStart | blockEnd
  | flowSequenceStart | flowSequenceEnd | flowMappingStart | flowMappingEnd
  | key | value | blockEntry | flowEntry
  | alias (name : String)
  | anchor (name : String)
  /-- A tag without a handle is complete. -/
  | tag (handle : Option String) (name : String)
  | scalar (text : String) (isPlain : Bool)
deriving DecidableEq, Inhabited

/-- How a token is named in a message. -/
def Token.shown : Token → String
  | .directive _ => "<directive>"
  | .documentStart => "<document start>"
  | .documentEnd => "<document end>"
  | .streamEnd => "<stream end>"
  | .blockSequenceStart => "<block sequence start>"
  | .blockMappingStart => "<block mapping start>"
  | .blockEnd => "<block end>"
  | .flowSequenceStart => "["
  | .flowSequenceEnd => "]"
  | .flowMappingStart => "\x7b"
  | .flowMappingEnd => "\x7d"
  | .key => "?"
  | .value => ":"
  | .blockEntry => "-"
  | .flowEntry => ","
  | .alias _ => "<alias>"
  | .anchor _ => "<anchor>"
  | .tag _ _ => "<tag>"
  | .scalar _ _ => "<scalar>"

/-- A token and the place where it starts. -/
structure PlacedToken where
  token : Token
  place : Place
deriving Inhabited

end Yaml
end ReceiptTemplate
