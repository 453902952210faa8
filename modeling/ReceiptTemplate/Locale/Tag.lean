import ReceiptTemplate.Text.Basic
import ReceiptTemplate.Text.Case
import ReceiptTemplate.Text.Quoted

/-!
# Locale tags — the parts of a locale identifier

An identifier is a language, a script, a territory and a variant with underscores between them, and a
modifier after `@`.  Everything but the language may be absent.  An encoding after a point is
dropped.  Letters are ASCII letters and their case plays no part.
-/

namespace ReceiptTemplate

structure LocaleTag where
  language : String
  script : Option String
  territory : Option String
  variant : Option String
  modifier : Option String
deriving DecidableEq

/-- Why a text is no locale identifier. -/
inductive TagFault where
  | noLanguage (text : String)
  | malformed (identifier : String)
deriving DecidableEq

def TagFault.message : TagFault → String
  | .noLanguage text => s!"expected only letters, got {Text.quoted text}"
  | .malformed identifier => s!"{Text.quoted identifier} is not a valid locale identifier"

namespace LocaleTag

/-! ## Text -/

/-- The identifier without the modifier. -/
def base (t : LocaleTag) : String :=
  String.intercalate "_"
    (t.language :: t.script.toList ++ t.territory.toList ++ t.variant.toList)

def text (t : LocaleTag) : String :=
  match t.modifier with
  | some m => t.base ++ "@" ++ m
  | none => t.base

/-! ## Reading -/

def isLetters (cs : List Char) : Bool :=
  !cs.isEmpty && cs.all Char.isAlpha

def isScript (cs : List Char) : Bool :=
  cs.length == 4 && isLetters cs

def isTerritory (cs : List Char) : Bool :=
  (cs.length == 2 && isLetters cs) || (cs.length == 3 && cs.all Char.isDigit)

def isVariant : List Char → Bool
  | [] => false
  | c :: cs => (cs.length == 3 && c.isDigit) || (4 ≤ cs.length && c.isAlpha)

/-- The first part if it has the wanted form, and the remaining parts. -/
def takePart (fits : List Char → Bool) : List (List Char) → Option (List Char) × List (List Char)
  | [] => (none, [])
  | p :: parts => if fits p then (some p, parts) else (none, p :: parts)

/-- The parts of an identifier. -/
def read (identifier : String) : Except TagFault LocaleTag :=
  let cs := identifier.toList
  let modifier := (cs.dropWhile (· != '@')).drop 1
  let body := (cs.takeWhile (· != '@')).takeWhile (· != '.')
  match Text.splitChars '_' body with
  | [] => .error (.noLanguage "")
  | first :: parts =>
    let language := Text.lower (String.ofList first)
    if !isLetters first then .error (.noLanguage language)
    else
      let (script, parts) := takePart isScript parts
      let (territory, parts) := takePart isTerritory parts
      let (variant, parts) := takePart isVariant parts
      if !parts.isEmpty then .error (.malformed (String.ofList body))
      else
        .ok ⟨language, script.map fun p => Text.capitalize (String.ofList p),
          territory.map fun p => Text.upper (String.ofList p),
          variant.map fun p => Text.upper (String.ofList p),
          if modifier.isEmpty then none else some (String.ofList modifier)⟩

end LocaleTag
end ReceiptTemplate
