import ReceiptTemplate.Yaml.ScalarText

/-!
# Node properties — anchors, aliases, tags and directives

An anchor names a node and an alias stands for it.  A tag says what a node denotes; it is written in full
between angle brackets, or after a handle that stands for its first part.  Directives stand before a
document.
-/

namespace ReceiptTemplate
namespace Yaml

def isNameChar (c : Char) : Bool :=
  c.isAlphanum || c == '-' || c == '_'

/-! ## Anchors and aliases -/

/-- Whether a name may end before what comes next. -/
def endsName (c : Option Char) : Bool :=
  endsWord c || c.any fun ch => ['?', ':', ',', ']', '\x7d', '%', '@', '\x60'].contains ch

/-- The name of an anchor or an alias, from its mark on. -/
def nodeName (activity : Activity) (c : Cursor) : Except Fault (String × Cursor) :=
  let start := c.place
  let (name, c) := (c.skip 1).takeWhile isNameChar
  if name.isEmpty || !endsName c.peek then .error ⟨some (activity, start), .badName c.peek, c.place⟩
  else .ok (String.ofList name, c)

/-! ## Tags -/

def isTagChar (c : Char) : Bool :=
  c.isAlphanum || "-;/?:@&=+$,_.!~*'()[]%".toList.contains c

/-- The characters of a tag after its handle. -/
def tagName (activity : Activity) (start : Place) (c : Cursor) : Except Fault (String × Cursor) :=
  let (name, c) := c.takeWhile isTagChar
  if name.isEmpty then .error ⟨some (activity, start), .noTagName c.peek, c.place⟩
  else .ok (String.ofList name, c)

/-- A handle: one bang, or a name between two. -/
def tagHandle (activity : Activity) (start : Place) (c : Cursor) : Except Fault (String × Cursor) :=
  if c.peek != some '!' then .error ⟨some (activity, start), .noBang c.peek, c.place⟩
  else if c.peekAt 1 = some ' ' then .ok ("!", c.skip 1)
  else
    let (name, c) := (c.skip 1).takeWhile isNameChar
    if c.peek != some '!' then .error ⟨some (activity, start), .noBang c.peek, c.place⟩
    else .ok (String.ofList ('!' :: name ++ ['!']), c.skip 1)

/-- Whether a blank or the end of the line comes next. -/
def endsField (c : Option Char) : Bool :=
  c == some ' ' || endsLine c

/-- A tag, from its bang on. -/
def tag (c : Cursor) : Except Fault (Token × Cursor) := do
  let start := c.place
  let (t, c) ←
    if c.peekAt 1 = some '<' then
      let (name, c) ← tagName .tagName start (c.skip 2)
      if c.peek = some '>' then .ok (Token.tag none name, c.skip 1)
      else .error ⟨some (.tagName, start), .noTagEnd c.peek, c.place⟩
    else if endsWord (c.peekAt 1) then .ok (Token.tag none "!", c.skip 1)
    else
      let word := (c.rest.drop 1).takeWhile fun ch => !(ch == ' ' || isBreak ch)
      let (handle, c) ←
        if word.contains '!' then tagHandle .tag start c else .ok ("!", c.skip 1)
      let (name, c) ← tagName .tagName start c
      .ok (Token.tag (some handle) name, c)
  if endsField c.peek then .ok (t, c) else .error ⟨some (.tag, start), .noBlank c.peek, c.place⟩

/-! ## Directives -/

/-- A number of a version. -/
def versionNumber (start : Place) (c : Cursor) : Except Fault (Nat × Cursor) :=
  let (digits, after) := c.takeWhile Char.isDigit
  if digits.isEmpty then .error ⟨some (.directive, start), .noDigit c.peek, c.place⟩
  else .ok (Text.readDigits digits, after)

def versionDirective (start : Place) (c : Cursor) : Except Fault (Directive × Cursor) := do
  let (major, c) ← versionNumber start (c.skipWhile (· == ' '))
  if c.peek != some '.' then .error ⟨some (.directive, start), .noVersionPoint c.peek, c.place⟩
  else
    let (minor, c) ← versionNumber start (c.skip 1)
    if endsField c.peek then .ok (.version major minor, c)
    else .error ⟨some (.directive, start), .noVersionEnd c.peek, c.place⟩

def handleDirective (start : Place) (c : Cursor) : Except Fault (Directive × Cursor) := do
  let (handle, c) ← tagHandle .directive start (c.skipWhile (· == ' '))
  if c.peek != some ' ' then .error ⟨some (.directive, start), .noBlank c.peek, c.place⟩
  else
    let (stem, c) ← tagName .directiveName start (c.skipWhile (· == ' '))
    if endsField c.peek then .ok (.tagHandle handle stem, c)
    else .error ⟨some (.directive, start), .noBlank c.peek, c.place⟩

/-- A directive, from its percent sign to the end of its line. -/
def directive (c : Cursor) : Except Fault (Directive × Cursor) := do
  let start := c.place
  let (name, c) := (c.skip 1).takeWhile isNameChar
  if name.isEmpty || !endsField c.peek then
    .error ⟨some (.directive, start), .badName c.peek, c.place⟩
  else
    let (d, c) ←
      if name = "YAML".toList then versionDirective start c
      else if name = "TAG".toList then handleDirective start c
      else .ok (.other, c.skipWhile (!isBreak ·))
    let c := c.skipWhile (· == ' ')
    let c := if c.peek = some '#' then c.skipWhile (!isBreak ·) else c
    if endsLine c.peek then .ok (d, c.skipBreak)
    else .error ⟨some (.directive, start), .badHeaderLine c.peek, c.place⟩

end Yaml
end ReceiptTemplate
