import ReceiptTemplate.Binary64.Text
import ReceiptTemplate.Calendar.Moment
import ReceiptTemplate.Text.Case

/-!
# Scalar kinds — what a plain text in a data file denotes

A plain text is a truth value, a double, an integer, a mark for merging, null, a date or a text.  Integers
may be binary, octal after a zero, decimal, hexadecimal or in base sixty, doubles need a point, and both
may have underscores.  A text whose form is right can still have a content that denotes nothing, such as
the thirteenth month.
-/

namespace ReceiptTemplate
namespace Yaml

inductive ScalarKind where
  | bool | float | int | merge | null | timestamp | default | text
deriving DecidableEq

/-- Why a scalar of a known kind denotes nothing. -/
inductive ContentFault where
  | empty
  | noBool
  | noNumber
  | noTimestamp
  | outOfRange
deriving DecidableEq

namespace ScalarKind

/-! ## Forms -/

/-- The texts of truth values. -/
def truths : List (String × Bool) :=
  [("yes", true), ("no", false), ("true", true), ("false", false), ("on", true), ("off", false)]

/-- A word in lower case, in upper case or capitalized. -/
def inCases (word s : String) : Bool :=
  s == word || s == word.toUpper || s == word.capitalize

/-- The characters after an optional sign. -/
def afterSign (cs : List Char) : List Char :=
  match cs with
  | '+' :: rest | '-' :: rest => rest
  | cs => cs

def isGroupChar (c : Char) : Bool :=
  c.isDigit || c == '_'

/-- Whether a nonempty run of such characters makes up a text. -/
def isRun (fits : Char → Bool) (cs : List Char) : Bool :=
  !cs.isEmpty && cs.all fits

/-- Whether a text is empty or an exponent with a sign. -/
def isExponent : List Char → Bool
  | [] => true
  | e :: sign :: digits =>
    (e == 'e' || e == 'E') && (sign == '+' || sign == '-') && isRun Char.isDigit digits
  | [_] => false

/-- Whether a part after a colon is a number of at most two digits, the first below six. -/
def isSixtieth : List Char → Bool
  | [d] => d.isDigit
  | [t, d] => '0' ≤ t && t ≤ '5' && d.isDigit
  | _ => false

/-- Whether a text is a whole number and parts after colons. -/
def isSexagesimal (fits : Char → Bool) (cs : List Char) : Bool :=
  match Text.splitChars ':' cs with
  | [] | [_] => false
  | whole :: parts =>
    whole.head?.any fits && whole.all isGroupChar && parts.all isSixtieth

/-- Whether a text is a double with a point. -/
def isFloat (cs : List Char) : Bool :=
  let unsigned := afterSign cs
  let whole := unsigned.takeWhile (· != '.')
  match unsigned.dropWhile (· != '.') with
  | [] => false
  | _ :: after =>
    let tail := after.dropWhile isGroupChar
    (whole.head?.any Char.isDigit && whole.all isGroupChar && isExponent tail) ||
      (whole.isEmpty && unsigned.length = cs.length && after.head?.any Char.isDigit &&
        isExponent tail) ||
      (isSexagesimal Char.isDigit whole && tail.isEmpty) ||
      (whole.isEmpty && [['i', 'n', 'f'], ['I', 'n', 'f'], ['I', 'N', 'F']].contains after) ||
      [['.', 'n', 'a', 'n'], ['.', 'N', 'a', 'N'], ['.', 'N', 'A', 'N']].contains cs

def isBinaryChar (c : Char) : Bool :=
  c == '0' || c == '1' || c == '_'

def isOctalChar (c : Char) : Bool :=
  ('0' ≤ c && c ≤ '7') || c == '_'

def isHexChar (c : Char) : Bool :=
  isGroupChar c || ('a' ≤ c && c ≤ 'f') || ('A' ≤ c && c ≤ 'F')

/-- Whether a character starts a decimal number other than zero. -/
def isLeadingDigit (c : Char) : Bool :=
  c.isDigit && c != '0'

/-- Whether a text is an integer. -/
def isInt (cs : List Char) : Bool :=
  match afterSign cs with
  | ['0'] => true
  | '0' :: 'b' :: rest => isRun isBinaryChar rest
  | '0' :: 'x' :: rest => isRun isHexChar rest
  | '0' :: rest => isRun isOctalChar rest
  | c :: rest =>
    (isLeadingDigit c && rest.all isGroupChar) || isSexagesimal isLeadingDigit (c :: rest)
  | [] => false

/-! ## Timestamps -/

/-- The fields of a timestamp, not yet checked for their ranges. -/
structure Stamp where
  date : Date
  /-- Hour, minute, second and microsecond. -/
  time : Option (Nat × Nat × Nat × Nat)
  /-- The offset from universal time in minutes. -/
  offset : Option Int

/-- At least `least` and at most two digits. -/
def digits? (least : Nat) (cs : List Char) : Option (Nat × List Char) :=
  let digits := (cs.take 2).takeWhile Char.isDigit
  if digits.length < least then none else some (Text.readDigits digits, cs.drop digits.length)

/-- What follows a character. -/
def after? (c : Char) : List Char → Option (List Char)
  | [] => none
  | d :: rest => if d = c then some rest else none

def isGap (c : Char) : Bool :=
  c == ' ' || c == '\t'

/-- Microseconds from the digits of a fraction. -/
def microseconds (digits : List Char) : Nat :=
  Text.readDigits ((digits ++ List.replicate 6 '0').take 6)

/-- The offset at the end of a timestamp. -/
def readOffset? (cs : List Char) : Option (Option Int) := do
  match cs.dropWhile isGap with
  | [] => if cs.isEmpty then some none else none
  | ['Z'] => some (some 0)
  | sign :: rest =>
    if sign != '+' && sign != '-' then none
    else
      let (hours, rest) ← digits? 1 rest
      let minutes ←
        match rest with
        | [] => some 0
        | rest => (after? ':' rest).bind fun rest =>
            (digits? 2 rest).bind fun p => if p.2.isEmpty then some p.1 else none
      let total : Int := 60 * hours + minutes
      some (some (if sign = '-' then -total else total))

/-- The time of day and the offset of a timestamp. -/
def readTime? (cs : List Char) : Option ((Nat × Nat × Nat × Nat) × Option Int) := do
  let (hour, cs) ← digits? 1 cs
  let cs ← after? ':' cs
  let (minute, cs) ← digits? 2 cs
  let cs ← after? ':' cs
  let (second, cs) ← digits? 2 cs
  let (fraction, cs) :=
    match cs with
    | '.' :: rest => (rest.takeWhile Char.isDigit, rest.dropWhile Char.isDigit)
    | cs => ([], cs)
  let offset ← readOffset? cs
  some ((hour, minute, second, microseconds fraction), offset)

/-- The fields of a timestamp. -/
def readStamp? (cs : List Char) : Option Stamp := do
  let (year, cs) ← Moment.digits? 4 cs
  let cs ← after? '-' cs
  let (month, cs) ← digits? 1 cs
  let cs ← after? '-' cs
  let (day, cs) ← digits? 1 cs
  match cs with
  | [] => some ⟨⟨year, month, day⟩, none, none⟩
  | c :: rest =>
    let rest ←
      if c = 'T' ∨ c = 't' then some rest
      else if isGap c then some (rest.dropWhile isGap)
      else none
    let (time, offset) ← readTime? rest
    some ⟨⟨year, month, day⟩, some time, offset⟩

/-- Whether a text is a timestamp.  A date alone has all its digits. -/
def isTimestamp (cs : List Char) : Bool :=
  match readStamp? cs with
  | some stamp => stamp.time.isSome || cs.length = 10
  | none => false

/-- The kind of a plain text. -/
def ofText (s : String) : ScalarKind :=
  let cs := s.toList
  if truths.any fun p => inCases p.1 s then .bool
  else if isFloat cs then .float
  else if isInt cs then .int
  else if s = "<<" then .merge
  else if s = "" || s = "~" || inCases "null" s then .null
  else if isTimestamp cs then .timestamp
  else if s = "=" then .default
  else .text

/-! ## Contents -/

def readBool (s : String) : Except ContentFault Bool :=
  match truths.find? fun p => p.1 == Text.lower s with
  | some p => .ok p.2
  | none => .error .noBool

/-- The value of digits in a base; `none` if there are none or one of them is too large. -/
def readBase? (base : Nat) (cs : List Char) : Option Nat :=
  let digit (c : Char) : Nat :=
    if c.isDigit then c.toNat - '0'.toNat else c.toLower.toNat - 'a'.toNat + 10
  if cs.isEmpty || !cs.all fun c => c.isAlphanum && digit c < base then none
  else some (cs.foldl (fun n c => base * n + digit c) 0)

/-- The value of parts in base sixty. -/
def readSixty (parts : List Nat) : Nat :=
  parts.foldl (fun n part => 60 * n + part) 0

def readNatural? (cs : List Char) : Option Nat :=
  (Text.readInteger? (String.ofList cs)).map Int.toNat

/-- The absolute value of an integer without underscores and sign. -/
def readMagnitude? (cs : List Char) : Option Nat :=
  match cs with
  | ['0'] => some 0
  | '0' :: 'b' :: rest => readBase? 2 rest
  | '0' :: 'x' :: rest => readBase? 16 rest
  | '0' :: _ => readBase? 8 cs
  | cs => ((Text.splitChars ':' cs).mapM readNatural?).map readSixty

def readInt (s : String) : Except ContentFault Int :=
  let cs := s.toList.filter (· != '_')
  if cs.isEmpty then .error .empty
  else
    match readMagnitude? (afterSign cs) with
    | none => .error .noNumber
    | some n => .ok (if cs.head? = some '-' then -n else n)

/-- A double times a power of sixty, added to a sum. -/
def addSixtieths (sum : Binary64 × Nat) (part : Binary64) : Binary64 × Nat :=
  let term := part.mul (.ofQuotient sum.2 1)
  let (n, d) := sum.1.ratio
  let (n', d') := term.ratio
  (.ofQuotient (n * d' + n' * d) (d * d'), 60 * sum.2)

/-- The absolute value of a double without underscores and sign. -/
def readUnsigned? (cs : List Char) : Option Binary64 :=
  if cs = ['.', 'i', 'n', 'f'] then some (.infinite false)
  else if cs = ['.', 'n', 'a', 'n'] then some .nan
  else
    match Text.splitChars ':' cs with
    | [_] => Binary64.read? (String.ofList cs)
    | parts =>
      (parts.mapM fun part => Binary64.read? (String.ofList part)).map fun parts =>
        (parts.reverse.foldl addSixtieths (.finite false 0 0, 1)).1

def readFloat (s : String) : Except ContentFault Binary64 :=
  let cs := (Text.lower s).toList.filter (· != '_')
  if cs.isEmpty then .error .empty
  else
    match readUnsigned? (afterSign cs) with
    | none => .error .noNumber
    | some (.finite _ m q) => .ok (.finite (cs.head? = some '-') m q)
    | some (.infinite _) => .ok (.infinite (cs.head? = some '-'))
    | some .nan => .ok .nan

/-- The date or the moment of a timestamp. -/
def readTimestamp (s : String) : Except ContentFault (Date ⊕ Moment) :=
  match readStamp? s.toList with
  | none => .error .noTimestamp
  | some ⟨date, none, _⟩ => if date.isValid then .ok (.inl date) else .error .outOfRange
  | some ⟨date, some (hour, minute, second, microsecond), offset⟩ =>
    let m : Moment :=
      ⟨date, hour, minute, second, microsecond, offset.map (· * 60000000)⟩
    if m.isValid && (offset.getD 0).natAbs < 1440 then .ok (.inr m) else .error .outOfRange

end ScalarKind
end Yaml
end ReceiptTemplate
