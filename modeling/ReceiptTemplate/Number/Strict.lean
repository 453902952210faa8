import ReceiptTemplate.Locale.DecimalPattern
import ReceiptTemplate.Number.Format

/-!
# Strict reading — numbers as a locale writes them

Group separators are dropped and the point of the locale is read as a point.  A text with group
separators must be what the locale itself would write for the number by its decimal pattern, zeros at
the end of the fraction aside.  To refuse another text the number is written that it denotes with the
separator for the point, because that may be what was meant.
-/

namespace ReceiptTemplate

/-- Why a text is not read as a number of the locale. -/
inductive StrictFault where
  | malformed
  /-- The text that the locale would write can not be made up. -/
  | unwritable (fault : FormatFault)
  /-- A value that takes part in no operation. -/
  | signaling
deriving DecidableEq

namespace NumberPattern

/-- The pattern with more decimal places, if a number needs them. -/
def withPlaces (p : NumberPattern) (places : Nat) : NumberPattern :=
  { p with fraction := ⟨p.fraction.least, max p.fraction.most places⟩ }

/-- A finite number as the pattern writes it, with all of its decimal places. -/
def properText (p : NumberPattern) (s : NumberSymbols) (d : Decimal) : Except FormatFault String :=
  match Decimal.fit? .standard d with
  | none => .error .overflow
  | some fitted => (p.withPlaces (naturalPlaces fitted)).format .standard s fitted

/-- The text without the zeros at the end of its fraction, and without a fraction of zeros.  A point
without digits after it stays. -/
def dropFractionZeros (s : NumberSymbols) (cs : List Char) : List Char :=
  let fraction := (cs.dropWhile (· != s.decimal)).drop 1
  let kept := trimZeros fraction
  if fraction.isEmpty then cs
  else cs.takeWhile (· != s.decimal) ++ (if kept.isEmpty then [] else s.decimal :: kept)

/-- The digits of a value that is no number, as far as the standard precision keeps them. -/
def keptPayload (payload : List Char) : List Char :=
  (payload.drop (payload.length - Decimal.Limits.standard.precision)).dropWhile (· == '0')

/-- Whether a text is the proper one of the number that was read from it. -/
def isProper (p : NumberPattern) (s : NumberSymbols) (text : String) (r : Decimal.Reading) :
    Except StrictFault Bool :=
  match r with
  | .finite d =>
    match p.properText s d with
    | .ok proper =>
      .ok (text == proper || String.ofList (dropFractionZeros s text.toList) == proper)
    | .error (.longFraction _) => .error .malformed
    | .error fault => .error (.unwritable fault)
  | .infinite _ => .ok false
  | .nan _ true _ => .error .signaling
  | .nan negative false payload =>
    .ok (!negative &&
      text.toList == p.wholeChars p.whole.least s ('N' :: 'a' :: 'N' :: keptPayload payload))

/-- What a text denotes if its group separator is the point and the point of the locale is dropped. -/
def readSwapped? (s : NumberSymbols) (text : String) : Option Decimal.Reading :=
  let cs := text.toList.filter (· != s.decimal)
  Decimal.read? (String.ofList (cs.map fun c => if c = s.group then '.' else c))

/-- Why a text is refused that is not the proper one.  The number that may have been meant is written for a
suggestion, and that can break off. -/
def improperFault (p : NumberPattern) (s : NumberSymbols) (text : String) : StrictFault :=
  match readSwapped? s text with
  | some (.finite d) =>
    match p.properText s d with
    | .ok _ | .error (.longFraction _) => .malformed
    | .error fault => .unwritable fault
  | _ => .malformed

/-- The number that a text denotes in the notation of a locale with this decimal pattern. -/
def readStrict (p : NumberPattern) (s : NumberSymbols) (text : String) :
    Except StrictFault Decimal.Reading :=
  let cs := text.toList.filter (· != s.group)
  match Decimal.read? (String.ofList (cs.map fun c => if c = s.decimal then '.' else c)) with
  | none => .error .malformed
  | some r =>
    if text.toList.contains s.group then
      match p.isProper s text r with
      | .ok true => .ok r
      | .ok false => .error (p.improperFault s text)
      | .error fault => .error fault
    else .ok r

end NumberPattern

/-- The number that a text denotes in the notation of a locale. -/
def Locale.readNumber (l : Locale) (text : String) : Except StrictFault Decimal.Reading :=
  l.decimalPattern.readStrict l.symbols text

end ReceiptTemplate
