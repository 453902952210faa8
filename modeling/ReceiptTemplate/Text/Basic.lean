import ReceiptTemplate.Unicode.Blank

/-!
# Text — stripping, searching and joining

Lengths and positions count code points, so the operations work on the list of characters of a
text.  `strip` removes the blanks around a text and `breakOn` finds the first occurrence of a
pattern.
-/

namespace ReceiptTemplate
namespace Text

open Unicode (isBlank)

/-! ## Blanks -/

/-- The characters without those of a class at either end. -/
def stripWhile (drops : Char → Bool) (cs : List Char) : List Char :=
  ((cs.dropWhile drops).reverse.dropWhile drops).reverse

def stripChars (cs : List Char) : List Char :=
  stripWhile isBlank cs

/-- The text without the blanks at either end. -/
def strip (s : String) : String :=
  String.ofList (stripChars s.toList)

/-- Whether a text is empty or holds blanks only. -/
def isAllBlank (s : String) : Bool :=
  s.toList.all isBlank

/-! ## Searching -/

/-- The text before and after the first occurrence of `pattern`. -/
def breakOn (pattern : List Char) : List Char → Option (List Char × List Char)
  | [] => if pattern.isEmpty then some ([], []) else none
  | c :: cs =>
    if pattern.isPrefixOf (c :: cs) then some ([], (c :: cs).drop pattern.length)
    else (breakOn pattern cs).map fun p => (c :: p.1, p.2)

theorem append_of_breakOn {pattern cs before after : List Char}
    (h : breakOn pattern cs = some (before, after)) : cs = before ++ pattern ++ after := by
  induction cs generalizing before with
  | nil =>
    by_cases hp : pattern = []
    · simp_all [breakOn]
    · simp [breakOn, hp] at h
  | cons c cs ih =>
    rw [breakOn] at h
    split at h
    · next hp =>
      obtain ⟨rest, hrest⟩ := List.isPrefixOf_iff_prefix.1 hp
      simp only [Option.some.injEq, Prod.mk.injEq] at h
      obtain ⟨rfl, rfl⟩ := h
      simp [← hrest]
    · obtain ⟨p, hp, hpair⟩ := Option.map_eq_some_iff.1 h
      obtain ⟨rfl, rfl⟩ := Prod.mk.inj hpair
      simp [ih hp]

/-- What follows an occurrence of a nonempty pattern is shorter than the text. -/
theorem length_after_of_breakOn {pattern cs before after : List Char} (hp : pattern ≠ [])
    (h : breakOn pattern cs = some (before, after)) : after.length < cs.length := by
  rw [append_of_breakOn h]
  have : 0 < pattern.length := List.length_pos_iff.2 hp
  simp only [List.length_append]
  omega

/-! ## Parts -/

/-- The text cut at every occurrence of a character. -/
def splitChars (separator : Char) : List Char → List (List Char)
  | [] => [[]]
  | c :: cs =>
    if c = separator then [] :: splitChars separator cs
    else
      match splitChars separator cs with
      | [] => [[c]]
      | part :: parts => (c :: part) :: parts

/-- The first characters of a text, all of it when it is short. -/
def take (n : Nat) (s : String) : String :=
  String.ofList (s.toList.take n)

/-- Digits preceded by as many zeros as a width needs. -/
def padZeros (width : Nat) (digits : List Char) : List Char :=
  List.replicate (width - digits.length) '0' ++ digits

end Text
end ReceiptTemplate
