import ReceiptTemplate.Expr.Basic
import ReceiptTemplate.Expr.Token

/-!
# Filter calls — the text after a pipe

What follows a pipe is read character by character and not as tokens: a name, an argument after a
colon, then named arguments `key:value` and bare flags as long as names follow.  An argument is
quoted, or runs up to a blank, a pipe or a closing bracket.
-/

namespace ReceiptTemplate
namespace FilterCall

open Unicode (isBlank)

def isNameChar (c : Char) : Bool :=
  c.isAlphanum || c == '_'

/-- Letters and digits, a letter first. -/
def isValidName : List Char → Bool
  | [] => false
  | c :: cs => c.isAlpha && cs.all Char.isAlphanum

/-- The name of the filter and what follows it. -/
def readName (cs : List Char) : Except Fault (List Char × List Char) :=
  let start := cs.dropWhile isBlank
  let name := start.takeWhile isNameChar
  if name.isEmpty then .error (.at .missingFilterName start)
  else if isValidName name then .ok (name, start.dropWhile isNameChar)
  else .error (.at (.badFilterName (String.ofList name)) start)

def isUnquotedChar (c : Char) : Bool :=
  !isBlank c && c != '|' && c != ')' && c != ']'

/-- The value after a colon and what follows it. -/
def readArgument (cs : List Char) : Except Fault (String × List Char) :=
  match cs.dropWhile isBlank with
  | [] => .error (.at .missingArgument [])
  | c :: tail =>
    if c = '"' || c = '\'' then
      match Token.quotedBody c tail with
      | some (body, rest) => .ok (String.ofList body, rest)
      | none => .error (.at .unterminatedArgument (c :: tail))
    else
      let word := (c :: tail).takeWhile isUnquotedChar
      if word.isEmpty then .error (.at .missingArgument (c :: tail))
      else .ok (String.ofList word, (c :: tail).dropWhile isUnquotedChar)

theorem length_readArgument {cs rest : List Char} {s : String}
    (h : readArgument cs = .ok (s, rest)) : rest.length ≤ cs.length := by
  have hb : (cs.dropWhile isBlank).length ≤ cs.length :=
    (List.dropWhile_suffix _).sublist.length_le
  unfold readArgument at h
  split at h
  · exact absurd h (by simp)
  · next c tail hc =>
    rw [hc] at hb
    split at h
    · split at h
      · next body rest' hq =>
        have := Token.length_quotedBody hq
        simp only [Except.ok.injEq, Prod.mk.injEq] at h
        rw [← h.2]
        simp only [List.length_cons] at hb
        omega
      · exact absurd h (by simp)
    · dsimp only at h
      split at h
      · exact absurd h (by simp)
      · simp only [Except.ok.injEq, Prod.mk.injEq] at h
        rw [← h.2]
        exact Nat.le_trans (List.dropWhile_suffix _).sublist.length_le hb

def isArgumentStart (c : Char) : Bool :=
  c.isAlpha || c == '_'

/-- The named arguments and flags, and what follows them; blanks before them are taken only if a
name follows. -/
def readNamed (cs : List Char) : Except Fault (List (String × Option String) × List Char) :=
  match _hb : cs.dropWhile isBlank with
  | [] => .ok ([], cs)
  | c :: tail =>
    if isArgumentStart c then
      let name := String.ofList (c :: tail.takeWhile isNameChar)
      match _hr : tail.dropWhile isNameChar with
      | ':' :: value =>
        match _ha : readArgument value with
        | .error fault => .error fault
        | .ok (argument, rest) =>
          (readNamed rest).map fun p => ((name, some argument) :: p.1, p.2)
      | rest => (readNamed rest).map fun p => ((name, none) :: p.1, p.2)
    else .ok ([], cs)
termination_by cs.length
decreasing_by
  · have h1 : (cs.dropWhile isBlank).length ≤ cs.length :=
      (List.dropWhile_suffix _).sublist.length_le
    have h2 : (tail.dropWhile isNameChar).length ≤ tail.length :=
      (List.dropWhile_suffix _).sublist.length_le
    have h3 := length_readArgument _ha
    rw [_hb] at h1
    rw [_hr] at h2
    simp only [List.length_cons] at h1 h2
    omega
  · have h1 : (cs.dropWhile isBlank).length ≤ cs.length :=
      (List.dropWhile_suffix _).sublist.length_le
    have h2 : (tail.dropWhile isNameChar).length ≤ tail.length :=
      (List.dropWhile_suffix _).sublist.length_le
    rw [_hb] at h1
    rw [_hr] at h2
    simp only [List.length_cons] at h1
    omega

/-- The call after a pipe and what follows it. -/
def read (cs : List Char) : Except Fault (FilterCall × List Char) :=
  match readName cs with
  | .error fault => .error fault
  | .ok (name, rest) =>
    let argument : Except Fault (Option String × List Char) :=
      match rest with
      | ':' :: value => (readArgument value).map fun p => (some p.1, p.2)
      | rest => .ok (none, rest)
    match argument with
    | .error fault => .error fault
    | .ok (argument, rest) =>
      (readNamed rest).map fun p => (⟨String.ofList name, argument, p.1⟩, p.2)

end FilterCall
end ReceiptTemplate
