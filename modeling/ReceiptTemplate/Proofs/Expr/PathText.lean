import ReceiptTemplate.Expr.FilterCall
import ReceiptTemplate.Expr.Path
import ReceiptTemplate.Proofs.Text.Digits

/-!
# Path texts — how variable references are written

The grammar of names and of paths, and that reading gives back what was written: a path text is read
as one token when nothing that follows can continue it, and it is cut into the segments of its
pieces when it stays within the limits.

A path text is kept in the pieces of which it consists, so that its segments are a function of it.
-/

namespace ReceiptTemplate

open Unicode (isBlank isDecimalDigit)

/-! ## Grammar of names -/

namespace Token

/-- What may follow the first character of a name: name characters, and hyphens that stand before a
name character. -/
def isNameRest : List Char → Bool
  | [] => true
  | '-' :: c :: cs => isNameChar c && isNameRest cs
  | c :: cs => isNameChar c && isNameRest cs

def isName : List Char → Bool
  | [] => false
  | c :: cs => isNameStart c && isNameRest cs

/-- What follows a name and does not continue it. -/
def StopsName (rest : List Char) : Prop :=
  ∀ c ∈ rest.head?, isNameChar c = false ∧ c ≠ '-'

/-- What follows a word and does not continue it, whatever the word is. -/
def EndsWord (rest : List Char) : Prop :=
  ∀ c ∈ rest.head?, c = ' ' ∨ c = ')' ∨ c = ']'

theorem endsWord_cons {c : Char} (h : c = ' ' ∨ c = ')' ∨ c = ']') (cs : List Char) :
    EndsWord (c :: cs) := by
  simpa [EndsWord] using h

/-! ## Character classes -/

theorem isAlpha_iff {c : Char} :
    c.isAlpha = true ↔ (65 ≤ c.toNat ∧ c.toNat ≤ 90) ∨ (97 ≤ c.toNat ∧ c.toNat ≤ 122) := by
  show (decide (65 ≤ c.val ∧ c.val ≤ 90) || (decide (97 ≤ c.val) && decide (c.val ≤ 122))) = true ↔ _
  simp only [Bool.or_eq_true, Bool.and_eq_true, decide_eq_true_eq, UInt32.le_iff_toNat_le]
  rfl

theorem isNameStart_iff {c : Char} :
    isNameStart c = true ↔
      (64 ≤ c.toNat ∧ c.toNat ≤ 90) ∨ c.toNat = 95 ∨ (97 ≤ c.toNat ∧ c.toNat ≤ 122) := by
  simp [isNameStart, isAlpha_iff, ← Char.toNat_inj]
  omega

theorem isNameChar_iff {c : Char} :
    isNameChar c = true ↔ (48 ≤ c.toNat ∧ c.toNat ≤ 57) ∨ isNameStart c = true := by
  simp [isNameStart, isNameChar, Char.isAlphanum, Char.isDigit_iff_toNat]
  tauto

theorem isNameChar_of_isNameStart {c : Char} (h : isNameStart c = true) : isNameChar c = true :=
  isNameChar_iff.2 (.inr h)

theorem isBlank_of_isNameChar {c : Char} (h : isNameChar c = true) : isBlank c = false := by
  rw [isNameChar_iff, isNameStart_iff] at h
  simp [isBlank, Unicode.blankRanges, Unicode.inRanges]
  omega

theorem isDecimalDigit_of_isNameStart {c : Char} (h : isNameStart c = true) :
    isDecimalDigit c = false := by
  rw [isNameStart_iff] at h
  rw [Unicode.isDecimalDigit_of_lt (by omega), Bool.eq_false_iff]
  intro hd
  have hb : 48 ≤ c.toNat ∧ c.toNat ≤ 57 := Char.isDigit_iff_toNat.1 hd
  omega

/-! ## Reading names -/

theorem nameBody_append_of_stopsName {cs rest : List Char} (hcs : isNameRest cs = true)
    (hrest : StopsName rest) : nameBody (cs ++ rest) = (cs, rest) := by
  fun_induction isNameRest cs with
  | case1 =>
    -- The rest is read up to its first character, which is neither a hyphen nor in a name.
    cases rest with
    | nil => rfl
    | cons c tail =>
      have hc := hrest c (by simp)
      rw [List.nil_append]
      unfold nameBody
      split <;> simp_all
  | case2 c cs ih =>
    simp only [Bool.and_eq_true] at hcs
    simp [nameBody, hcs.1, ih hcs.2]
  | case3 c cs hhyphen ih =>
    simp only [Bool.and_eq_true] at hcs
    have hc : c ≠ '-' := by
      rintro rfl
      exact absurd hcs.1 (by decide)
    rw [List.cons_append]
    unfold nameBody
    split <;> simp_all

/-- A name has name characters and hyphens in it. -/
theorem mem_of_isNameRest {cs : List Char} (h : isNameRest cs = true) {c : Char} (hc : c ∈ cs) :
    c = '-' ∨ isNameChar c = true := by
  fun_induction isNameRest cs with
  | case1 => cases hc
  | case2 d cs ih =>
    rw [Bool.and_eq_true] at h
    rcases List.mem_cons.1 hc with rfl | hc
    · exact .inl rfl
    · rcases List.mem_cons.1 hc with rfl | hc
      · exact .inr h.1
      · exact ih h.2 hc
  | case3 d cs hhyphen ih =>
    rw [Bool.and_eq_true] at h
    rcases List.mem_cons.1 hc with rfl | hc
    · exact .inr h.1
    · exact ih h.2 hc

end Token

/-! ## Grammar of paths -/

/-- A further part of a path: a name after a dot, or digits in brackets. -/
inductive PathPiece where
  | name (cs : List Char) (isName : Token.isName cs = true)
  | index (digits : List Char) (nonempty : digits ≠ [])
      (isDigits : ∀ d ∈ digits, isDecimalDigit d = true)

namespace PathPiece

def chars : PathPiece → List Char
  | .name cs _ => '.' :: cs
  | .index digits _ _ => '[' :: digits ++ [']']

def segment : PathPiece → Segment
  | .name cs _ => .name (String.ofList cs)
  | .index digits _ _ => .index (Text.readDigits digits)

/-- Whether an index is one that paths accept. -/
def InLimits : PathPiece → Prop
  | .name _ _ => True
  | .index digits _ _ => Text.readDigits digits ≤ Path.maxIndex

end PathPiece

/-- A path as it is written: a name and the parts after it. -/
structure PathText where
  name : List Char
  isName : Token.isName name = true
  pieces : List PathPiece

namespace PathText

def chars (t : PathText) : List Char :=
  t.name ++ t.pieces.flatMap PathPiece.chars

def text (t : PathText) : String :=
  String.ofList t.chars

def segments (t : PathText) : List Segment :=
  .name (String.ofList t.name) :: t.pieces.map PathPiece.segment

structure InLimits (t : PathText) : Prop where
  length : t.chars.length ≤ Path.maxLength
  pieces : ∀ x ∈ t.pieces, x.InLimits

end PathText

/-- A path has no braces in it. -/
theorem PathText.brace_not_mem_chars (t : PathText) : '\x7d' ∉ t.chars := by
  have hname {cs : List Char} (h : Token.isName cs = true) : '\x7d' ∉ cs := by
    intro hmem
    cases cs with
    | nil => cases hmem
    | cons c cs =>
      rw [Token.isName, Bool.and_eq_true] at h
      rcases List.mem_cons.1 hmem with rfl | hmem
      · exact absurd h.1 (by decide)
      · rcases Token.mem_of_isNameRest h.2 hmem with hhyphen | hchar
        · cases hhyphen
        · exact absurd hchar (by decide)
  intro hmem
  rcases List.mem_append.1 hmem with hmem | hmem
  · exact hname t.isName hmem
  obtain ⟨piece, -, hmem⟩ := List.mem_flatMap.1 hmem
  cases piece with
  | name cs isName =>
    rcases List.mem_cons.1 hmem with hpoint | hmem
    · cases hpoint
    · exact hname isName hmem
  | index digits nonempty isDigits =>
    rcases List.mem_append.1 hmem with hopen | hclose
    · rcases List.mem_cons.1 hopen with hbracket | hdigit
      · cases hbracket
      · exact absurd (isDigits _ hdigit) (by decide)
    · cases List.mem_singleton.1 hclose

/-! ## Reading paths -/

namespace Token

/-- What follows a path and does not continue it. -/
def StopsPath (rest : List Char) : Prop :=
  ∀ c ∈ rest.head?, isNameChar c = false ∧ c ≠ '-' ∧ c ≠ '.' ∧ c ≠ '['

theorem EndsWord.stopsPath {rest : List Char} (h : EndsWord rest) : StopsPath rest := by
  intro c hc
  rcases h c hc with rfl | rfl | rfl <;> decide

theorem StopsPath.stopsName {rest : List Char} (h : StopsPath rest) : StopsName rest :=
  fun c hc => ⟨(h c hc).1, (h c hc).2.1⟩

theorem stopsName_pieces (pieces : List PathPiece) {rest : List Char} (h : StopsName rest) :
    StopsName (pieces.flatMap PathPiece.chars ++ rest) := by
  cases pieces with
  | nil => exact h
  | cons x xs =>
    cases x with
    | name cs hcs =>
      simp [StopsName, PathPiece.chars]
      decide
    | index digits hne hd =>
      simp [StopsName, PathPiece.chars]
      decide

/-- Digits end at the bracket that closes them. -/
theorem span_digits_bracket {digits : List Char} (hd : ∀ d ∈ digits, isDecimalDigit d = true)
    (rest : List Char) :
    (digits ++ ']' :: rest).takeWhile isDecimalDigit = digits ∧
      (digits ++ ']' :: rest).dropWhile isDecimalDigit = ']' :: rest := by
  refine Text.span_run hd ?_
  intro c hc
  rw [List.head?_cons, Option.mem_some_iff] at hc
  rw [← hc]
  decide

theorem bracketIndex?_append_of_digits {digits : List Char} (hne : digits ≠ [])
    (hd : ∀ d ∈ digits, isDecimalDigit d = true) (rest : List Char) :
    bracketIndex? (digits ++ ']' :: rest) = some ('[' :: digits ++ [']'], rest) := by
  rcases span_digits_bracket hd rest with ⟨htake, hdrop⟩
  rcases List.exists_cons_of_ne_nil hne with ⟨d, ds, rfl⟩
  unfold bracketIndex?
  rw [htake, hdrop]
  rfl

/-- What starts with neither a dot nor a bracket is no further segment. -/
theorem pathTail_of_head {cs : List Char} (h : ∀ c ∈ cs.head?, c ≠ '.' ∧ c ≠ '[') :
    pathTail cs = ([], cs) := by
  unfold pathTail
  split
  · exact absurd rfl (h '.' rfl).1
  · exact absurd rfl (h '[' rfl).2
  · rfl

section

variable {rest : List Char} (hname : StopsName rest) (htail : pathTail rest = ([], rest))

include hname htail

/-- The pieces of a path are read up to what goes on with no name and is no further segment. -/
theorem pathTail_pieces (pieces : List PathPiece) :
    pathTail (pieces.flatMap PathPiece.chars ++ rest)
      = (pieces.flatMap PathPiece.chars, rest) := by
  induction pieces with
  | nil => exact htail
  | cons x xs ih =>
    cases x with
    | name cs hcs =>
      cases cs with
      | nil => exact absurd hcs (by decide)
      | cons c cs =>
        -- A dot opens the next piece, whose name ends where the pieces after it begin.
        simp only [isName, Bool.and_eq_true] at hcs
        have hbody := nameBody_append_of_stopsName hcs.2 (stopsName_pieces xs hname)
        simp only [List.flatMap_cons, PathPiece.chars, List.cons_append, List.append_assoc]
        rw [pathTail]
        simp [hcs.1, hbody, ih]
    | index digits hne hd =>
      have hindex := bracketIndex?_append_of_digits hne hd (xs.flatMap PathPiece.chars ++ rest)
      simp only [List.flatMap_cons, PathPiece.chars, List.cons_append, List.append_assoc,
        List.nil_append]
      rw [pathTail]
      split <;> simp_all

theorem readPath?_chars (t : PathText) : readPath? (t.chars ++ rest) = some (t.chars, rest) := by
  rcases t with ⟨name, hisName, pieces⟩
  cases name with
  | nil => exact absurd hisName (by decide)
  | cons c cs =>
    simp only [isName, Bool.and_eq_true] at hisName
    have hbody := nameBody_append_of_stopsName hisName.2 (stopsName_pieces pieces hname)
    simp [PathText.chars, readPath?, hisName.1, hbody, pathTail_pieces hname htail pieces]

end

theorem readPath?_append_of_stopsPath (t : PathText) {rest : List Char} (h : StopsPath rest) :
    readPath? (t.chars ++ rest) = some (t.chars, rest) :=
  readPath?_chars h.stopsName (pathTail_of_head fun c hc => (h c hc).2.2) t

end Token

/-! ## Cutting paths into segments -/

namespace Path

open Token (isNameRest isName)

theorem isNameChar_of_mem_isNameRest {cs : List Char} (h : isNameRest cs = true) :
    ∀ c ∈ cs, isNameChar c = true := by
  fun_induction isNameRest cs with
  | case1 => simp
  | case2 c cs ih =>
    simp only [Bool.and_eq_true] at h
    intro d hd
    rcases List.mem_cons.1 hd with rfl | hd
    · decide
    · rcases List.mem_cons.1 hd with rfl | hd
      · exact isNameChar_of_token h.1
      · exact ih h.2 d hd
  | case3 c cs _ ih =>
    simp only [Bool.and_eq_true] at h
    intro d hd
    rcases List.mem_cons.1 hd with rfl | hd
    · exact isNameChar_of_token h.1
    · exact ih h.2 d hd
where
  isNameChar_of_token {c : Char} (h : Token.isNameChar c = true) : isNameChar c = true := by
    simp only [isNameChar, Bool.and_eq_true, bne_iff_ne]
    constructor <;>
    · rintro rfl
      exact absurd h (by decide)

theorem isNameChar_of_mem_isName {cs : List Char} (h : isName cs = true) :
    ∀ c ∈ cs, isNameChar c = true := by
  cases cs with
  | nil => simp
  | cons c cs =>
    simp only [isName, Bool.and_eq_true] at h
    have hc := Token.isNameChar_of_isNameStart h.1
    have hhyphen : c ≠ '-' := by
      rintro rfl
      exact absurd hc (by decide)
    have hrest : isNameRest (c :: cs) = true := by
      unfold isNameRest
      split <;> simp_all
    exact isNameChar_of_mem_isNameRest hrest

/-! ### One segment

A segment is read where its name or its bracket ends, whatever follows. -/

theorem readName?_run {cs rest : List Char} (hne : cs ≠ []) (hcs : ∀ c ∈ cs, isNameChar c = true)
    (hrest : ∀ c ∈ rest.head?, isNameChar c = false) :
    readName? (cs ++ rest) = some (String.ofList cs, rest) := by
  rcases Text.span_run hcs hrest with ⟨htake, hdrop⟩
  rcases List.exists_cons_of_ne_nil hne with ⟨c, cs, rfl⟩
  unfold readName?
  rw [htake, hdrop]

theorem readIndex?_digits {digits : List Char} (hne : digits ≠ [])
    (hd : ∀ d ∈ digits, isDecimalDigit d = true) (rest : List Char) :
    readIndex? (digits ++ ']' :: rest) = some (Text.readDigits digits, rest) := by
  rcases Token.span_digits_bracket hd rest with ⟨htake, hdrop⟩
  rcases List.exists_cons_of_ne_nil hne with ⟨d, ds, rfl⟩
  unfold readIndex?
  rw [htake, hdrop]
  rfl

/-- A name that no dot precedes is read as well. -/
theorem splitFrom_bare_name {cs rest : List Char} (hne : cs ≠ [])
    (hcs : ∀ c ∈ cs, isNameChar c = true) (hrest : ∀ c ∈ rest.head?, isNameChar c = false) :
    splitFrom (cs ++ rest) = (splitFrom rest).map (.name (String.ofList cs) :: ·) := by
  have hname := readName?_run hne hcs hrest
  rcases List.exists_cons_of_ne_nil hne with ⟨c, cs, rfl⟩
  have hread : readSegment? (c :: (cs ++ rest)) = some (.name (String.ofList (c :: cs)), rest) := by
    have hc := hcs c List.mem_cons_self
    rw [List.cons_append] at hname
    unfold readSegment?
    split <;> simp_all [isNameChar]
  rw [List.cons_append, splitFrom]
  split <;> simp_all

theorem splitFrom_name {cs rest : List Char} (hne : cs ≠ [])
    (hcs : ∀ c ∈ cs, isNameChar c = true) (hrest : ∀ c ∈ rest.head?, isNameChar c = false) :
    splitFrom ('.' :: (cs ++ rest)) = (splitFrom rest).map (.name (String.ofList cs) :: ·) := by
  have hread : readSegment? ('.' :: (cs ++ rest)) = some (.name (String.ofList cs), rest) := by
    rw [readSegment?, readName?_run hne hcs hrest]
    rfl
  rw [splitFrom]
  split <;> simp_all

theorem splitFrom_index {digits : List Char} (hne : digits ≠ [])
    (hd : ∀ d ∈ digits, isDecimalDigit d = true) (hlimit : Text.readDigits digits ≤ maxIndex)
    (rest : List Char) :
    splitFrom ('[' :: (digits ++ ']' :: rest))
      = (splitFrom rest).map (.index (Text.readDigits digits) :: ·) := by
  have hread : readSegment? ('[' :: (digits ++ ']' :: rest))
      = some (.index (Text.readDigits digits), rest) := by
    rw [readSegment?, readIndex?_digits hne hd]
    rfl
  rw [splitFrom]
  split <;> simp_all [Nat.not_lt.2 hlimit]

/-- An index over the limit is a fault at its bracket. -/
theorem splitFrom_large_index {digits : List Char} (hne : digits ≠ [])
    (hd : ∀ d ∈ digits, isDecimalDigit d = true) (hlimit : maxIndex < Text.readDigits digits)
    (rest : List Char) :
    splitFrom ('[' :: (digits ++ ']' :: rest))
      = .error (.at (.indexTooLarge (Text.readDigits digits) maxIndex)
          ('[' :: (digits ++ ']' :: rest))) := by
  have hread : readSegment? ('[' :: (digits ++ ']' :: rest))
      = some (.index (Text.readDigits digits), rest) := by
    rw [readSegment?, readIndex?_digits hne hd]
    rfl
  rw [splitFrom]
  split <;> simp_all

/-- Within the length that paths may have, a path is cut like any other text. -/
theorem split_of_splitFrom {path : String} {segments : List Segment}
    (hlength : path.toList.length ≤ maxLength) (h : splitFrom path.toList = .ok segments) :
    split path = .ok segments := by
  unfold split
  rw [if_neg (Nat.not_lt.2 hlength), h]
  rfl

/-! ### All segments -/

theorem ne_nil_of_isName {cs : List Char} (h : isName cs = true) : cs ≠ [] := by
  rintro rfl
  exact absurd h (by decide)

section

variable {α : Type} {chars : α → List Char} {segment : α → Segment} {rest : List Char}
  (hchars : ∀ x, ∃ c ∈ (chars x).head?, isNameChar c = false)
  (hrest : ∀ c ∈ rest.head?, isNameChar c = false)

include hchars hrest

/-- A name ends before parts that start with a character of no name. -/
theorem not_isNameChar_head_flatMap (xs : List α) :
    ∀ c ∈ (xs.flatMap chars ++ rest).head?, isNameChar c = false := by
  cases xs with
  | nil => exact hrest
  | cons x xs =>
    rcases hchars x with ⟨c, hc, hname⟩
    rcases List.head?_eq_some_iff.1 hc with ⟨tail, htail⟩
    simp [htail, hname]

/-- A name and parts that are read as one segment each are cut into these segments. -/
theorem splitFrom_parts {name : List Char} (hne : name ≠ [])
    (hname : ∀ c ∈ name, isNameChar c = true) {xs : List α}
    (hread : ∀ x ∈ xs, ∀ rest, (∀ c ∈ rest.head?, isNameChar c = false) →
      splitFrom (chars x ++ rest) = (splitFrom rest).map (segment x :: ·)) :
    splitFrom (name ++ (xs.flatMap chars ++ rest))
      = (splitFrom rest).map (.name (String.ofList name) :: xs.map segment ++ ·) := by
  have hparts : splitFrom (xs.flatMap chars ++ rest)
      = (splitFrom rest).map (xs.map segment ++ ·) := by
    induction xs with
    | nil => cases hsplit : splitFrom rest <;> simp [hsplit, Except.map]
    | cons x xs ih =>
      -- The first part leaves the others, which start with a character of no name.
      rcases List.forall_mem_cons.1 hread with ⟨hx, hxs⟩
      rw [List.flatMap_cons, List.append_assoc, hx _ (not_isNameChar_head_flatMap hchars hrest xs),
        ih hxs]
      cases splitFrom rest <;> rfl
  rw [splitFrom_bare_name hne hname (not_isNameChar_head_flatMap hchars hrest xs), hparts]
  cases splitFrom rest <;> rfl

end

theorem not_isNameChar_head_piece (x : PathPiece) : ∃ c ∈ x.chars.head?, isNameChar c = false := by
  cases x with
  | name cs hcs => exact ⟨'.', rfl, by decide⟩
  | index digits hne hd => exact ⟨'[', rfl, by decide⟩

theorem splitFrom_piece {x : PathPiece} (h : x.InLimits) {rest : List Char}
    (hrest : ∀ c ∈ rest.head?, isNameChar c = false) :
    splitFrom (x.chars ++ rest) = (splitFrom rest).map (x.segment :: ·) := by
  cases x with
  | name cs hcs => exact splitFrom_name (ne_nil_of_isName hcs) (isNameChar_of_mem_isName hcs) hrest
  | index digits hne hd =>
    have hread := splitFrom_index hne hd h rest
    simpa [PathPiece.chars, PathPiece.segment] using hread

/-- A path is cut into its segments where no name goes on after it. -/
theorem splitFrom_chars {t : PathText} (h : ∀ x ∈ t.pieces, x.InLimits) {rest : List Char}
    (hrest : ∀ c ∈ rest.head?, isNameChar c = false) :
    splitFrom (t.chars ++ rest) = (splitFrom rest).map (t.segments ++ ·) := by
  rw [PathText.chars, List.append_assoc]
  exact splitFrom_parts not_isNameChar_head_piece hrest (ne_nil_of_isName t.isName)
    (isNameChar_of_mem_isName t.isName) fun x hx _ hrest => splitFrom_piece (h x hx) hrest

theorem split_text {t : PathText} (h : t.InLimits) : split t.text = .ok t.segments := by
  have hsplit := @splitFrom_chars t h.pieces [] nofun
  rw [splitFrom, List.append_nil] at hsplit
  apply split_of_splitFrom
  · simpa only [PathText.text, String.toList_ofList] using h.length
  · rw [PathText.text, String.toList_ofList, hsplit]
    exact congrArg Except.ok (List.append_nil _)

/-- An index over the limit is reported at its bracket, whatever follows it. -/
theorem split_of_largeIndex {source : String} {start : PathText} (hstart : start.InLimits)
    {digits after : List Char} (hne : digits ≠ []) (hd : ∀ d ∈ digits, isDecimalDigit d = true)
    (hlarge : maxIndex < Text.readDigits digits) (hlength : source.length ≤ maxLength)
    (hsource : source.toList = start.chars ++ '[' :: (digits ++ ']' :: after)) :
    split source
      = .error ⟨.indexTooLarge (Text.readDigits digits) maxIndex, some start.chars.length, source⟩ := by
  obtain ⟨left, hleft⟩ : ∃ left, left = '[' :: (digits ++ ']' :: after) := ⟨_, rfl⟩
  rw [← hleft] at hsource
  have hbracket : ∀ c ∈ left.head?, isNameChar c = false := by
    simp [hleft, isNameChar]
  have hlast : splitFrom left
      = .error (.at (.indexTooLarge (Text.readDigits digits) maxIndex) left) := by
    rw [hleft]
    exact splitFrom_large_index hne hd hlarge after
  have hsplit := splitFrom_chars hstart.pieces hbracket
  rw [hlast, ← hsource] at hsplit
  have hplace : source.toList.length - left.length = start.chars.length := by
    rw [hsource, List.length_append, Nat.add_sub_cancel]
  rw [← String.length_toList] at hlength
  unfold split
  rw [if_neg (Nat.not_lt.2 hlength), hsplit]
  show Except.error (Fault.toError source.toList (.at _ left)) = _
  rw [Fault.toError, hplace, String.ofList_toList]

/-- The current scope has no segments. -/
theorem split_scope : split "." = .ok [] := by
  have hsegment : readSegment? ['.'] = none := rfl
  have hsplit : splitFrom ".".toList = .ok [] := by
    show splitFrom ['.'] = .ok []
    rw [splitFrom]
    split <;> simp_all [splitFrom]
  unfold split
  simp only [hsplit]
  rfl

end Path
end ReceiptTemplate
