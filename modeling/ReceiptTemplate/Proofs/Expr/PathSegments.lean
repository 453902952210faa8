import Mathlib.Data.Nat.Digits.Defs
import ReceiptTemplate.Proofs.Context.PathWalk
import ReceiptTemplate.Proofs.Expr.TokenTiling
import ReceiptTemplate.Proofs.Expr.Written

/-!
# Path segments — the text of a path, its token and its segments

A path is read by the lexer, which looks for its end; as a whole source, which it has to fill; and by
the cutter, which knows dots and brackets only.  All three agree on the grammar of path texts: what
the segments spell is one token and is cut into the same segments, and a source that is one path token
is cut into segments that spell it again.

An index has many spellings.  `AlikeUpToDigits` compares texts up to zeros in front of an index and up
to the script of its digits.
-/

namespace ReceiptTemplate

open Unicode (digitValue? isDecimalDigit)

/-! ## Significant digits -/

namespace Text

/-- The values of a run of digits from the first one that is not zero.  Neither zeros in front nor the
script of the digits change them. -/
def significantDigits (digits : List Char) : List Nat :=
  (digits.map fun c => (digitValue? c).getD 0).dropWhile (· == 0)

/-- The significant digits of a run are the digits of its value. -/
theorem significantDigits_eq (cs : List Char) :
    significantDigits cs = (Nat.digits 10 (readDigits cs)).reverse := by
  induction cs using List.reverseRecOn with
  | nil => rfl
  | append_singleton cs c ih =>
    obtain ⟨v, hv⟩ : ∃ v, v = (digitValue? c).getD 0 := ⟨_, rfl⟩
    have hlt : v < 10 := hv ▸ Unicode.getD_digitValue?_lt c
    have hvalue : readDigits (cs ++ [c]) = v + 10 * readDigits cs := by
      rw [hv, Nat.add_comm]
      exact List.foldl_append
    unfold significantDigits at ih ⊢
    rw [List.map_append, List.map_singleton, List.dropWhile_append, ih, ← hv, hvalue]
    by_cases hzero : readDigits cs = 0
    · -- Nothing but zeros stands before the last digit, which counts unless it is a zero itself.
      by_cases hv : v = 0
      · simp [hzero, hv]
      · simp [hzero, hv, Nat.digits_of_lt 10 v hv hlt]
    · have hdigits : Nat.digits 10 (readDigits cs) ≠ [] := Nat.digits_ne_nil_iff_ne_zero.2 hzero
      rw [Nat.digits_add 10 (by decide) v _ hlt (.inr hzero), List.reverse_cons]
      simp [hdigits]

theorem significantDigits_eq_of_value {cs ds : List Char} (h : readDigits cs = readDigits ds) :
    significantDigits cs = significantDigits ds := by
  rw [significantDigits_eq, significantDigits_eq, h]

end Text

/-! ## Segments of the grammar -/

namespace Segment

/-- The segments that the grammar of paths has a text for. -/
def InGrammar : Segment → Prop
  | .name s => Token.isName s.toList = true
  | .index n => n ≤ Path.maxIndex

instance (s : Segment) : Decidable s.InGrammar :=
  match s with
  | .name s => inferInstanceAs (Decidable (Token.isName s.toList = true))
  | .index n => inferInstanceAs (Decidable (n ≤ Path.maxIndex))

theorem InGrammar.writable {s : Segment} (h : s.InGrammar) : s.Writable := by
  cases s with
  | name s =>
    refine ⟨?_, Path.isNameChar_of_mem_isName h⟩
    rintro rfl
    cases h
  | index n => exact h

end Segment

theorem PathPiece.InLimits.inGrammar {x : PathPiece} (h : x.InLimits) : x.segment.InGrammar := by
  cases x with
  | name cs hcs =>
    show Token.isName (String.ofList cs).toList = true
    rwa [String.toList_ofList]
  | index digits hne hd => exact h

/-- Parts of a path are within the limits up to the first index that is over them. -/
theorem PathPiece.inLimits_or_largeIndex (pieces : List PathPiece) :
    (∀ x ∈ pieces, x.InLimits) ∨
      ∃ before digits hne hd after, pieces = before ++ .index digits hne hd :: after ∧
        (∀ x ∈ before, x.InLimits) ∧ Path.maxIndex < Text.readDigits digits := by
  induction pieces with
  | nil => exact .inl nofun
  | cons x xs ih =>
    by_cases hx : x.InLimits
    · rcases ih with hxs | ⟨before, digits, hne, hd, after, rfl, hbefore, hlarge⟩
      · exact .inl (List.forall_mem_cons.2 ⟨hx, hxs⟩)
      · exact .inr ⟨x :: before, digits, hne, hd, after, rfl,
          List.forall_mem_cons.2 ⟨hx, hbefore⟩, hlarge⟩
    · cases x with
      | name cs hcs => exact absurd trivial hx
      | index digits hne hd =>
        exact .inr ⟨[], digits, hne, hd, xs, rfl, nofun, Nat.lt_of_not_le hx⟩

namespace Path

open Text (readDigits significantDigits)

variable {first source : String} {rest : List Segment} {cs ds : List Char}

/-- What segments of the grammar spell is a path text. -/
theorem exists_pathText_textOf (hfirst : (Segment.name first).InGrammar)
    (hrest : ∀ s ∈ rest, s.InGrammar) : ∃ t : PathText, t.text = textOf first rest := by
  obtain ⟨pieces, hpieces⟩ :
      ∃ pieces : List PathPiece, pieces.flatMap PathPiece.chars = rest.flatMap Segment.chars := by
    induction rest with
    | nil => exact ⟨[], rfl⟩
    | cons s rest ih =>
      rcases List.forall_mem_cons.1 hrest with ⟨hs, hrest⟩
      rcases ih hrest with ⟨pieces, hpieces⟩
      cases s with
      | name s =>
        exact ⟨.name s.toList hs :: pieces, by simp [hpieces, PathPiece.chars, Segment.chars]⟩
      | index n =>
        exact ⟨.index (Text.digitsOf n) (Text.digitsOf_ne_nil n)
          (fun d hd => Text.isDecimalDigit_of_mem_digitsOf hd) :: pieces,
          by simp [hpieces, PathPiece.chars, Segment.chars]⟩
  refine ⟨⟨first.toList, hfirst, pieces⟩, ?_⟩
  rw [PathText.text, PathText.chars, hpieces, textOf, String.ofList_append, String.ofList_toList]

/-! ## Spellings of indexes -/

/-- The texts are equal, except that the digits of an index in brackets may have more or fewer zeros in
front and come from other scripts. -/
inductive AlikeUpToDigits : List Char → List Char → Prop
  | nil : AlikeUpToDigits [] []
  | cons (c : Char) {cs ds : List Char} (h : AlikeUpToDigits cs ds) :
      AlikeUpToDigits (c :: cs) (c :: ds)
  | index {digits digits' cs ds : List Char} (hne : digits ≠ []) (hne' : digits' ≠ [])
      (hdigits : ∀ d ∈ digits, isDecimalDigit d = true)
      (hdigits' : ∀ d ∈ digits', isDecimalDigit d = true)
      (hsame : significantDigits digits = significantDigits digits') (h : AlikeUpToDigits cs ds) :
      AlikeUpToDigits ('[' :: (digits ++ ']' :: cs)) ('[' :: (digits' ++ ']' :: ds))

theorem AlikeUpToDigits.append_left (common : List Char) (h : AlikeUpToDigits cs ds) :
    AlikeUpToDigits (common ++ cs) (common ++ ds) := by
  induction common with
  | nil => exact h
  | cons c common ih => exact .cons c ih

/-- The segments of a path text spell it again, with the digits of indexes in their plain form. -/
theorem alikeUpToDigits_segments (t : PathText) :
    AlikeUpToDigits (textOf (String.ofList t.name) (t.pieces.map PathPiece.segment)).toList
      t.chars := by
  rw [toList_textOf, String.toList_ofList]
  apply AlikeUpToDigits.append_left
  induction t.pieces with
  | nil => exact .nil
  | cons x xs ih =>
    cases x with
    | name cs hcs =>
      simpa [Segment.chars, PathPiece.segment, PathPiece.chars] using
        (ih.append_left cs).cons '.'
    | index digits hne hd =>
      have hsame := Text.significantDigits_eq_of_value (Text.readDigits_digitsOf (readDigits digits))
      simpa [Segment.chars, PathPiece.segment, PathPiece.chars] using
        AlikeUpToDigits.index (Text.digitsOf_ne_nil _) hne
          (fun d hd => Text.isDecimalDigit_of_mem_digitsOf hd) hd hsame ih

/-! ## Cutting a path text -/

/-- What a source that is a path is cut into: nothing if it is too long, nothing if an index is too
large, of which the first one is reported at its bracket, and otherwise the segments that spell it. -/
inductive CutInto (source : String) : Except ParseError (List Segment) → Prop
  | tooLong (hlength : maxLength < source.length) :
      CutInto source (.error ⟨.pathTooLong source.length maxLength, none, Text.take 100 source⟩)
  | largeIndex {before digits after : List Char} {segments : List Segment}
      (hlength : source.length ≤ maxLength)
      (hsource : source.toList = before ++ '[' :: (digits ++ ']' :: after))
      (hne : digits ≠ []) (hdigits : ∀ d ∈ digits, isDecimalDigit d = true)
      (hbefore : split (String.ofList before) = .ok segments)
      (hlarge : maxIndex < readDigits digits) :
      CutInto source
        (.error ⟨.indexTooLarge (readDigits digits) maxIndex, some before.length, source⟩)
  | segments {first : String} {rest : List Segment} (hlength : source.length ≤ maxLength)
      (hfirst : (Segment.name first).InGrammar) (hrest : ∀ s ∈ rest, s.InGrammar)
      (halike : AlikeUpToDigits (textOf first rest).toList source.toList) :
      CutInto source (.ok (.name first :: rest))

theorem split_of_long (h : maxLength < source.length) :
    split source = .error ⟨.pathTooLong source.length maxLength, none, Text.take 100 source⟩ := by
  rw [← String.length_toList] at h ⊢
  exact if_pos h

/-- A path text is cut into segments that spell it, unless it is over a limit. -/
theorem cutInto_split (t : PathText) : CutInto t.text (split t.text) := by
  have hchars : t.text.toList = t.chars := String.toList_ofList
  by_cases hlong : maxLength < t.text.length
  · rw [split_of_long hlong]
    exact .tooLong hlong
  rw [Nat.not_lt] at hlong
  have hlength : t.chars.length ≤ maxLength := by
    rwa [← hchars, String.length_toList]
  rcases PathPiece.inLimits_or_largeIndex t.pieces with
    hpieces | ⟨before, digits, hne, hd, after, hpieces, hbefore, hlarge⟩
  · have hname : Token.isName (String.ofList t.name).toList = true := by
      rw [String.toList_ofList]
      exact t.isName
    rw [split_text ⟨hlength, hpieces⟩]
    refine .segments hlong hname ?_ (hchars ▸ alikeUpToDigits_segments t)
    intro s hs
    rcases List.mem_map.1 hs with ⟨x, hx, rfl⟩
    exact (hpieces x hx).inGrammar
  · -- The path up to the first index over the limit is a path within the limits.
    let start : PathText := ⟨t.name, t.isName, before⟩
    have hsource : t.text.toList
        = start.chars ++ '[' :: (digits ++ ']' :: after.flatMap PathPiece.chars) := by
      simp [hchars, start, PathText.chars, hpieces, PathPiece.chars]
    have hstart : start.InLimits := by
      refine ⟨?_, hbefore⟩
      rw [← hchars, hsource, List.length_append] at hlength
      omega
    rw [split_of_largeIndex hstart hne hd hlarge hlong hsource]
    exact .largeIndex hlong hsource hne hd (split_text hstart) hlarge

end Path

/-! ## One path token -/

namespace Expr

variable {source : String}

/-- The simple paths are the path texts that are no keywords. -/
theorem isSimplePath_iff_pathText :
    isSimplePath source = true ↔ (∃ t : PathText, t.text = source) ∧ ¬IsKeyword source := by
  constructor
  · intro h
    unfold isSimplePath at h
    split at h
    · next p hread =>
      rcases Token.exists_pathText_of_readPath? hread with ⟨t, rfl⟩
      have hsource : t.text = source := by
        have happend := (Token.readPath?_append hread).1
        rw [List.append_nil] at happend
        rw [PathText.text, happend, String.ofList_toList]
      rw [decide_eq_true_eq] at h
      exact ⟨⟨t, hsource⟩, hsource ▸ ofPathText_eq_path_iff.1 h⟩
    · cases h
  · rintro ⟨⟨t, rfl⟩, hkeyword⟩
    exact isSimplePath_pathText (ofPathText_eq_path_iff.2 hkeyword)

/-- The tokens of a source that is one path and nothing else. -/
def pathTokens (source : String) : List (Token × Nat) × Option ParseError :=
  ([(.path source, 0), (.finish, source.length)], none)

theorem tokens_of_isSimplePath (h : isSimplePath source = true) :
    tokens source = pathTokens source := by
  rcases token_of_isSimplePath h with ⟨⟨c, hc, -⟩, hnext⟩
  obtain ⟨cs, hcs⟩ : ∃ cs, source.toList = c :: cs := List.head?_eq_some_iff.1 hc
  have hfinish : Lexeme.next [] = .ok ⟨.finish, [], []⟩ := rfl
  unfold tokens
  rw [tokens.go, hnext]
  simp [tokens.go, hfinish, hcs, pathTokens, ← String.length_toList]

/-- A source that a path token spells is a simple path, unless it is the dot of the current scope. -/
theorem isSimplePath_of_lexeme {word : List Char} (hdot : source ≠ ".")
    (h : Token.LexemeOf word (.path source)) : isSimplePath source = true := by
  generalize htoken : Token.path source = token at h
  cases h with
  | path t =>
    rcases Token.ofPathText_cases t.text with hpath | ⟨b, hbool⟩ | hnull
    · rw [hpath] at htoken
      cases htoken
      exact isSimplePath_pathText hpath
    · rw [hbool] at htoken
      cases htoken
    · rw [hnull] at htoken
      cases htoken
  | scope =>
    cases htoken
    exact absurd rfl hdot
  | symbol | whole | fraction | text => cases htoken

theorem isSimplePath_of_tokens (hdot : source ≠ ".") (h : tokens source = pathTokens source) :
    isSimplePath source = true := by
  rcases tokens_go_tiled source.toList (source.toList.length + 1) source.toList
    (Nat.lt_succ_self _) (Nat.zero_add _).symm with ⟨tiles, rest, final, htiling, hend, hgo⟩
  have htokens : Tile.placed 0 tiles ++ final.1 = (pathTokens source).1 := by
    rw [← h]
    exact (congrArg Prod.fst hgo).symm
  have hmem : (Token.path source, 0) ∈ Tile.placed 0 tiles ++ final.1 := by
    rw [htokens]
    exact List.mem_cons_self
  rcases List.mem_append.1 hmem with htile | hfinal
  · rcases htiling.lexeme_of_mem_placed [] htile with ⟨word, hword, -⟩
    exact isSimplePath_of_lexeme hdot hword
  · -- Behind the tiles stands no path.
    cases hend with
    | finish hws => cases List.mem_singleton.1 hfinal
    | fault => cases hfinal

end Expr

/-! ## Text, token and segments -/

/-- The text of a path, its token and its segments determine each other.  The text of segments is cut
into these segments, and it is a single path token unless it is a keyword.  A source is a simple path
if and only if it is a single path token other than the dot, which is if and only if it belongs to the
grammar and is no keyword; it is then cut into segments that spell it, or it is over a limit. -/
theorem Path.token_and_segments_of_text :
    (∀ (first : String) (rest : List Segment), (Segment.name first).InGrammar →
      (∀ s ∈ rest, s.InGrammar) → (textOf first rest).length ≤ maxLength →
      split (textOf first rest) = .ok (.name first :: rest) ∧
        (¬Expr.IsKeyword (textOf first rest) →
          Expr.tokens (textOf first rest) = Expr.pathTokens (textOf first rest))) ∧
    ∀ source : String,
      (Expr.isSimplePath source = true ↔
        Expr.tokens source = Expr.pathTokens source ∧ source ≠ ".") ∧
      (Expr.isSimplePath source = true ↔
        (∃ t : PathText, t.text = source) ∧ ¬Expr.IsKeyword source) ∧
      (Expr.isSimplePath source = true → CutInto source (split source)) := by
  constructor
  · intro first rest hfirst hrest hlength
    refine ⟨split_textOf hfirst.writable (fun s hs => (hrest s hs).writable) hlength, ?_⟩
    intro hkeyword
    apply Expr.tokens_of_isSimplePath
    exact Expr.isSimplePath_iff_pathText.2 ⟨exists_pathText_textOf hfirst hrest, hkeyword⟩
  · intro source
    refine ⟨⟨?_, ?_⟩, Expr.isSimplePath_iff_pathText, ?_⟩
    · intro h
      refine ⟨Expr.tokens_of_isSimplePath h, ?_⟩
      -- The dot starts no name.
      rintro rfl
      cases h
    · rintro ⟨htokens, hdot⟩
      exact Expr.isSimplePath_of_tokens hdot htokens
    · intro h
      rcases (Expr.isSimplePath_iff_pathText.1 h).1 with ⟨t, rfl⟩
      exact cutInto_split t

/-- The index of this path is spelled with zeros in front and with digits of two scripts. -/
theorem Path.token_and_segments_of_text_zeros :
    let rest : List Segment := [.index 7, .name "my-var"]
    ((Segment.name "items").InGrammar ∧ (∀ s ∈ rest, s.InGrammar) ∧
        (textOf "items" rest).length ≤ maxLength) ∧
      textOf "items" rest = "items[7].my-var" ∧
      split "items[7].my-var" = .ok (.name "items" :: rest) ∧
      Expr.tokens "items[7].my-var" = Expr.pathTokens "items[7].my-var" ∧
      Expr.isSimplePath "items[0０7].my-var" = true ∧
      split "items[0０7].my-var" = .ok (.name "items" :: rest) ∧
      CutInto "items[0０7].my-var" (.ok (.name "items" :: rest)) := by
  intro rest
  have hgrammar : (Segment.name "items").InGrammar ∧ (∀ s ∈ rest, s.InGrammar) ∧
      (textOf "items" rest).length ≤ maxLength := by
    decide
  have htext : textOf "items" rest = "items[7].my-var" := by decide
  rcases token_and_segments_of_text.1 "items" rest hgrammar.1 hgrammar.2.1 hgrammar.2.2 with
    ⟨hsplit, htokens⟩
  rw [htext] at hsplit htokens
  -- The other spelling of the index, piece by piece.
  let t : PathText := ⟨"items".toList, by decide,
    [.index "0０7".toList (by decide) (List.all_eq_true.1 (by decide)),
      .name "my-var".toList (by decide)]⟩
  have hspelled : t.text = "items[0０7].my-var" := by decide
  have hsegments : split t.text = .ok (.name "items" :: rest) :=
    split_text ⟨by decide, by simp [t, PathPiece.InLimits]; decide⟩
  rw [hspelled] at hsegments
  rcases token_and_segments_of_text.2 "items[0０7].my-var" with ⟨-, hsimple, hcut⟩
  have hsource := hsimple.2 ⟨⟨t, hspelled⟩, by simp [Expr.IsKeyword]⟩
  exact ⟨hgrammar, htext, hsplit, htokens (by simp [Expr.IsKeyword]), hsource, hsegments,
    hsegments ▸ hcut hsource⟩

end ReceiptTemplate
