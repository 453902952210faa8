import ReceiptTemplate.Proofs.Expr.FailingOperator
import ReceiptTemplate.Proofs.Expr.Grouping
import ReceiptTemplate.Proofs.Expr.MemberName

/-!
# Chained comparisons — no comparison of a comparison without parentheses

Between operands that are expressions and that have no operators but the tighter ones outside of
their parentheses, two comparisons in a row are refused at the second one.  The same holds wherever
such a chain begins: behind an operator, in parentheses, and as the key of an index.  Nothing behind
the second comparison is read, so that it does not matter what stands there.
-/

namespace ReceiptTemplate

theorem Infix.text_symbol (op : Comparison) : (Infix.comparison op).symbol.text = op.text := by
  cases op <;> rfl

namespace Expr

open Token (StopsName pathTail bracketIndex?)

variable {d n m : Nat} {p : Precedence} {fault : Fault} {e key : Expr} {word : Bool}
  {cs k ws : List Char}

/-! ## Targets of an index -/

/-- The text is read up to its end as the target of the indexes and members that follow, and `n`
levels are enough for it.  A target that ends in a word must not be continued by what follows. -/
def ReadsAsTarget (word : Bool) (n : Nat) (cs : List Char) : Prop :=
  ∀ rest v, Lexeme.next rest = .ok v →
    (word = true → StopsName rest ∧ pathTail rest = ([], rest)) →
      ∃ t e, Lexeme.next (cs ++ rest) = .ok t ∧
        ∀ limit d, n ≤ d → ∃ d', d ≤ d' + n ∧ prefixed limit d t = postfixes limit d' [] e v

theorem readsAsTarget_path {s : String} (h : IsPath s) : ReadsAsTarget true 0 s.toList := by
  intro rest v hv hrest
  rcases hrest rfl with ⟨hname, htail⟩
  refine ⟨_, .path s, next_path h hname htail, ?_⟩
  intro limit d _
  refine ⟨d, Nat.le_refl d, ?_⟩
  rw [prefixed_of_path rfl, advance_mk, hv, ok_bind, ofPath_of_isPath h, ok_bind]

theorem readsAsTarget_group (h : parseChars n cs = .ok e) :
    ReadsAsTarget false n ('(' :: (cs ++ [')'])) := by
  intro rest v hv _
  have hopen : Lexeme.next ('(' :: (cs ++ ')' :: rest))
      = .ok ⟨.symbol .leftParen, '(' :: (cs ++ ')' :: rest), cs ++ ')' :: rest⟩ := rfl
  rcases parseChars_followed h (closesOff_rightParen rest) with ⟨t, ht, hderives⟩
  refine ⟨_, e, by rw [List.cons_append, List.append_assoc]; exact hopen, ?_⟩
  intro limit d hd
  have hoperand : operand limit d .lowest t = .ok (e, ⟨.symbol .rightParen, ')' :: rest, rest⟩) :=
    (hderives.mono hd).run limit
  refine ⟨d, Nat.le_add_right d n, ?_⟩
  rw [prefixed_of_leftParen rfl, advance_mk, ht, ok_bind, hoperand, ok_bind, expect, if_pos rfl,
    advance_mk, hv, ok_bind]

/-- Segments after a dot take a level each. -/
theorem postfixes_members (limit d : Nat) (members : List Segment) (e : Expr) (v : Lexeme) :
    postfixes limit (d + members.length) members e v
      = postfixes limit d [] (members.foldl member e) v := by
  induction members generalizing e with
  | nil => rfl
  | cons s members ih =>
    rw [List.length_cons, ← Nat.add_assoc, postfixes.eq_3, ih]
    rfl

namespace ReadsAsTarget

theorem blanks (h : ReadsAsTarget word n cs) (hws : Blanks ws) (hne : ws ≠ []) :
    ReadsAsTarget false n (cs ++ ws) := by
  intro rest v hv _
  have hnext : Lexeme.next (ws ++ rest) = .ok v := by rw [Lexeme.next_blanks hws, hv]
  -- A blank goes on with no word.
  have hhead : ∀ c ∈ (ws ++ rest).head?, Unicode.isBlank c = true := by
    intro c hc
    rw [List.head?_append_of_ne_nil ws hne] at hc
    exact hws.head hc
  have hne_of (c : Char) (hc : c ∈ (ws ++ rest).head?) {b : Char} (hb : Unicode.isBlank b = false) :
      c ≠ b := by
    rintro rfl
    rw [hhead c hc] at hb
    cases hb
  have hstops : StopsName (ws ++ rest) := fun c hc =>
    ⟨Token.isNameChar_of_isBlank (hhead c hc), hne_of c hc (by decide)⟩
  have htail : pathTail (ws ++ rest) = ([], ws ++ rest) :=
    Token.pathTail_of_head fun c hc => ⟨hne_of c hc (by decide), hne_of c hc (by decide)⟩
  rw [List.append_assoc]
  exact h (ws ++ rest) v hnext fun _ => ⟨hstops, htail⟩

theorem index (h : ReadsAsTarget word n cs) (hk : parseChars d k = .ok key)
    (hword : word = true → ∃ c ∈ k, Unicode.isDecimalDigit c = false) :
    ReadsAsTarget false (n + (d + 1)) (cs ++ '[' :: (k ++ [']'])) := by
  intro rest v hv _
  have hopen : Lexeme.next ('[' :: (k ++ ']' :: rest))
      = .ok ⟨.symbol .leftBracket, '[' :: (k ++ ']' :: rest), k ++ ']' :: rest⟩ := rfl
  have hends (hw : word = true) : pathTail ('[' :: (k ++ ']' :: rest)) = ([], _) :=
    pathTail_leftBracket (bracketIndex?_key hk (hword hw))
  rcases h _ _ hopen fun hw => ⟨stopsName_leftBracket _, hends hw⟩ with ⟨t, e, ht, hprefixed⟩
  rcases parseChars_followed hk (closesOff_rightBracket rest) with ⟨u, hu, hderives⟩
  have htext : cs ++ '[' :: (k ++ [']']) ++ rest = cs ++ '[' :: (k ++ ']' :: rest) := by simp
  refine ⟨t, .index e key false, by rw [htext, ht], ?_⟩
  intro limit d' hd
  rcases hprefixed limit d' (by omega) with ⟨m, hm, hpostfixes⟩
  obtain ⟨m, rfl⟩ : ∃ m', m = m' + 1 := ⟨m - 1, by omega⟩
  have hoperand : operand limit m .lowest u
      = .ok (key, ⟨.symbol .rightBracket, ']' :: rest, rest⟩) :=
    (hderives.mono (by omega)).run limit
  refine ⟨m, by omega, ?_⟩
  rw [hpostfixes, postfixes_of_leftBracket rfl, advance_mk, hu, ok_bind, hoperand, ok_bind, expect,
    if_pos rfl, advance_mk, hv, ok_bind]

theorem member (h : ReadsAsTarget false n cs) {t : PathText} (ht : t.InLimits)
    (hkeyword : ¬IsKeyword t.text) :
    ReadsAsTarget true (n + t.segments.length) (cs ++ '.' :: t.chars) := by
  intro rest v hv hrest
  rcases hrest rfl with ⟨hname, htail⟩
  have hpath := next_path (.inr ⟨t, rfl, ht, hkeyword⟩) hname htail
  rw [PathText.text, String.toList_ofList] at hpath
  have hdot : Lexeme.next ('.' :: (t.chars ++ rest))
      = .ok ⟨.symbol .dot, '.' :: (t.chars ++ rest), t.chars ++ rest⟩ := by
    rcases Token.next_pathText.chars_eq_cons t with ⟨c, cs, hchars, hstart⟩
    apply Token.next_of_read (by decide)
    simp [Token.read, Token.readSymbol?, hchars, hstart]
  have hmember : memberSegments ⟨.symbol .dot, '.' :: (t.chars ++ rest), t.chars ++ rest⟩
      = .ok (t.segments, v) := by
    have hsplit := Path.split_text ht
    rw [PathText.text] at hsplit
    simp [memberSegments, advance_mk, hpath, ok_bind, hv, hsplit]
  rcases h _ _ hdot (by simp) with ⟨u, e, hu, hprefixed⟩
  have htext : cs ++ '.' :: t.chars ++ rest = cs ++ '.' :: (t.chars ++ rest) := by simp
  refine ⟨u, t.segments.foldl Expr.member e, by rw [htext, hu], ?_⟩
  intro limit d hd
  rcases hprefixed limit d (by omega) with ⟨m, hm, hpostfixes⟩
  have hlength : t.segments.length = t.pieces.length + 1 := by simp [PathText.segments]
  obtain ⟨m, rfl⟩ : ∃ m', m = m' + t.pieces.length + 1 := ⟨m - t.pieces.length - 1, by omega⟩
  refine ⟨m, by omega, ?_⟩
  rw [hpostfixes, postfixes.eq_4]
  simp only [hmember, ok_bind]
  have hmembers := postfixes_members limit m (t.pieces.map PathPiece.segment)
    (Expr.member e (.name (String.ofList t.name))) v
  rw [List.length_map] at hmembers
  exact hmembers

end ReadsAsTarget

/-- A bracket of digits is read as a whole, so that no operand in it fails. -/
theorem Fails.bracketIndex? (h : Fails n .lowest fault cs) : Token.bracketIndex? cs = none := by
  cases hindex : Token.bracketIndex? cs with
  | none => rfl
  | some p =>
    rcases p with ⟨index, rest⟩
    rcases Token.exists_digits_of_bracketIndex? hindex with ⟨digits, hne, hdigits, rfl⟩
    have happend := Token.bracketIndex?_append hindex
    rw [List.append_assoc, List.cons_append, List.cons.injEq] at happend
    rcases happend with ⟨-, rfl⟩
    have hstops : Token.StopsNumber (']' :: rest) :=
      (Token.endsWord_cons (.inr (.inr rfl)) rest).stopsNumber
    rcases Lexeme.next_digits hne hdigits hstops with ⟨a, hnumber⟩
    rcases h with ⟨t, ht, hfails⟩
    rw [List.singleton_append, hnumber] at ht
    cases ht
    have hbracket : Lexeme.next (']' :: rest)
        = .ok ⟨.symbol .rightBracket, ']' :: rest, rest⟩ := rfl
    have hderives : Derives (n + 1)
        (.operand .lowest ⟨.number a, digits ++ ']' :: rest, ']' :: rest⟩) (.number a)
        ⟨.symbol .rightBracket, ']' :: rest, rest⟩ :=
      .operand (.leaf rfl hbracket) (.last rfl)
    have hoperand := hderives.run 0
    rw [Task.run, hfails 0 (n + 1) (Nat.le_succ n)] at hoperand
    cases hoperand

/-- An index fails if its key does. -/
theorem Fails.index (h : Fails n .lowest fault cs) {target : List Char}
    (htarget : ReadsAsTarget word m target) : Fails (n + m + 2) p fault (target ++ '[' :: cs) := by
  have hopen : Lexeme.next ('[' :: cs) = .ok ⟨.symbol .leftBracket, '[' :: cs, cs⟩ := rfl
  rcases htarget _ _ hopen fun _ =>
      ⟨stopsName_leftBracket cs, pathTail_leftBracket h.bracketIndex?⟩ with ⟨t, e, ht, hprefixed⟩
  rcases h with ⟨u, hu, hfails⟩
  refine ⟨t, ht, ?_⟩
  intro limit d hd
  obtain ⟨d, rfl⟩ : ∃ d', d = d' + 1 := ⟨d - 1, by omega⟩
  rcases hprefixed limit d (by omega) with ⟨d', hd', hpostfixes⟩
  obtain ⟨d', rfl⟩ : ∃ k, d' = k + 1 := ⟨d' - 1, by omega⟩
  rw [operand_succ, hpostfixes, postfixes_of_leftBracket rfl, advance_mk, hu, ok_bind,
    hfails limit d' (by omega)]
  rfl

/-! ## Texts before a chained comparison -/

/-- Whether a text is an expression, within some limits. -/
def IsExpression (source : String) : Prop :=
  ∃ limits e, parse limits source = .ok e

/-- A text that an index may follow.  `word` says whether it ends in a path, of which digits in
brackets and a dotted name would be a part. -/
inductive Target : Bool → String → Prop
  | path {s : String} (h : IsPath s) : Target true s
  | group {x : String} (h : IsExpression x) : Target false ("(" ++ x ++ ")")
  | index {word : Bool} {s k : String} (h : Target word s) (hk : IsExpression k)
      (hword : word = true → ∃ c ∈ k.toList, Unicode.isDecimalDigit c = false) :
      Target false (s ++ "[" ++ k ++ "]")
  | member {s : String} {t : PathText} (h : Target false s) (ht : t.InLimits)
      (hkeyword : ¬IsKeyword t.text) : Target true (s ++ "." ++ t.text)
  | blanks {word : Bool} {s w : String} (h : Target word s) (hw : Text.isAllBlank w = true)
      (hne : w ≠ "") : Target false (s ++ w)

/-- `Chained p before`: the text stands before the second comparison of a chain.  It is a comparison
of tight operands, or opens with what the chain stands in or behind; it is read as an operand at
`p`. -/
inductive Chained : Precedence → String → Prop
  | comparison {p : Precedence} {a b : String} (hp : p.rank < Precedence.comparison.rank)
      (ha : IsExpression a) (hatight : IsTight a.toList) (hb : IsExpression b)
      (hbtight : IsTight b.toList) (op : Comparison) :
      Chained p (a ++ " " ++ op.text ++ " " ++ b ++ " ")
  | operator {x before : String} (op : Infix) (hfilter : op ≠ .filter) (hx : IsExpression x)
      (htight : op.precedence = .comparison → IsTight x.toList)
      (h : Chained op.precedence before) :
      Chained .lowest (x ++ " " ++ op.symbol.text ++ " " ++ before)
  | group {p : Precedence} {before : String} (h : Chained .lowest before) :
      Chained p ("(" ++ before)
  | index {p : Precedence} {word : Bool} {target before : String} (htarget : Target word target)
      (h : Chained .lowest before) : Chained p (target ++ "[" ++ before)
  | negate {p : Precedence} {before : String} (h : Chained .unary before) :
      Chained p ("-" ++ before)
  | not {p : Precedence} {before : String} (h : Chained .unary before)
      (hhead : ∃ c ∈ before.toList.head?, c ≠ '=') : Chained p ("!" ++ before)
  | blanks {p : Precedence} {w before : String} (hw : Text.isAllBlank w = true)
      (h : Chained p before) : Chained p (w ++ before)

theorem IsExpression.parseChars {source : String} (h : IsExpression source) :
    ∃ d e, parseChars d source.toList = .ok e := by
  rcases h with ⟨limits, e, h⟩
  exact ⟨limits.depth, e, parseChars_of_parse h⟩

theorem isExpression_of_isPath {s : String} (h : IsPath s) : IsExpression s := by
  have hprintable : (Expr.path s).Printable := h
  have hwritten : (Expr.path s).written = s := String.ofList_toList
  have hparse := parseChars_written hprintable (Nat.le_refl _)
  rw [hwritten] at hparse
  have hlength : s.length ≤ (⟨s.length, (Expr.path s).levels⟩ : Limits).length := Nat.le_refl _
  exact ⟨_, _, parse_of_parseChars hlength hparse⟩

theorem isTight_of_isPath {s : String} (h : IsPath s) : IsTight s.toList := by
  have hstops : Token.EndsWord [] := by simp [Token.EndsWord]
  have hnext := next_path h hstops.stopsPath.stopsName (Token.pathTail_of_head (by simp))
  rw [List.append_nil] at hnext
  have hfinish : Lexeme.next [] = .ok ⟨.finish, [], []⟩ := rfl
  exact ⟨_, hnext, .other rfl (by simp) (by simp [Infix.ofToken?]) hfinish (.finish rfl)⟩

theorem Target.reads {s : String} (h : Target word s) : ∃ n, ReadsAsTarget word n s.toList := by
  induction h with
  | path h => exact ⟨0, readsAsTarget_path h⟩
  | group h =>
    rcases h.parseChars with ⟨d, e, h⟩
    exact ⟨d, by simpa using readsAsTarget_group h⟩
  | index h hk hword ih =>
    rcases ih with ⟨n, ih⟩
    rcases hk.parseChars with ⟨d, e, hk⟩
    exact ⟨n + (d + 1), by simpa using ih.index hk hword⟩
  | member h ht hkeyword ih =>
    rcases ih with ⟨n, ih⟩
    exact ⟨_, by simpa [PathText.text] using ih.member ht hkeyword⟩
  | blanks h hw hne ih =>
    rcases ih with ⟨n, ih⟩
    exact ⟨n, by simpa using ih.blanks (blanks_of_isAllBlank hw) (by simpa using hne)⟩

/-- Before a second comparison the text fails there, whatever follows. -/
theorem Chained.fails {before : String} (h : Chained p before) (op : Comparison)
    (cs : List Char) :
    ∃ n, Fails n p (.at .chainedComparison (op.text.toList ++ ' ' :: cs))
      (before.toList ++ (op.text.toList ++ ' ' :: cs)) := by
  induction h with
  | comparison hp ha hatight hb hbtight op' =>
    rcases ha.parseChars with ⟨d, l, ha⟩
    rcases hb.parseChars with ⟨d', r, hb⟩
    have hfails := fails_of_comparisons hp ha hatight hb hbtight op' op cs
    exact ⟨_, by simpa [Infix.text_symbol] using hfails⟩
  | operator op' hfilter hx htight h ih =>
    rcases ih with ⟨n, ih⟩
    rcases hx.parseChars with ⟨d, e, hx⟩
    exact ⟨_, by simpa using ih.operator hx hfilter htight⟩
  | group h ih =>
    rcases ih with ⟨n, ih⟩
    exact ⟨n + 1, by simpa using ih.group⟩
  | index htarget h ih =>
    rcases ih with ⟨n, ih⟩
    rcases htarget.reads with ⟨m, htarget⟩
    exact ⟨_, by simpa using ih.index htarget⟩
  | negate h ih =>
    rcases ih with ⟨n, ih⟩
    exact ⟨n + 1, by simpa using ih.negate⟩
  | not h hhead ih =>
    rcases ih with ⟨n, ih⟩
    rcases hhead with ⟨c, hc, hne⟩
    obtain ⟨tail, htail⟩ := List.head?_eq_some_iff.1 hc
    exact ⟨n + 1, by simpa using ih.not (by simpa [htail] using hne)⟩
  | blanks hw h ih =>
    rcases ih with ⟨n, ih⟩
    exact ⟨n, by simpa using ih.blanks (blanks_of_isAllBlank hw)⟩

/-! ## Whole sources -/

/-- A second comparison in a row is refused where it stands, whatever follows it. -/
theorem parse_chained {before : String} (h : Chained .lowest before) (op : Comparison)
    (after : String) :
    ∃ n, ∀ limits : Limits, n ≤ limits.depth →
      (before ++ op.text ++ " " ++ after).length ≤ limits.length →
        parse limits (before ++ op.text ++ " " ++ after)
          = .error ⟨.chainedComparison, some before.length,
              before ++ op.text ++ " " ++ after⟩ := by
  rcases h.fails op after.toList with ⟨n, t, ht, hfails⟩
  refine ⟨n, ?_⟩
  intro limits hdepth hlength
  generalize hsource : before ++ op.text ++ " " ++ after = source at hlength ⊢
  have hchars : source.toList = before.toList ++ (op.text.toList ++ ' ' :: after.toList) := by
    rw [← hsource]
    simp
  obtain ⟨c, hc, hcblank⟩ : ∃ c ∈ op.text.toList, Unicode.isBlank c = false := by
    cases op <;> exact ⟨_, .head _, by decide⟩
  have hblank : ¬Text.isAllBlank source = true := by
    intro hall
    have hmem : c ∈ source.toList := by
      rw [hchars]
      exact List.mem_append_right _ (List.mem_append_left _ hc)
    rw [blanks_of_isAllBlank hall c hmem] at hcblank
    cases hcblank
  have hfault : parseChars limits.depth source.toList
      = .error (.at .chainedComparison (op.text.toList ++ ' ' :: after.toList)) := by
    rw [parseChars, hchars, ht, ok_bind, hfails _ _ hdepth]
    rfl
  have hplace : source.toList.length - (op.text.toList ++ ' ' :: after.toList).length
      = before.length := by
    rw [hchars, List.length_append, Nat.add_sub_cancel, String.length_toList]
  rw [parse_eq hblank hlength, hfault]
  simp only [Except.mapError, Fault.toError, hplace, String.ofList_toList]

/-- A chain in parentheses, behind `&&` and in the key of an index. -/
theorem parse_chained_nested :
    Chained .lowest "p[x && (a < b " ∧
      ∃ n, ∀ limits : Limits, n ≤ limits.depth → "p[x && (a < b == c)]".length ≤ limits.length →
        parse limits "p[x && (a < b == c)]"
          = .error ⟨.chainedComparison, some 14, "p[x && (a < b == c)]"⟩ := by
  have hpath {s : String} (hname : Token.isName s.toList = true)
      (hlength : s.length ≤ Path.maxLength) (hkeyword : ¬IsKeyword s) : IsPath s :=
    IsMember.isPath ⟨hname, hlength, hkeyword⟩
  have hp : IsPath "p" := hpath (by decide) (by decide) (by simp [IsKeyword])
  have hx : IsPath "x" := hpath (by decide) (by decide) (by simp [IsKeyword])
  have ha : IsPath "a" := hpath (by decide) (by decide) (by simp [IsKeyword])
  have hb : IsPath "b" := hpath (by decide) (by decide) (by simp [IsKeyword])
  have hcomparison : Chained .lowest "a < b " :=
    .comparison (by decide) (isExpression_of_isPath ha) (isTight_of_isPath ha)
      (isExpression_of_isPath hb) (isTight_of_isPath hb) .less
  have hchained : Chained .lowest "p[x && (a < b " :=
    .index (.path hp) (.operator .and (by simp) (isExpression_of_isPath hx)
      (by simp [Infix.precedence]) (.group hcomparison))
  exact ⟨hchained, parse_chained hchained .equal "c)]"⟩

end Expr
end ReceiptTemplate
