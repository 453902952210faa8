import ReceiptTemplate.Proofs.Engine.History
import ReceiptTemplate.Proofs.Expr.ReadBack

/-!
# Template text — rendering what was put together from parts

A template that is put together from literal texts and sources is cut into them again, as long as no
delimiter arises inside a part or where a part meets the delimiter after it.  So rendering it gives the
literal texts and the values of the sources in turn, and a value is never looked at again, even one
whose text has delimiters in it.
-/

namespace ReceiptTemplate

/-! ## First occurrences -/

namespace Text

theorem breakOn_eq_none {pattern cs : List Char} (h : ¬pattern <:+: cs) :
    breakOn pattern cs = none := by
  cases hbreak : breakOn pattern cs with
  | none => rfl
  | some p => exact absurd ⟨p.1, p.2, (append_of_breakOn hbreak).symm⟩ h

/-- A pattern is found where it stands, unless it starts earlier. -/
theorem breakOn_append {pattern cs : List Char} (hpattern : pattern ≠ [])
    (h : ¬pattern <:+: cs ++ pattern.dropLast) (rest : List Char) :
    breakOn pattern (cs ++ (pattern ++ rest)) = some (cs, rest) := by
  induction cs with
  | nil =>
    obtain ⟨c, tail, rfl⟩ := List.exists_cons_of_ne_nil hpattern
    have hprefix : (c :: tail).isPrefixOf (c :: (tail ++ rest)) = true :=
      List.isPrefixOf_iff_prefix.2 ⟨rest, rfl⟩
    rw [List.nil_append, List.cons_append, breakOn, if_pos hprefix]
    simp
  | cons c cs ih =>
    have hrest : ¬pattern <:+: cs ++ pattern.dropLast := fun hfound =>
      h (hfound.trans (List.suffix_cons c _).isInfix)
    have hprefix : ¬pattern.isPrefixOf (c :: (cs ++ (pattern ++ rest))) = true := by
      intro hprefix
      -- An occurrence at `c` ends before the last character of the pattern that follows.
      have hlast : pattern ++ rest = pattern.dropLast ++ pattern.getLast hpattern :: rest := by
        rw [List.append_cons, List.dropLast_concat_getLast]
      have hsplit : c :: (cs ++ (pattern ++ rest))
          = (c :: cs ++ pattern.dropLast) ++ pattern.getLast hpattern :: rest := by
        rw [hlast]
        simp
      have hshort : pattern.length ≤ (c :: cs ++ pattern.dropLast).length := by
        have := List.length_pos_iff.2 hpattern
        simp only [List.length_append, List.length_cons, List.length_dropLast]
        omega
      rw [hsplit, List.isPrefixOf_iff_prefix] at hprefix
      exact h (List.prefix_of_prefix_length_le hprefix (List.prefix_append _ _) hshort).isInfix
    rw [List.cons_append, breakOn, if_neg hprefix, ih hrest]
    rfl

/-- No doubled character arises where a text that does not end in the character meets it. -/
theorem not_infix_append_singleton {a : Char} {cs : List Char} (h : ¬[a, a] <:+: cs)
    (hlast : cs.getLast? ≠ some a) : ¬[a, a] <:+: cs ++ [a] := by
  rw [List.infix_concat_iff, List.suffix_concat_iff]
  rintro ((hnil | ⟨before, hsplit, hsuffix⟩) | hfound)
  · cases hnil
  · obtain rfl : [a] = before := List.append_cancel_right hsplit
    obtain ⟨start, rfl⟩ := hsuffix
    exact hlast (by simp)
  · exact h hfound

end Text

namespace Template

/-! ## Templates put together from parts -/

/-- Literal text and after it expressions, each with the literal text after it. -/
def text : String → List (String × String) → List Char
  | first, [] => first.toList
  | first, (source, after) :: parts =>
    first.toList ++ (opening ++ (source.toList ++ (closing ++ text after parts)))

/-- No part has the delimiter that comes after it in it or ends in half of it. -/
def Separate : String → List (String × String) → Prop
  | first, [] => ¬opening <:+: first.toList
  | first, (source, after) :: parts =>
    (¬opening <:+: first.toList ∧ first.toList.getLast? ≠ some '\x7b') ∧
      (¬closing <:+: source.toList ∧ source.toList.getLast? ≠ some '\x7d') ∧
      Separate after parts

instance decidableSeparate :
    (first : String) → (parts : List (String × String)) → Decidable (Separate first parts)
  | first, [] => inferInstanceAs (Decidable (¬opening <:+: first.toList))
  | first, (source, after) :: parts =>
    have := decidableSeparate after parts
    inferInstanceAs (Decidable ((¬opening <:+: first.toList ∧ first.toList.getLast? ≠ some '\x7b') ∧
      (¬closing <:+: source.toList ∧ source.toList.getLast? ≠ some '\x7d') ∧
      Separate after parts))

/-- The pieces that were put together. -/
def pieces : String → List (String × String) → List Piece
  | first, [] => [.literal first.toList]
  | first, (source, after) :: parts =>
    .literal first.toList :: .expression (Text.strip source) :: pieces after parts

/-- The first expression and what is cut from the text after it. -/
theorem cut_of_breakOn {cs before inside source after : List Char}
    (hopening : Text.breakOn opening cs = some (before, inside))
    (hclosing : Text.breakOn closing inside = some (source, after)) :
    cut cs = (.literal before :: .expression (String.ofList (Text.stripChars source)) ::
      (cut after).1, (cut after).2) := by
  rw [cut]
  split
  · next hnone => rw [hopening] at hnone; cases hnone
  · next before' inside' hsome =>
    rw [hopening] at hsome
    cases hsome
    split
    · next hnone => rw [hclosing] at hnone; cases hnone
    · next source' after' hsome =>
      rw [hclosing] at hsome
      cases hsome
      rfl

theorem cut_text {first : String} {parts : List (String × String)} (h : Separate first parts) :
    cut (text first parts) = (pieces first parts, none) := by
  induction parts generalizing first with
  | nil =>
    rw [text, cut]
    rw [Text.breakOn_eq_none h]
    rfl
  | cons part parts ih =>
    obtain ⟨source, after⟩ := part
    obtain ⟨hfirst, hsource, hrest⟩ := h
    have hopening : Text.breakOn opening (text first ((source, after) :: parts))
        = some (first.toList, source.toList ++ (closing ++ text after parts)) :=
      Text.breakOn_append (List.cons_ne_nil _ _)
        (Text.not_infix_append_singleton hfirst.1 hfirst.2) _
    have hclosing : Text.breakOn closing (source.toList ++ (closing ++ text after parts))
        = some (source.toList, text after parts) :=
      Text.breakOn_append (List.cons_ne_nil _ _)
        (Text.not_infix_append_singleton hsource.1 hsource.2) _
    rw [cut_of_breakOn hopening hclosing, ih hrest]
    rfl

/-- Literal text and after it the texts of values, each with the literal text after it. -/
def filled : String → List (Value × String) → String
  | first, [] => first
  | first, (v, after) :: rest => first ++ (v.toText ++ filled after rest)

end Template

/-! ## Values one after the other -/

section

variable {α β ε : Type} {f : α → Except ε β} {xs : List α} {ys : List β}

theorem mapM_eq_ok (h : xs.map f = ys.map .ok) : xs.mapM f = .ok ys := by
  induction xs generalizing ys with
  | nil =>
    cases ys with
    | nil => rfl
    | cons y ys => cases h
  | cons x xs ih =>
    cases ys with
    | nil => cases h
    | cons y ys =>
      obtain ⟨hx, hxs⟩ := List.cons.inj h
      rw [List.mapM_cons, hx, ih hxs]
      rfl

/-- The first failure is the one that counts. -/
theorem mapM_eq_error {failure : ε} {rest : List (Except ε β)}
    (h : xs.map f = ys.map .ok ++ .error failure :: rest) : xs.mapM f = .error failure := by
  induction ys generalizing xs with
  | nil =>
    cases xs with
    | nil => cases h
    | cons x xs =>
      obtain ⟨hx, -⟩ := List.cons.inj h
      rw [List.mapM_cons, hx]
      rfl
  | cons y ys ih =>
    cases xs with
    | nil => cases h
    | cons x xs =>
      obtain ⟨hx, hxs⟩ := List.cons.inj h
      rw [List.mapM_cons, hx, ih hxs]
      rfl

end

namespace Engine

open Template (text pieces filled Separate)

variable {e : Engine} {settings : Settings} {filters : FilterRegistry}

/-! ## Rendering -/

/-- The pieces of a template are rendered as its sources are evaluated. -/
theorem mapM_textOf_pieces (e : Engine) (data : RenderData) (override : Option String)
    (first : String) (parts : List (String × String)) :
    ((pieces first parts).mapM (e.textOf data override)).map List.flatten
      = (parts.mapM fun part => e.value (Text.strip part.1) data override).map fun values =>
          (filled first (values.zip (parts.map (·.2)))).toList := by
  induction parts generalizing first with
  | nil =>
    show Except.ok (first.toList ++ []) = Except.ok first.toList
    rw [List.append_nil]
  | cons part parts ih =>
    obtain ⟨source, after⟩ := part
    have hrest := ih after
    rw [pieces, List.mapM_cons, List.mapM_cons, List.mapM_cons, textOf, textOf]
    cases e.value (Text.strip source) data override with
    | error failure => rfl
    | ok v =>
      -- The rest has all its values or fails, on both sides alike.
      generalize (parts.mapM fun part => e.value (Text.strip part.1) data override) = values at hrest ⊢
      generalize (pieces after parts).mapM (e.textOf data override) = texts at hrest ⊢
      cases texts with
      | error failure =>
        cases values with
        | error failure' => cases hrest; rfl
        | ok values => cases hrest
      | ok texts =>
        cases values with
        | error failure' => cases hrest
        | ok values =>
          have hrest : texts.flatten = (filled after (values.zip (parts.map (·.2)))).toList :=
            Except.ok.inj hrest
          show Except.ok (first.toList ++ (v.toText.toList ++ texts.flatten)) = Except.ok _
          rw [hrest]
          simp [filled]

theorem value_context {data : RenderData} {c : Context} (h : data.toContext = .ok c)
    (source : String) (override : Option String) :
    e.value source (.context c) override = e.value source data override := by
  unfold value evaluateTree
  rw [h]
  rfl

/-- A call over the render data, and not over the context made of it, gives the same text. -/
theorem render_text (hsound : e.cache.Sound) {first : String} {parts : List (String × String)}
    (hseparate : Separate first parts) {data : RenderData} {c : Context}
    (hdata : data.toContext = .ok c) (override : Option String) :
    (e.render (String.ofList (text first parts)) data override).1
      = (parts.mapM fun part => (e.evaluate (Text.strip part.1) data override).1).map fun values =>
          filled first (values.zip (parts.map (·.2))) := by
  have hvalues := mapM_textOf_pieces e (.context c) override first parts
  simp only [value_context hdata] at hvalues
  calc (e.render (String.ofList (text first parts)) data override).1
      = e.textOfTemplate (String.ofList (text first parts)) c override := by
        rw [(render_spec hsound _ data override).1, hdata]
        rfl
    _ = (((pieces first parts).mapM (e.textOf (.context c) override)).map List.flatten).map
          String.ofList := by
        unfold textOfTemplate
        rw [String.toList_ofList, Template.cut_text hseparate]
        cases (pieces first parts).mapM (e.textOf (.context c) override) <;> rfl
    _ = (parts.mapM fun part => e.value (Text.strip part.1) data override).map fun values =>
          filled first (values.zip (parts.map (·.2))) := by
        rw [hvalues]
        cases parts.mapM fun part => e.value (Text.strip part.1) data override with
        | error failure => rfl
        | ok values => exact congrArg Except.ok String.ofList_toList

/-- Data that no context can be made of is refused.  Over any other data a template is the literal text
with the texts of the values in it, as they are, or fails as the first source that has no value. -/
theorem render_text_of_run (hcreate : create settings filters = .ok e) (rs : List Request)
    {first : String} {parts : List (String × String)} (hseparate : Separate first parts)
    (data : RenderData) (override : Option String) :
    (∀ failure, data.toContext = .error failure →
      ((e.run rs).render (String.ofList (text first parts)) data override).1 = .error failure) ∧
    ∀ c, data.toContext = .ok c →
      (∀ values : List Value,
        parts.map (fun part => ((e.run rs).evaluate (Text.strip part.1) data override).1)
            = values.map .ok →
          ((e.run rs).render (String.ofList (text first parts)) data override).1
            = .ok (filled first (values.zip (parts.map (·.2))))) ∧
      ∀ (values : List Value) failure rest,
        parts.map (fun part => ((e.run rs).evaluate (Text.strip part.1) data override).1)
            = values.map .ok ++ .error failure :: rest →
          ((e.run rs).render (String.ofList (text first parts)) data override).1
            = .error failure := by
  have hsound : (e.run rs).cache.Sound := (alike_run (sound_create hcreate) rs).sound
  refine ⟨fun failure hdata => ?_, fun c hdata => ⟨fun values hvalues => ?_, ?_⟩⟩
  · rw [(render_spec hsound _ data override).1, hdata]
    rfl
  · rw [render_text hsound hseparate hdata, mapM_eq_ok hvalues]
    rfl
  · intro values failure rest hfailure
    rw [render_text hsound hseparate hdata, mapM_eq_error hfailure]
    rfl

/-- A value with delimiters in its text stays as it is. -/
theorem render_text_of_run_delimiters :
    ∃ english, create .standard .standard = .ok english ∧
      Separate "Total: " [(" . ", "!")] ∧
      ((english.run [.clearCache]).render (String.ofList (text "Total: " [(" . ", "!")]))
          (.data (.text "\x7b\x7b 1 \x7d\x7d")) none).1
        = .ok "Total: \x7b\x7b 1 \x7d\x7d!" := by
  have hcreate : create .standard .standard = .ok ⟨.standard, .standard, .standard, _⟩ := rfl
  have hseparate : Separate "Total: " [(" . ", "!")] := by decide
  obtain ⟨-, hrender⟩ := render_text_of_run hcreate [.clearCache] hseparate
    (.data (.text "\x7b\x7b 1 \x7d\x7d")) none
  obtain ⟨hvalues, -⟩ := hrender _ rfl
  have hparse : Expr.parse .standard "." = .ok (.path ".") :=
    Expr.parse_of_parseChars (by decide)
      (Expr.parseChars_written (e := .path ".") (.inl rfl) (by decide))
  have htree : ExprCache.treeOf .standard "." = .ok (.path ".") := by
    rw [ExprCache.treeOf, if_neg (by decide), hparse]
  refine ⟨_, hcreate, hseparate, hvalues [.text "\x7b\x7b 1 \x7d\x7d"] ?_⟩
  show [value _ "." _ none] = _
  rw [value_eq (ExprCache.sound_clear _)]
  show [(ExprCache.treeOf .standard ".").mapError _ >>= _] = _
  rw [htree]
  rfl

/-- Literal text alone is not rendered over a number that is not finite. -/
theorem not_render_text_nan :
    ∃ english, create .standard .standard = .ok english ∧ Separate "Thank you!" [] ∧
      (english.render (String.ofList (text "Thank you!" []))
          (.data (.mapping [(.text "x", .float .nan)])) none).1
        = .error (.data (.notFinite "NaN")) ∧
      (english.render (String.ofList (text "Thank you!" []))
          (.data (.mapping [(.text "x", .float .nan)])) none).1
        ≠ .ok (filled "Thank you!" []) :=
  ⟨_, rfl, by decide, rfl, nofun⟩

end Engine
end ReceiptTemplate
