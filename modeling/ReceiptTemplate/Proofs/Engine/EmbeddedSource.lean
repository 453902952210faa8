import ReceiptTemplate.Proofs.Engine.TemplateText
import ReceiptTemplate.Proofs.Expr.OuterBlanks

/-!
# Embedded sources — an expression between braces

The scan of a template ends an expression at the first closing braces, and knows nothing of quotes and
filter arguments.  A source without closing braces in it is rendered as the text of its value.  Of a
source with closing braces in it only the part before them is evaluated, and the rest is rendered as a
template of its own.
-/

namespace ReceiptTemplate

/-! ## First occurrences in a longer text -/

namespace Text

/-- The first occurrence of a pattern stays the first one when text is added at the end. -/
theorem breakOn_append_of_eq_some {pattern cs before after : List Char}
    (h : breakOn pattern cs = some (before, after)) (rest : List Char) :
    breakOn pattern (cs ++ rest) = some (before, after ++ rest) := by
  induction cs generalizing before with
  | nil =>
    by_cases hpattern : pattern = []
    · subst hpattern
      cases h
      cases rest <;> rfl
    · simp [breakOn, hpattern] at h
  | cons c cs ih =>
    rw [List.cons_append, breakOn]
    rw [breakOn] at h
    by_cases hprefix : pattern.isPrefixOf (c :: cs) = true
    · have hlonger : pattern.isPrefixOf (c :: (cs ++ rest)) = true := by
        rw [List.isPrefixOf_iff_prefix] at hprefix ⊢
        exact hprefix.trans (List.prefix_append (c :: cs) rest)
      rw [if_pos hprefix] at h
      cases h
      rw [if_pos hlonger, ← List.cons_append, List.drop_append_of_le_length]
      exact (List.isPrefixOf_iff_prefix.1 hprefix).length_le
    · rw [if_neg hprefix] at h
      rcases Option.map_eq_some_iff.1 h with ⟨⟨before', after'⟩, hbreak, hpair⟩
      cases hpair
      have hlonger : ¬pattern.isPrefixOf (c :: (cs ++ rest)) = true := by
        intro hlonger
        -- The pattern occurs further on, so it is not longer than what is left.
        have hlength : pattern.length ≤ (c :: cs).length := by
          have hsplit := congrArg List.length (append_of_breakOn hbreak)
          simp only [List.length_append, List.length_cons] at hsplit ⊢
          omega
        rw [List.isPrefixOf_iff_prefix] at hlonger hprefix
        exact hprefix (List.prefix_of_prefix_length_le hlonger
          (List.prefix_append (c :: cs) rest) hlength)
      rw [if_neg hlonger, ih hbreak]
      rfl

theorem stripChars_blanks {w w' : List Char} (hw : Blanks w) (hw' : Blanks w') (cs : List Char) :
    stripChars (w ++ (cs ++ w')) = stripChars cs := by
  have hreverse : Blanks w'.reverse := by
    intro c hc
    exact hw' c (List.mem_reverse.1 hc)
  unfold stripChars stripWhile
  rw [hw.dropWhile_append]
  by_cases hcs : Blanks cs
  · rw [(hcs.append hw').dropWhile, hcs.dropWhile]
  · rw [dropWhile_append_of_not_blanks hcs, List.reverse_append, hreverse.dropWhile_append]

end Text

namespace Template

/-! ## Templates of one expression -/

/-- The template that holds one source, with a blank on either side of it. -/
def embed (source : String) : String :=
  String.ofList (opening ++ ' ' :: source.toList ++ ' ' :: closing)

theorem blanks_singleton : Blanks [' '] := by
  intro c hc
  rw [List.mem_singleton.1 hc]
  decide

theorem embed_eq (source : String) :
    embed source = String.ofList (text "" [(" " ++ source ++ " ", "")]) := by
  simp [embed, text]

/-- Blanks around a source put no closing braces together. -/
theorem separate_embed {source : String} (h : ¬closing <:+: source.toList) :
    Separate "" [(" " ++ source ++ " ", "")] := by
  have hafter : ¬closing <:+: source.toList ++ [' '] := by
    rw [List.infix_concat_iff]
    rintro (hsuffix | hfound)
    · rcases List.suffix_concat_iff.1 hsuffix with hnil | ⟨before, hsplit, -⟩
      · cases hnil
      · have hlast := congrArg List.getLast? hsplit
        simp [closing] at hlast
    · exact h hfound
  have hsource : ¬closing <:+: (" " ++ source ++ " ").toList := by
    simp only [String.toList_append]
    show ¬closing <:+: ' ' :: (source.toList ++ [' '])
    rw [List.infix_cons_iff]
    rintro (hstart | hfound)
    · rcases hstart with ⟨rest, hrest⟩
      cases hrest
    · exact hafter hfound
  have hlast : (" " ++ source ++ " ").toList.getLast? = some ' ' := by
    rw [String.toList_append]
    exact List.getLast?_concat
  refine ⟨⟨by decide, by decide⟩, ⟨hsource, ?_⟩, by decide⟩
  rw [hlast]
  decide

theorem strip_embedded (source : String) : Text.strip (" " ++ source ++ " ") = Text.strip source := by
  have hlist : (" " ++ source ++ " ").toList = [' '] ++ (source.toList ++ [' ']) := by
    simp
  rw [Text.strip, hlist, Text.stripChars_blanks blanks_singleton blanks_singleton]
  rfl

theorem breakOn_opening_embed (source : String) :
    Text.breakOn opening (embed source).toList
      = some ([], ' ' :: source.toList ++ ' ' :: closing) := by
  have hnil : ¬opening <:+: [] ++ opening.dropLast := by decide
  rw [embed, String.toList_ofList, List.append_assoc]
  exact Text.breakOn_append (List.cons_ne_nil _ _) hnil _

theorem containsExpression_embed (source : String) : containsExpression (embed source) = true := by
  rw [containsExpression, breakOn_opening_embed]
  rfl

/-- What the scan cuts from a source with closing braces in it. -/
theorem cut_embed {source : String} {before after : List Char}
    (h : Text.breakOn closing source.toList = some (before, after)) :
    cut (embed source).toList =
      (.literal [] :: .expression (Text.strip (String.ofList before)) ::
          (cut (after ++ ' ' :: closing)).1,
        (cut (after ++ ' ' :: closing)).2) := by
  have hclosing : Text.breakOn closing (' ' :: source.toList ++ ' ' :: closing)
      = some (' ' :: before, after ++ ' ' :: closing) := by
    rw [List.cons_append, Text.breakOn, if_neg (by simp [closing]),
      Text.breakOn_append_of_eq_some h]
    rfl
  have hstrip : Text.stripChars (' ' :: before) = Text.stripChars before := by
    have hnil : Blanks [] := by simp [Blanks]
    have hblank := Text.stripChars_blanks blanks_singleton hnil before
    simpa using hblank
  rw [cut_of_breakOn (breakOn_opening_embed source) hclosing, hstrip, Text.strip,
    String.toList_ofList]

end Template

namespace Engine

open Template (embed closing)

variable {e : Engine} {settings : Settings} {filters : FilterRegistry} {override : Option String}

/-! ## Rendering -/

/-- A source with a tree has the same value without the blanks around it. -/
theorem value_strip (hsound : e.cache.Sound) {source : String} {tree : Expr}
    (htree : ExprCache.treeOf e.cache.limits source = .ok tree) (data : RenderData)
    (override : Option String) :
    e.value (Text.strip source) data override = e.value source data override := by
  rw [value_eq hsound, value_eq hsound, htree, ExprCache.treeOf_strip htree]

theorem treeOf_of_value (hsound : e.cache.Sound) {source : String} {data : RenderData} {v : Value}
    (h : e.value source data override = .ok v) :
    ∃ tree, ExprCache.treeOf e.cache.limits source = .ok tree := by
  rw [value_eq hsound] at h
  cases htree : ExprCache.treeOf e.cache.limits source with
  | ok tree => exact ⟨tree, rfl⟩
  | error error =>
    rw [htree] at h
    cases h

theorem toContext_of_value {source : String} {data : RenderData} {v : Value}
    (h : e.value source data override = .ok v) : ∃ c, data.toContext = .ok c := by
  unfold value evaluateTree at h
  cases hdata : data.toContext with
  | ok c => exact ⟨c, rfl⟩
  | error failure =>
    rw [hdata] at h
    cases hparse : (e.cache.parse source).1 with
    | error error =>
      rw [hparse] at h
      cases h
    | ok t =>
      rw [hparse] at h
      cases hlocale : e.localeFor override with
      | error failure' =>
        rw [hlocale] at h
        cases h
      | ok l =>
        rw [hlocale] at h
        cases h

/-- A template that starts with an expression is the text of its value and the rest rendered. -/
theorem textOfTemplate_of_cut {raw source : String} {after : List Char} {c : Context}
    (hcut : Template.cut raw.toList =
      (.literal [] :: .expression source :: (Template.cut after).1, (Template.cut after).2)) :
    (∀ failure, e.value source (.context c) override = .error failure →
      e.textOfTemplate raw c override = .error failure) ∧
    ∀ w, e.value source (.context c) override = .ok w →
      (∀ rest, e.textOfTemplate (String.ofList after) c override = .ok rest →
        e.textOfTemplate raw c override = .ok (w.toText ++ rest)) ∧
      ∀ failure, e.textOfTemplate (String.ofList after) c override = .error failure →
        ∃ failure', e.textOfTemplate raw c override = .error failure' := by
  unfold textOfTemplate
  rw [hcut, String.toList_ofList, List.mapM_cons, List.mapM_cons, textOf, textOf]
  refine ⟨?_, ?_⟩
  · intro failure hvalue
    rw [hvalue]
    rfl
  · intro w hvalue
    rw [hvalue]
    generalize (Template.cut after).1.mapM (e.textOf (.context c) override) = texts
    generalize (Template.cut after).2 = open?
    refine ⟨?_, ?_⟩
    · intro rest hrest
      cases texts with
      | error failure => cases hrest
      | ok texts =>
        cases open? with
        | some inside => cases hrest
        | none =>
          cases hrest
          refine congrArg Except.ok ?_
          rw [← String.toList_inj]
          simp
    · intro failure hfailure
      cases texts with
      | error failure' => exact ⟨failure', rfl⟩
      | ok texts =>
        cases open? with
        | some inside => exact ⟨_, rfl⟩
        | none => cases hfailure

/-- The template of a source with a tree is the text of its value, or the failure of it. -/
theorem render_embed_eq_map (hsound : e.cache.Sound) {source : String}
    (hclosing : ¬closing <:+: source.toList) {tree : Expr}
    (htree : ExprCache.treeOf e.cache.limits source = .ok tree) {data : RenderData} {c : Context}
    (hdata : data.toContext = .ok c) :
    (e.render (embed source) data override).1 = (e.value source data override).map Value.toText := by
  have hvalue := value_strip hsound htree data override
  rw [Template.embed_eq, render_text hsound (Template.separate_embed hclosing) hdata, List.mapM_cons,
    List.mapM_nil, Template.strip_embedded, evaluate, hvalue]
  cases e.value source data override with
  | error failure => rfl
  | ok v => simp [Except.map, Template.filled, bind, Except.bind, pure, Except.pure]

theorem render_embed (hsound : e.cache.Sound) {source : String} (hclosing : ¬closing <:+: source.toList)
    {data : RenderData} {v : Value} (h : e.value source data override = .ok v) :
    (e.render (embed source) data override).1 = .ok v.toText := by
  rcases toContext_of_value h with ⟨c, hdata⟩
  rcases treeOf_of_value hsound h with ⟨tree, htree⟩
  rw [render_embed_eq_map hsound hclosing htree hdata, h]
  rfl

/-- A source without closing braces in it is rendered as the text of its value, wherever it has one.
With closing braces in it, what stands before the first of them is evaluated in its place, and what
stands after them is rendered with the blank and the braces that were put there. -/
theorem render_embed_of_run (hcreate : create settings filters = .ok e) (rs : List Request)
    (source : String) (data : RenderData) (override : Option String) :
    (¬closing <:+: source.toList →
      ∀ v, ((e.run rs).evaluate source data override).1 = .ok v →
        ((e.run rs).render (embed source) data override).1 = .ok v.toText) ∧
    ∀ before after c, Text.breakOn closing source.toList = some (before, after) →
      data.toContext = .ok c →
      (∀ failure,
        ((e.run rs).evaluate (Text.strip (String.ofList before)) data override).1
            = .error failure →
          ((e.run rs).render (embed source) data override).1 = .error failure) ∧
      ∀ w, ((e.run rs).evaluate (Text.strip (String.ofList before)) data override).1 = .ok w →
        (∀ rest,
          ((e.run rs).render (String.ofList (after ++ ' ' :: closing)) data override).1 = .ok rest →
            ((e.run rs).render (embed source) data override).1 = .ok (w.toText ++ rest)) ∧
        ∀ failure,
          ((e.run rs).render (String.ofList (after ++ ' ' :: closing)) data override).1
              = .error failure →
            ∃ failure', ((e.run rs).render (embed source) data override).1 = .error failure' := by
  have hsound : (e.run rs).cache.Sound := (alike_run (sound_create hcreate) rs).sound
  refine ⟨?_, ?_⟩
  · intro hclosing v hv
    exact render_embed hsound hclosing hv
  · intro before after c hbreak hdata
    have hrender (raw : String) : ((e.run rs).render raw data override).1
        = (e.run rs).textOfTemplate raw c override := by
      rw [(render_spec hsound raw data override).1, hdata]
      rfl
    simp only [hrender, evaluate, ← value_context hdata]
    exact textOfTemplate_of_cut (Template.cut_embed hbreak)

/-- A quoted text of closing braces has a value, and between braces it is an error: the text seems to
end in front of the braces. -/
theorem render_embed_of_run_quoted_braces :
    ∃ english, create .standard .standard = .ok english ∧
      ((english.run [.clearCache]).evaluate "\"\x7d\x7d\"" (.data .null) none).1
        = .ok (.text "\x7d\x7d") ∧
      Text.breakOn closing "\"\x7d\x7d\"".toList = some (['"'], ['"']) ∧
      ((english.run [.clearCache]).render (embed "\"\x7d\x7d\"") (.data .null) none).1
        = .error (.parse ⟨.unterminatedText, some 0, "\""⟩) := by
  have hcreate : create .standard .standard = .ok ⟨.standard, .standard, .standard, _⟩ := rfl
  have hbreak : Text.breakOn closing "\"\x7d\x7d\"".toList = some (['"'], ['"']) := by decide
  have hparse : Expr.parse .standard "\"\x7d\x7d\"" = .ok (.text "\x7d\x7d") :=
    Expr.parse_of_parseChars (by decide) (Expr.parseChars_written (e := .text "\x7d\x7d") trivial
      (by decide))
  have htree : ExprCache.treeOf .standard "\"\x7d\x7d\"" = .ok (.text "\x7d\x7d") := by
    rw [ExprCache.treeOf, if_neg (by decide), hparse]
  have hquote : ExprCache.treeOf .standard "\"" = .error ⟨.unterminatedText, some 0, "\""⟩ := by
    rw [ExprCache.treeOf, if_neg (by decide)]
    rfl
  have hsound := (alike_run (sound_create hcreate) [.clearCache]).sound
  have htext := value_eq hsound "\"\x7d\x7d\"" (.data .null) none
  have hstrip : Text.strip (String.ofList ['"']) = "\"" := by decide
  have herror := value_eq hsound (Text.strip (String.ofList ['"'])) (.data .null) none
  rw [hstrip] at herror
  refine ⟨_, hcreate, htext.trans ?_, hbreak, ?_⟩
  · show (ExprCache.treeOf .standard _).mapError _ >>= _ = _
    rw [htree]
    rfl
  · rcases render_embed_of_run hcreate [.clearCache] "\"\x7d\x7d\"" (.data .null) none with
      ⟨-, hbraces⟩
    refine (hbraces ['"'] ['"'] _ hbreak rfl).1 _ ?_
    rw [hstrip]
    refine herror.trans ?_
    show (ExprCache.treeOf .standard _).mapError _ >>= _ = _
    rw [hquote]
    rfl

end Engine
end ReceiptTemplate
