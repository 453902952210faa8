import ReceiptTemplate.Proofs.Engine.CacheRun

/-!
# Answers of a cache — which tree it gives for a source

A tree is told from an equal one by its number.  A cache gives a tree out again until it is cleared, and
makes a new one for a bare path each time.  Up to the numbers its answers depend on the limits alone:
`treeOf` is the answer of every cache.  It differs from parsing without a cache in one case, a bare
path where no level may be spent.
-/

namespace ReceiptTemplate
namespace ExprCache

variable {c c' : ExprCache} {source : String} {r : Except ParseError NumberedTree}
  {t : NumberedTree}

/-! ## Trees that are given out again -/

theorem Asked.made_le (h : Asked c source r c') : c.made ≤ c'.made := by
  cases h with
  | bare hbare htree => exact Nat.le_succ _
  | badPath hbare herror => exact Nat.le_refl _
  | found hbare hentry => exact Nat.le_refl _
  | refused hbare hkey herror => exact Nat.le_refl _
  | added hbare hkey htree => exact Nat.le_succ _

/-- A tree that was given out has a number that is not handed out again. -/
theorem Asked.number_lt (h : Asked c source (.ok t) c') (hsound : c.Sound) : t.number < c'.made := by
  cases h with
  | bare hbare htree => exact Nat.lt_succ_self _
  | found hbare hentry => exact hsound.numbered _ hentry
  | added hbare hkey htree => exact Nat.lt_succ_self _

/-- The tree of a source other than a bare path is kept. -/
theorem Asked.mem_entries (h : Asked c source (.ok t) c')
    (hsimple : Expr.isSimplePath source = false) : (source, t) ∈ c'.entries := by
  cases h with
  | bare hbare htree => simp [bypasses, hsimple] at hbare
  | found hbare hentry => exact hentry
  | added hbare hkey htree => exact List.mem_append_right _ (List.mem_singleton.2 rfl)

/-- The tree of a bare path is new. -/
theorem Asked.number_eq (h : Asked c source (.ok t) c') (hsound : c.Sound)
    (hsimple : Expr.isSimplePath source = true) : t.number = c.made := by
  cases h with
  | bare hbare htree => rfl
  | found hbare hentry =>
    have hnot : Expr.isSimplePath source = false := hsound.notBare _ hentry
    rw [hsimple] at hnot
    cases hnot
  | added hbare hkey htree => rfl

theorem made_le_run (c : ExprCache) (rs : List Request) : c.made ≤ (c.run rs).made := by
  induction rs generalizing c with
  | nil => exact Nat.le_refl _
  | cons request rs ih =>
    have hafter : c.made ≤ (c.after request).made := by
      cases request with
      | parse source => exact (c.asked source).made_le
      | clear => exact Nat.le_refl _
    exact Nat.le_trans hafter (ih (c.after request))

/-- Entries stay while nothing clears the cache. -/
theorem mem_run_of_not_clears {p : String × NumberedTree} (hp : p ∈ c.entries) {rs : List Request}
    (hclears : c.clearsDuring rs = false) : p ∈ (c.run rs).entries := by
  induction rs generalizing c with
  | nil => exact hp
  | cons request rs ih =>
    rw [clearsDuring, Bool.or_eq_false_iff] at hclears
    refine ih ?_ hclears.2
    cases request with
    | clear => cases hclears.1
    | parse source =>
      have hoverflows : c.overflows source = false := hclears.1
      rcases (c.asked source).entries_cases with
        ⟨-, hentries, -⟩ | ⟨tree, -, -, -, hfull, hentries⟩
      · rw [after, hentries]
        exact hp
      · rw [hoverflows] at hfull
        rw [after, hentries, kept, ← hfull]
        exact List.mem_append_left _ hp

/-- The tree that is kept for a source, if there is one, has a number from `n` on, as all later trees
will have. -/
structure FreshFrom (n : Nat) (source : String) (c : ExprCache) : Prop where
  made : n ≤ c.made
  entries : ∀ t, (source, t) ∈ c.entries → n ≤ t.number

theorem FreshFrom.after {n : Nat} (h : FreshFrom n source c) (request : Request) :
    FreshFrom n source (c.after request) := by
  cases request with
  | clear => exact ⟨h.made, by simp [ExprCache.after, clear]⟩
  | parse asked =>
    refine ⟨Nat.le_trans h.made (c.asked asked).made_le, fun t ht => ?_⟩
    rw [ExprCache.after] at ht
    rcases (c.asked asked).entries_cases with ⟨-, hentries, -⟩ | ⟨tree, -, -, -, -, hentries⟩
    · rw [hentries] at ht
      exact h.entries t ht
    · rw [hentries] at ht
      rcases List.mem_append.1 ht with ht | ht
      · exact h.entries t (c.kept_subset ht)
      · cases List.mem_singleton.1 ht
        exact h.made

/-- After a clear a source has no tree or one that was made after it. -/
theorem freshFrom_of_clears {n : Nat} (hn : n ≤ c.made) {request : Request}
    (hclears : c.clears request = true) : FreshFrom n source (c.after request) := by
  cases request with
  | clear => exact ⟨hn, by simp [after, clear]⟩
  | parse asked =>
    refine ⟨Nat.le_trans hn (c.asked asked).made_le, fun t ht => ?_⟩
    have hoverflows : c.overflows asked = true := hclears
    rw [after] at ht
    rcases (c.asked asked).entries_cases with
      ⟨hnot, -, -⟩ | ⟨tree, -, -, -, hfull, hentries⟩
    · rw [hoverflows] at hnot
      cases hnot
    · rw [hoverflows] at hfull
      rw [hentries, kept, ← hfull, if_pos rfl] at ht
      cases List.mem_singleton.1 ht
      exact hn

theorem FreshFrom.run {n : Nat} (h : FreshFrom n source c) (rs : List Request) :
    FreshFrom n source (c.run rs) := by
  induction rs generalizing c with
  | nil => exact h
  | cons request rs ih => exact ih (h.after request)

theorem freshFrom_run_of_clears {n : Nat} (hn : n ≤ c.made) {rs : List Request}
    (hclears : c.clearsDuring rs = true) : FreshFrom n source (c.run rs) := by
  induction rs generalizing c with
  | nil => cases hclears
  | cons request rs ih =>
    rw [clearsDuring, Bool.or_eq_true] at hclears
    rcases hclears with hnow | hlater
    · exact (freshFrom_of_clears hn hnow).run rs
    · exact ih (Nat.le_trans hn (c.made_le_run [request])) hlater

theorem FreshFrom.le_number {n : Nat} (h : FreshFrom n source c) (hasked : Asked c source (.ok t) c') :
    n ≤ t.number := by
  cases hasked with
  | bare hbare htree => exact h.made
  | found hbare hentry => exact h.entries t hentry
  | added hbare hkey htree => exact h.made

/-- The tree of an entry is what asking for its source gives. -/
theorem Asked.eq_of_mem_entries {t' : NumberedTree} (h : Asked c source (.ok t') c')
    (hsound : c.Sound) (hentry : (source, t) ∈ c.entries) : t' = t := by
  cases h with
  | bare hbare htree =>
    have hnot : Expr.isSimplePath source = false := hsound.notBare _ hentry
    simp [bypasses, hnot] at hbare
  | found hbare hentry' =>
    have hpair := List.inj_on_of_nodup_map hsound.nodup hentry' hentry rfl
    exact congrArg Prod.snd hpair
  | added hbare hkey htree => exact absurd (List.mem_map_of_mem hentry) hkey

/-- A source other than a bare path gives the tree that it gave before, unless the cache was cleared in
between. -/
theorem number_eq_iff {t₁ t₂ : NumberedTree} {c₁ c₂ : ExprCache} (hsound : c.Sound)
    (hsimple : Expr.isSimplePath source = false) (hfirst : Asked c source (.ok t₁) c₁)
    {rs : List Request} (hsecond : Asked (c₁.run rs) source (.ok t₂) c₂) :
    t₁.number = t₂.number ↔ c₁.clearsDuring rs = false := by
  have hsound₁ : (c₁.run rs).Sound := (hsound.asked hfirst).run rs
  cases hclears : c₁.clearsDuring rs with
  | false =>
    have hentry : (source, t₁) ∈ (c₁.run rs).entries :=
      mem_run_of_not_clears (hfirst.mem_entries hsimple) hclears
    exact iff_of_true (by rw [hsecond.eq_of_mem_entries hsound₁ hentry]) rfl
  | true =>
    -- The second tree is newer than anything that was made up to the first one.
    have hfresh : FreshFrom c₁.made source (c₁.run rs) :=
      freshFrom_run_of_clears (Nat.le_refl _) hclears
    have hlt : t₁.number < t₂.number :=
      Nat.lt_of_lt_of_le (hfirst.number_lt hsound) (hfresh.le_number hsecond)
    exact iff_of_false (Nat.ne_of_lt hlt) (by decide)

/-! ## Answers -/

/-- The tree that a cache gives for a source, or the error. -/
def treeOf (limits : Expr.Limits) (source : String) : Except ParseError Expr :=
  if Expr.isSimplePath source && source.length ≤ limits.length then Expr.parsePath source
  else Expr.parse limits source

/-- What a cache answers does not depend on what it holds. -/
theorem Asked.map_tree (h : Asked c source r c') (hsound : c.Sound) :
    r.map (·.tree) = treeOf c.limits source := by
  cases h with
  | bare hbare htree =>
    rw [bypasses] at hbare
    rw [treeOf, if_pos hbare, htree]
    rfl
  | badPath hbare herror =>
    rw [bypasses] at hbare
    rw [treeOf, if_pos hbare, herror]
    rfl
  | found hbare hentry =>
    rw [bypasses] at hbare
    rw [treeOf, hbare, if_neg Bool.false_ne_true, hsound.parsed _ hentry]
    rfl
  | refused hbare hkey herror =>
    rw [bypasses] at hbare
    rw [treeOf, hbare, if_neg Bool.false_ne_true, herror]
    rfl
  | added hbare hkey htree =>
    rw [bypasses] at hbare
    rw [treeOf, hbare, if_neg Bool.false_ne_true, htree]
    rfl

/-- The shortcut for bare paths agrees with the parser unless there is no level to spend. -/
theorem treeOf_eq_parse_iff (limits : Expr.Limits) (source : String) :
    treeOf limits source = Expr.parse limits source ↔
      ¬(limits.depth = 0 ∧ Expr.isSimplePath source = true ∧ source.length ≤ limits.length) := by
  unfold treeOf
  split
  · next hbare =>
    simp only [Bool.and_eq_true, decide_eq_true_eq] at hbare
    rw [Expr.parse_of_isSimplePath hbare.1 hbare.2]
    split
    · next hdepth =>
      refine iff_of_false (fun h => ?_) (not_not_intro ⟨hdepth, hbare⟩)
      rcases Expr.isPathLimit_of_parsePath h with ⟨n, hcause⟩ | ⟨n, hcause⟩ <;> cases hcause
    · next hdepth => exact iff_of_true rfl fun h => hdepth h.1
  · next hbare =>
    simp only [Bool.and_eq_true, decide_eq_true_eq] at hbare
    exact iff_of_true rfl fun h => hbare h.2

theorem asked_of_eq {c : ExprCache} (h : (c.parse source).1 = r) :
    Asked c source r (c.parse source).2 :=
  h ▸ c.asked source

/-! ## Runs from an empty cache -/

/-- What every run of requests leaves, for every bound and all limits.  Each entry is the tree of its
own source, which is no bare path.  The entries are as many as the bound allows, and as many as
different sources were parsed since the last clear.  A source that is refused changes nothing.  A
source that is parsed twice gives one tree exactly when the cache was not cleared in between, and a
bare path gives a tree that was never given before. -/
theorem entries_and_trees_of_run (bound : Nat) (limits : Expr.Limits) (rs : List Request) :
    let c := (empty bound limits).run rs
    (∀ p ∈ c.entries, Expr.parse limits p.1 = .ok p.2.tree ∧ Expr.isSimplePath p.1 = false) ∧
    (bound ≠ 0 → c.size ≤ bound) ∧
    c.size = ((empty bound limits).parsedSinceClear [] rs).toFinset.card ∧
    (∀ source error, (c.parse source).1 = .error error → (c.parse source).2 = c) ∧
    (∀ source t₁ rs' t₂, Expr.isSimplePath source = false → (c.parse source).1 = .ok t₁ →
      (((c.parse source).2.run rs').parse source).1 = .ok t₂ →
      t₁.tree = t₂.tree ∧ (t₁.number = t₂.number ↔ (c.parse source).2.clearsDuring rs' = false)) ∧
    (∀ earlier t₁ rs' source t₂, Expr.isSimplePath source = true → (c.parse earlier).1 = .ok t₁ →
      (((c.parse earlier).2.run rs').parse source).1 = .ok t₂ → t₁.number ≠ t₂.number) := by
  intro c
  have hsound : c.Sound := (sound_empty bound limits).run rs
  have hlimits : c.limits = limits := limits_run _ rs
  have hbound : c.bound = bound := bound_run _ rs
  refine ⟨fun p hp => ?_, fun hne => ?_, size_run bound limits rs, fun source error herror => ?_, ?_, ?_⟩
  · rw [← hlimits]
    exact ⟨hsound.parsed p hp, hsound.notBare p hp⟩
  · rw [← hbound] at hne ⊢
    exact hsound.bounded hne
  · exact (asked_of_eq herror).eq_of_error
  · intro source t₁ rs' t₂ hsimple hfirst hsecond
    have hfirst := asked_of_eq hfirst
    have hsecond := asked_of_eq hsecond
    refine ⟨?_, number_eq_iff hsound hsimple hfirst hsecond⟩
    have h₁ := hfirst.map_tree hsound
    have h₂ := hsecond.map_tree ((hsound.asked hfirst).run rs')
    rw [limits_run, hfirst.limits, ← h₁] at h₂
    exact (Except.ok.inj h₂).symm
  · intro earlier t₁ rs' source t₂ hsimple hfirst hsecond
    have hfirst := asked_of_eq hfirst
    have hsecond := asked_of_eq hsecond
    have hnew := hsecond.number_eq ((hsound.asked hfirst).run rs') hsimple
    have hlt : t₁.number < t₂.number := by
      rw [hnew]
      exact Nat.lt_of_lt_of_le (hfirst.number_lt hsound) (made_le_run _ rs')
    exact Nat.ne_of_lt hlt

/-- After any requests a cache answers as the parser without one does, for every source and all limits
but one case: a bare path, within the limit of length, where no level may be spent.  The cache
makes its tree, and the parser refuses it. -/
theorem parse_of_run_iff (bound : Nat) (limits : Expr.Limits) (rs : List Request) (source : String) :
    let c := (empty bound limits).run rs
    ((c.parse source).1.map (·.tree) = Expr.parse limits source ↔
      ¬(limits.depth = 0 ∧ Expr.isSimplePath source = true ∧ source.length ≤ limits.length)) ∧
    (limits.depth = 0 → Expr.isSimplePath source = true → source.length ≤ limits.length →
      (c.parse source).1.map (·.tree) = Expr.parsePath source ∧
        Expr.parse limits source = .error ⟨.tooDeep 0, none, source⟩) := by
  intro c
  have hanswer : (c.parse source).1.map (·.tree) = treeOf limits source := by
    have hmap := (c.asked source).map_tree ((sound_empty bound limits).run rs)
    rwa [limits_run] at hmap
  refine ⟨?_, fun hdepth hsimple hlength => ?_⟩
  · rw [hanswer]
    exact treeOf_eq_parse_iff limits source
  · rw [hanswer, treeOf, if_pos (by simp [hsimple, hlength]), Expr.parse_of_isSimplePath hsimple hlength,
      if_pos hdepth]
    exact ⟨rfl, rfl⟩

end ExprCache
end ReceiptTemplate
