import Mathlib.Data.Finset.Card
import ReceiptTemplate.Engine.Cache
import ReceiptTemplate.Proofs.Expr.BarePath

/-!
# Runs of a cache — what it holds after any requests

A cache is asked for trees and cleared, in any order.  `Asked` says once what asking can do, and
`Asked.entries_cases` what it does to the entries.  From them follows what every run keeps: each entry
is the tree of its own source, no bare path is kept, and the bound holds.  The keys are the sources
parsed since the last clear, whether it was asked for or made room for a new entry.
-/

namespace ReceiptTemplate
namespace ExprCache

variable {c c' : ExprCache} {source : String} {r : Except ParseError NumberedTree}
  {t : NumberedTree}

/-! ## Requests -/

inductive Request where
  | parse (source : String)
  | clear

/-- The cache after a request. -/
def after (c : ExprCache) : Request → ExprCache
  | .parse source => (c.parse source).2
  | .clear => c.clear

/-- The cache after requests, the first one first. -/
def run (c : ExprCache) (rs : List Request) : ExprCache :=
  rs.foldl after c

/-- The entries that are left when a new one is added. -/
def kept (c : ExprCache) : Entries NumberedTree :=
  if c.isFull then [] else c.entries

/-- What asking for the tree of a source can do: the answer and the cache after it. -/
inductive Asked (c : ExprCache) (source : String) :
    Except ParseError NumberedTree → ExprCache → Prop
  /-- A bare path is made anew and not kept. -/
  | bare {tree : Expr} (hbare : c.bypasses source = true)
      (htree : Expr.parsePath source = .ok tree) :
      Asked c source (.ok ⟨tree, c.made⟩) { c with made := c.made + 1 }
  | badPath {error : ParseError} (hbare : c.bypasses source = true)
      (herror : Expr.parsePath source = .error error) : Asked c source (.error error) c
  /-- The tree of an entry is given out again. -/
  | found {t : NumberedTree} (hbare : c.bypasses source = false)
      (hentry : (source, t) ∈ c.entries) : Asked c source (.ok t) c
  | refused {error : ParseError} (hbare : c.bypasses source = false)
      (hkey : source ∉ c.entries.keys) (herror : Expr.parse c.limits source = .error error) :
      Asked c source (.error error) c
  /-- A new tree is kept, after the entries for which there is room. -/
  | added {tree : Expr} (hbare : c.bypasses source = false) (hkey : source ∉ c.entries.keys)
      (htree : Expr.parse c.limits source = .ok tree) :
      Asked c source (.ok ⟨tree, c.made⟩)
        { c with made := c.made + 1, entries := c.kept ++ [(source, ⟨tree, c.made⟩)] }

theorem kept_subset : c.kept ⊆ c.entries := by
  unfold kept
  split
  · exact List.nil_subset _
  · exact List.Subset.refl _

theorem keys_subset_of_subset {es es' : Entries NumberedTree} (h : es ⊆ es') : es.keys ⊆ es'.keys :=
  List.map_subset _ h

theorem keys_append_singleton (es : Entries NumberedTree) (source : String) (t : NumberedTree) :
    Entries.keys (es ++ [(source, t)]) = es.keys ++ [source] := by
  simp [Entries.keys]

theorem asked (c : ExprCache) (source : String) :
    Asked c source (c.parse source).1 (c.parse source).2 := by
  unfold parse
  cases hbare : c.bypasses source with
  | true =>
    cases htree : Expr.parsePath source with
    | error error => exact .badPath hbare htree
    | ok tree => exact .bare hbare htree
  | false =>
    cases hget : c.entries.get? source with
    | some t => exact .found hbare (Entries.mem_of_get? hget)
    | none =>
      have hkey : source ∉ c.entries.keys := Entries.get?_eq_none_iff.1 hget
      cases htree : Expr.parse c.limits source with
      | error error => exact .refused hbare hkey htree
      | ok tree =>
        have hinsert := Entries.insert_of_not_mem (⟨tree, c.made⟩ : NumberedTree)
          fun h => hkey (keys_subset_of_subset c.kept_subset h)
        have hadded := Asked.added hbare hkey htree
        rw [← hinsert] at hadded
        exact hadded

theorem run_cons (c : ExprCache) (request : Request) (rs : List Request) :
    c.run (request :: rs) = (c.after request).run rs :=
  rfl

/-! ## What a run keeps -/

theorem Asked.limits (h : Asked c source r c') : c'.limits = c.limits := by
  cases h <;> rfl

theorem Asked.bound (h : Asked c source r c') : c'.bound = c.bound := by
  cases h <;> rfl

/-- A source that is refused leaves the cache as it is. -/
theorem Asked.eq_of_error {error : ParseError} (h : Asked c source (.error error) c') : c' = c := by
  cases h <;> rfl

/-- The entries are trees of their own sources, as many as the bound allows, with numbers that were
handed out. -/
structure Sound (c : ExprCache) : Prop where
  parsed : ∀ p ∈ c.entries, Expr.parse c.limits p.1 = .ok p.2.tree
  notBare : ∀ p ∈ c.entries, Expr.isSimplePath p.1 = false
  numbered : ∀ p ∈ c.entries, p.2.number < c.made
  nodup : c.entries.keys.Nodup
  bounded : c.bound ≠ 0 → c.size ≤ c.bound

theorem sound_empty (bound : Nat) (limits : Expr.Limits) : (empty bound limits).Sound where
  parsed := by simp [empty]
  notBare := by simp [empty]
  numbered := by simp [empty]
  nodup := List.nodup_nil
  bounded _ := Nat.zero_le _

theorem sound_clear (c : ExprCache) : c.clear.Sound where
  parsed := by simp [ExprCache.clear]
  notBare := by simp [ExprCache.clear]
  numbered := by simp [ExprCache.clear]
  nodup := List.nodup_nil
  bounded _ := Nat.zero_le _

/-- A source that goes not past the cache and is parsed is no bare path. -/
theorem isSimplePath_of_parse {tree : Expr} (hbare : c.bypasses source = false)
    (htree : Expr.parse c.limits source = .ok tree) : Expr.isSimplePath source = false := by
  have hlength := Expr.length_le_of_parse htree
  simpa [bypasses, hlength] using hbare

theorem length_kept_lt (hbound : c.bound ≠ 0) : c.kept.length < c.bound := by
  unfold kept
  split
  · exact Nat.pos_of_ne_zero hbound
  · next hfull =>
    simp only [isFull, Bool.and_eq_true, bne_iff_ne, decide_eq_true_eq, not_and] at hfull
    exact Nat.lt_of_not_le (hfull hbound)

theorem Sound.asked (h : c.Sound) (hasked : Asked c source r c') : c'.Sound := by
  cases hasked with
  | bare hbare htree =>
    exact { h with numbered := fun p hp => Nat.lt_succ_of_lt (h.numbered p hp) }
  | badPath hbare herror => exact h
  | found hbare hentry => exact h
  | refused hbare hkey herror => exact h
  | @added tree hbare hkey htree =>
    -- Every entry is one of those that are left or the new one.
    have hmem {P : String × NumberedTree → Prop} (hold : ∀ p ∈ c.entries, P p)
        (hnew : P (source, ⟨tree, c.made⟩)) : ∀ p ∈ c.kept ++ [(source, ⟨tree, c.made⟩)], P p := by
      intro p hp
      rcases List.mem_append.1 hp with hp | hp
      · exact hold p (c.kept_subset hp)
      · rw [List.mem_singleton.1 hp]
        exact hnew
    have hkept : c.kept.keys.Nodup := by
      unfold kept
      split
      · exact List.nodup_nil
      · exact h.nodup
    refine ⟨hmem h.parsed htree, hmem h.notBare (isSimplePath_of_parse hbare htree),
      hmem (fun p hp => Nat.lt_succ_of_lt (h.numbered p hp)) (Nat.lt_succ_self _), ?_, ?_⟩
    · have hnew : source ∉ c.kept.keys := fun hs => hkey (keys_subset_of_subset c.kept_subset hs)
      rw [keys_append_singleton, List.nodup_append]
      exact ⟨hkept, List.nodup_singleton source, by simpa using fun a ha => ne_of_mem_of_not_mem ha hnew⟩
    · intro hbound
      have hlt : c.kept.length < c.bound := length_kept_lt hbound
      rw [size, List.length_append]
      exact hlt

theorem Sound.after (h : c.Sound) (request : Request) : (c.after request).Sound := by
  cases request with
  | parse source => exact h.asked (c.asked source)
  | clear => exact c.sound_clear

theorem Sound.run (h : c.Sound) (rs : List Request) : (c.run rs).Sound := by
  induction rs generalizing c with
  | nil => exact h
  | cons request rs ih => exact ih (h.after request)

theorem limits_run (c : ExprCache) (rs : List Request) : (c.run rs).limits = c.limits := by
  induction rs generalizing c with
  | nil => rfl
  | cons request rs ih =>
    rw [run_cons, ih]
    cases request with
    | parse source => exact (c.asked source).limits
    | clear => rfl

theorem bound_run (c : ExprCache) (rs : List Request) : (c.run rs).bound = c.bound := by
  induction rs generalizing c with
  | nil => rfl
  | cons request rs ih =>
    rw [run_cons, ih]
    cases request with
    | parse source => exact (c.asked source).bound
    | clear => rfl

/-! ## Clears -/

/-- Whether the tree of a source is new and takes the place of all entries. -/
def overflows (c : ExprCache) (source : String) : Bool :=
  !c.bypasses source && !c.contains source && (Expr.parse c.limits source).isOk && c.isFull

/-- Whether a request clears the entries, on demand or to make room. -/
def clears (c : ExprCache) : Request → Bool
  | .parse source => c.overflows source
  | .clear => true

def clearsDuring (c : ExprCache) : List Request → Bool
  | [] => false
  | request :: rs => c.clears request || (c.after request).clearsDuring rs

theorem contains_iff : c.contains source = true ↔ source ∈ c.entries.keys := by
  rw [contains, Option.isSome_iff_ne_none, Ne, Entries.get?_eq_none_iff, not_not]

/-- Asking for a source leaves the entries as they are, or it adds a tree that is new, and overflows
the cache if it is full. -/
theorem Asked.entries_cases (h : Asked c source r c') :
    (c.overflows source = false ∧ c'.entries = c.entries ∧
        (r.isOk = true → Expr.isSimplePath source = false → source ∈ c.entries.keys)) ∨
      ∃ tree, r = .ok ⟨tree, c.made⟩ ∧ Expr.isSimplePath source = false ∧
        source ∉ c.entries.keys ∧ c.overflows source = c.isFull ∧
        c'.entries = c.kept ++ [(source, ⟨tree, c.made⟩)] := by
  cases h with
  | bare hbare htree =>
    refine .inl ⟨by simp [overflows, hbare], rfl, fun _ hsimple => ?_⟩
    simp [bypasses, hsimple] at hbare
  | badPath hbare herror =>
    refine .inl ⟨by simp [overflows, hbare], rfl, fun hok _ => ?_⟩
    cases hok
  | found hbare hentry =>
    have hkey : source ∈ c.entries.keys := List.mem_map_of_mem hentry
    exact .inl ⟨by simp [overflows, contains_iff.2 hkey], rfl, fun _ _ => hkey⟩
  | refused hbare hkey herror =>
    refine .inl ⟨by simp [overflows, herror, Except.isOk, Except.toBool], rfl, fun hok _ => ?_⟩
    cases hok
  | @added tree hbare hkey htree =>
    have hcontains : c.contains source = false := by
      rw [Bool.eq_false_iff, Ne, contains_iff]
      exact hkey
    refine .inr ⟨tree, rfl, isSimplePath_of_parse hbare htree, hkey, ?_, rfl⟩
    simp [overflows, hbare, hcontains, htree, Except.isOk, Except.toBool]

/-- A cache overflows exactly when asking for a source loses an entry. -/
theorem overflows_iff (c : ExprCache) (source : String) :
    c.overflows source = true ↔
      ∃ key, c.contains key = true ∧ (c.parse source).2.contains key = false := by
  simp only [← Bool.not_eq_true, contains_iff]
  rcases (c.asked source).entries_cases with
    ⟨hoverflows, hentries, -⟩ | ⟨tree, -, -, hkey, hoverflows, hentries⟩
  · rw [hentries]
    exact iff_of_false (by simp [hoverflows]) fun ⟨key, hbefore, hafter⟩ => hafter hbefore
  · rw [hoverflows, hentries, keys_append_singleton, kept]
    cases hfull : c.isFull with
    | false =>
      refine iff_of_false Bool.false_ne_true ?_
      rintro ⟨key, hbefore, hafter⟩
      exact hafter (List.mem_append_left _ hbefore)
    | true =>
      -- A full cache has an entry to lose, and it is not the one that is new.
      obtain ⟨p, hp⟩ : ∃ p, p ∈ c.entries := by
        apply List.exists_mem_of_ne_nil
        intro hnil
        simp only [isFull, size, hnil, Bool.and_eq_true, bne_iff_ne, decide_eq_true_eq] at hfull
        exact hfull.1 (Nat.le_zero.1 hfull.2)
      have hp : p.1 ∈ c.entries.keys := List.mem_map_of_mem hp
      refine iff_of_true rfl ⟨p.1, hp, ?_⟩
      intro hsource
      rw [List.mem_singleton.1 hsource] at hp
      exact hkey hp

/-! ## The keys -/

/-- The sources parsed since the last clear, after one more request; a bare path does not count. -/
def remember (c : ExprCache) (seen : List String) : Request → List String
  | .clear => []
  | .parse source =>
    let seen := if c.overflows source then [] else seen
    if (c.parse source).1.isOk && !Expr.isSimplePath source then source :: seen else seen

/-- The sources other than bare paths that requests parse, since they last clear the cache; `seen` are
those from before. -/
def parsedSinceClear (c : ExprCache) (seen : List String) : List Request → List String
  | [] => seen
  | request :: rs => (c.after request).parsedSinceClear (c.remember seen request) rs

/-- One request keeps the keys and the parsed sources alike. -/
theorem mem_keys_after {seen : List String}
    (hseen : ∀ key, key ∈ c.entries.keys ↔ key ∈ seen) (request : Request) (key : String) :
    key ∈ (c.after request).entries.keys ↔ key ∈ c.remember seen request := by
  cases request with
  | clear => simp [after, clear, remember, Entries.keys]
  | parse source =>
    dsimp only [after, remember]
    rcases (c.asked source).entries_cases with
      ⟨hoverflows, hentries, hold⟩ | ⟨tree, htree, hsimple, -, hoverflows, hentries⟩
    · rw [hoverflows, hentries, hseen]
      split
      · next hparsed =>
        -- What is parsed and no bare path was a key already.
        simp only [Bool.and_eq_true, Bool.not_eq_true'] at hparsed
        have hsource : source ∈ seen := (hseen source).1 (hold hparsed.1 hparsed.2)
        simp [or_iff_right_of_imp (fun h : key = source => h ▸ hsource)]
      · rfl
    · rw [hoverflows, hentries, keys_append_singleton, kept]
      have hok : (c.parse source).1.isOk = true := by rw [htree]; rfl
      cases c.isFull with
      | false => simp [hok, hsimple, hseen, or_comm]
      | true => simp [hok, hsimple, Entries.keys]

theorem mem_keys_run {seen : List String}
    (hseen : ∀ key, key ∈ c.entries.keys ↔ key ∈ seen) (rs : List Request) (key : String) :
    key ∈ (c.run rs).entries.keys ↔ key ∈ c.parsedSinceClear seen rs := by
  induction rs generalizing c seen with
  | nil => exact hseen key
  | cons request rs ih => exact ih (mem_keys_after hseen request)

/-- A cache that was empty holds as many trees as different sources were parsed since the last
clear. -/
theorem size_run (bound : Nat) (limits : Expr.Limits) (rs : List Request) :
    ((empty bound limits).run rs).size
      = ((empty bound limits).parsedSinceClear [] rs).toFinset.card := by
  have hkeys (key : String) : key ∈ ((empty bound limits).run rs).entries.keys ↔
      key ∈ (empty bound limits).parsedSinceClear [] rs := mem_keys_run (fun _ => Iff.rfl) rs key
  have hnodup := ((sound_empty bound limits).run rs).nodup
  calc ((empty bound limits).run rs).size
      = ((empty bound limits).run rs).entries.keys.length := by simp [size, Entries.keys]
    _ = ((empty bound limits).run rs).entries.keys.toFinset.card :=
        (List.toFinset_card_of_nodup hnodup).symm
    _ = ((empty bound limits).parsedSinceClear [] rs).toFinset.card := by
        congr 1
        ext key
        rw [List.mem_toFinset, List.mem_toFinset, hkeys]

end ExprCache
end ReceiptTemplate
