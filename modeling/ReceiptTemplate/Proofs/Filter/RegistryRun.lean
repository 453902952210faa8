import Mathlib.Data.Finset.Card
import ReceiptTemplate.Expr.Evaluate
import ReceiptTemplate.Proofs.Value.PropertyLookup

/-!
# Runs of a registry — what it holds after any changes

Filters are registered and cleared in any order.  The entries are then those of the filters registered
since the last clear, written one after the other under their folded names.  So a name finds the last of
them whose folded name it has, each folded name has one filter, and the filters stand where their folded
names were first registered.  The documentation lists the same filters, and its categories part those
that carry metadata.
-/

namespace ReceiptTemplate

/-! ## Entries by key -/

namespace Entries

variable {α β : Type _} {entries : Entries α}

/-- Entries with distinct keys are read off their keys. -/
theorem map_some_values (hkeys : entries.keys.Nodup) :
    (entries.map (·.2)).map some = entries.keys.map entries.get? := by
  rw [keys, List.map_map, List.map_map]
  apply List.map_congr_left
  intro p hp
  exact (get?_of_mem hkeys hp).symm

/-- The second parts of pairs under their first parts. -/
def grouped (pairs : List (String × β)) : Entries (List β) :=
  pairs.foldl (fun acc p => insert p.1 ((get? acc p.1).getD [] ++ [p.2]) acc) []

theorem grouped_concat (pairs : List (String × β)) (p : String × β) :
    grouped (pairs ++ [p])
      = insert p.1 ((get? (grouped pairs) p.1).getD [] ++ [p.2]) (grouped pairs) := by
  simp [grouped]

theorem keys_grouped (pairs : List (String × β)) :
    (grouped pairs).keys = (pairs.map (·.1)).eraseDups :=
  keys_foldl_insert (fun acc p => (get? acc p.1).getD [] ++ [p.2]) pairs

theorem nodup_keys_grouped (pairs : List (String × β)) : (grouped pairs).keys.Nodup := by
  induction pairs using List.reverseRecOn with
  | nil => exact List.nodup_nil
  | append_singleton pairs p ih =>
    rw [grouped_concat]
    exact nodup_keys_insert _ _ ih

theorem get?_grouped (pairs : List (String × β)) (key : String) :
    ((grouped pairs).get? key).getD [] = (pairs.filter (·.1 == key)).map (·.2) := by
  induction pairs using List.reverseRecOn with
  | nil => rfl
  | append_singleton pairs p ih =>
    rw [grouped_concat, get?_insert, List.filter_append]
    by_cases hp : p.1 = key
    · subst hp
      simp [ih]
    · simp [hp, ih]

/-- Each first part stands once, at its first place, with the second parts that it has in their order. -/
theorem grouped_eq (pairs : List (String × β)) :
    grouped pairs = (pairs.map (·.1)).eraseDups.map fun key =>
      (key, (pairs.filter (·.1 == key)).map (·.2)) := by
  rw [← keys_grouped, keys, List.map_map]
  refine (List.map_id _).symm.trans (List.map_congr_left fun p hp => ?_)
  have hvalue := get?_grouped pairs p.1
  rw [get?_of_mem (nodup_keys_grouped pairs) hp] at hvalue
  exact Prod.ext rfl hvalue

theorem flatMap_insert_perm (entries : Entries (List β)) (key : String) (value : β) :
    ((insert key ((get? entries key).getD [] ++ [value]) entries).flatMap (·.2)).Perm
      (entries.flatMap (·.2) ++ [value]) := by
  induction entries with
  | nil => exact List.Perm.refl _
  | cons p rest ih =>
    obtain ⟨k, vs⟩ := p
    rw [insert, get?_cons]
    by_cases hk : k = key
    · rw [if_pos hk, if_pos hk, List.flatMap_cons, List.flatMap_cons, Option.getD_some,
        List.append_assoc, List.append_assoc]
      exact List.perm_append_comm.append_left vs
    · rw [if_neg hk, if_neg hk, List.flatMap_cons, List.flatMap_cons, List.append_assoc]
      exact ih.append_left vs

/-- The groups part the second parts. -/
theorem grouped_perm (pairs : List (String × β)) :
    ((grouped pairs).flatMap (·.2)).Perm (pairs.map (·.2)) := by
  induction pairs using List.reverseRecOn with
  | nil => exact List.Perm.refl _
  | append_singleton pairs p ih =>
    rw [grouped_concat, List.map_append]
    exact (flatMap_insert_perm _ _ _).trans (ih.append_right _)

end Entries

namespace FilterRegistry

open Text (fold)

variable {r : FilterRegistry} {f : Filter} {name : String}

/-! ## Lookup -/

/-- The filter of a name, or the fault that evaluation reports for it. -/
def get (r : FilterRegistry) (name : String) : Except EvalFault Filter :=
  match r.find? name with
  | some f => .ok f
  | none => .error (.unknownFilter name)

/-- Whether data is the name of a filter. -/
def contains (r : FilterRegistry) : Datum → Bool
  | .text name => r.isRegistered name
  | _ => false

theorem get_eq_ok_iff : r.get name = .ok f ↔ r.find? name = some f := by
  unfold get
  cases r.find? name with
  | none => exact ⟨nofun, nofun⟩
  | some g => simp

/-- Evaluation gets the filter before it looks at the input. -/
theorem eval_filter (env : Surroundings) (call : FilterCall) (input : Expr) :
    (Expr.filter call input).eval env = env.filters.get call.name >>= fun f =>
      input.eval env >>= fun v =>
        (f.apply v (.ofTexts call.argument call.named) env.locale).mapError .filter := by
  rw [Expr.eval, get]
  cases env.filters.find? call.name <;> rfl

/-! ## Changes -/

inductive Change where
  | register (f : Filter)
  | clear

/-- The registry after a change. -/
def after (r : FilterRegistry) : Change → FilterRegistry
  | .register f => r.register f
  | .clear => empty

/-- The registry after changes, the first one first. -/
def run (r : FilterRegistry) (changes : List Change) : FilterRegistry :=
  changes.foldl after r

/-- The filters that changes register since they last clear; `live` are those from before. -/
def registered (live : List Filter) (changes : List Change) : List Filter :=
  changes.foldl (fun live change =>
    match change with
    | .register f => live ++ [f]
    | .clear => []) live

/-- The last of some filters whose folded name is `form`. -/
def lastOf? (filters : List Filter) (form : String) : Option Filter :=
  (filters.filter fun f => fold f.name == form).getLast?

/-- The folded names of filters, each at its first place. -/
def foldedNames (filters : List Filter) : List String :=
  (filters.map fun f => fold f.name).eraseDups

theorem ofFilters_concat (filters : List Filter) (f : Filter) :
    ofFilters (filters ++ [f]) = (ofFilters filters).register f := by
  simp [ofFilters]

/-- A registry after changes is one in which the filters of `registered` were written. -/
theorem run_ofFilters (live : List Filter) (changes : List Change) :
    (ofFilters live).run changes = ofFilters (registered live changes) := by
  induction changes generalizing live with
  | nil => rfl
  | cons change changes ih =>
    cases change with
    | register f =>
      show ((ofFilters live).register f).run changes = ofFilters (registered (live ++ [f]) changes)
      rw [← ofFilters_concat, ih]
    | clear => exact ih []

/-! ## What is held -/

theorem entries_ofFilters (filters : List Filter) :
    (ofFilters filters).entries = Entries.ofList (filters.map fun f => (fold f.name, f)) := by
  induction filters using List.reverseRecOn with
  | nil => rfl
  | append_singleton filters f ih =>
    rw [ofFilters_concat, List.map_append, List.map_singleton, Entries.ofList_concat, ← ih]
    rfl

theorem keys_ofFilters (filters : List Filter) :
    (ofFilters filters).entries.keys = foldedNames filters := by
  rw [entries_ofFilters, Entries.keys_ofList, List.map_map]
  rfl

theorem nodup_keys_ofFilters (filters : List Filter) : (ofFilters filters).entries.keys.Nodup := by
  rw [entries_ofFilters]
  exact Entries.nodup_keys_ofList _

theorem get?_ofFilters (filters : List Filter) (form : String) :
    (ofFilters filters).entries.get? form = lastOf? filters form := by
  rw [entries_ofFilters, Entries.get?_ofList, List.filter_map, List.getLast?_map, Option.map_map]
  exact Option.map_id' ..

theorem find?_ofFilters (filters : List Filter) (name : String) :
    (ofFilters filters).find? name = lastOf? filters (fold name) :=
  get?_ofFilters filters (fold name)

/-- A filter that is found has the folded name under which it was looked for. -/
theorem fold_name_of_lastOf? {filters : List Filter} {form : String}
    (h : lastOf? filters form = some f) : fold f.name = form := by
  have hmem : f ∈ filters.filter fun f => fold f.name == form := List.mem_of_getLast? h
  simpa using (List.mem_filter.1 hmem).2

theorem filters_ofFilters (filters : List Filter) :
    (ofFilters filters).filters.map some = (foldedNames filters).map (lastOf? filters) := by
  rw [← keys_ofFilters, ← funext (get?_ofFilters filters)]
  exact Entries.map_some_values (nodup_keys_ofFilters filters)

theorem mem_filters_iff (filters : List Filter) :
    f ∈ (ofFilters filters).filters ↔ (ofFilters filters).find? f.name = some f := by
  have hmem : f ∈ (ofFilters filters).filters ↔
      some f ∈ (foldedNames filters).map (lastOf? filters) := by
    rw [← filters_ofFilters, List.mem_map_of_injective (Option.some_injective _)]
  rw [hmem, find?_ofFilters, List.mem_map]
  constructor
  · rintro ⟨form, -, hform⟩
    rwa [fold_name_of_lastOf? hform]
  · intro h
    refine ⟨fold f.name, ?_, h⟩
    rw [← keys_ofFilters, Entries.mem_keys_iff]
    exact ⟨f, (get?_ofFilters filters _).trans h⟩

theorem map_fold_filters (filters : List Filter) :
    ((ofFilters filters).filters.map fun f => fold f.name) = foldedNames filters := by
  rw [← keys_ofFilters, FilterRegistry.filters, Entries.keys, List.map_map]
  apply List.map_congr_left
  intro p hp
  have hget := Entries.get?_of_mem (nodup_keys_ofFilters filters) hp
  rw [get?_ofFilters] at hget
  exact fold_name_of_lastOf? hget

theorem nodup_names (filters : List Filter) :
    ((ofFilters filters).filters.map (·.name)).Nodup := by
  have hfolded : (((ofFilters filters).filters.map (·.name)).map fold).Nodup := by
    rw [List.map_map, Function.comp_def, map_fold_filters, ← keys_ofFilters]
    exact nodup_keys_ofFilters filters
  exact hfolded.of_map fold

theorem size_ofFilters (filters : List Filter) :
    (ofFilters filters).size = (filters.map fun f => fold f.name).toFinset.card := by
  have hsize : (ofFilters filters).size = (ofFilters filters).entries.keys.length := by
    rw [Entries.keys, List.length_map]
    rfl
  rw [hsize, ← List.toFinset_card_of_nodup (nodup_keys_ofFilters filters), keys_ofFilters]
  congr 1
  ext form
  rw [List.mem_toFinset, List.mem_toFinset, foldedNames, List.mem_eraseDups]

/-! ## Documentation -/

/-- The category that documents a filter. -/
def categoryName? (f : Filter) : Option String :=
  f.docs.map (·.category.name)

/-- Categories and names of the filters that carry metadata. -/
def labels (filters : List Filter) : List (String × String) :=
  filters.filterMap fun f => (categoryName? f).map fun category => (category, f.name)

theorem labels_cons (f : Filter) (filters : List Filter) :
    labels (f :: filters)
      = ((categoryName? f).map fun category => (category, f.name)).toList ++ labels filters := by
  rw [labels, List.filterMap_cons]
  cases categoryName? f <;> rfl

theorem map_fst_labels (filters : List Filter) :
    (labels filters).map (·.1) = filters.filterMap categoryName? := by
  rw [labels, List.map_filterMap]
  congr 1
  funext f
  rw [Option.map_map]
  exact Option.map_id' ..

theorem map_snd_filter_labels (filters : List Filter) (category : String) :
    ((labels filters).filter (·.1 == category)).map (·.2)
      = (filters.filter fun f => categoryName? f == some category).map (·.name) := by
  induction filters with
  | nil => rfl
  | cons f filters ih =>
    rw [labels_cons, List.filter_append, List.map_append, ih, List.filter_cons]
    cases hcategory : categoryName? f with
    | none => rfl
    | some c => by_cases hc : c = category <;> simp [hc]

theorem map_snd_labels (filters : List Filter) :
    (labels filters).map (·.2) = (filters.filter (·.docs.isSome)).map (·.name) := by
  induction filters with
  | nil => rfl
  | cons f filters ih =>
    rw [labels_cons, List.map_append, ih, List.filter_cons, categoryName?]
    cases f.docs <;> rfl

theorem byCategory_eq_grouped (r : FilterRegistry) :
    r.byCategory = Entries.grouped (labels r.filters) := by
  rw [byCategory, Entries.grouped, labels, List.foldl_filterMap]
  congr 1
  funext acc f
  cases hdocs : f.docs <;> simp [categoryName?, hdocs]

theorem documentation_eq (hnames : (r.filters.map (·.name)).Nodup) :
    r.documentation = .object
      [("filters", .object (r.filters.map fun f => (f.name, filterDocs f))),
       ("byCategory", .object (r.byCategory.map fun p => (p.1, .array (p.2.map .text))))] := by
  rw [documentation, Entries.ofList_of_nodup]
  rw [Entries.keys, List.map_map]
  exact hnames

/-! ## Runs -/

/-- What a registry of any filters holds after changes of any kind and in any order.  A name gets the last
filter registered since the last clear whose folded name it has, or the fault that names it, and is
registered when it gets one.  The folded names, in the order in which they were first registered since the
last clear, have one filter each, and their number is the size.  The documentation has each filter once
under its own spelling, and the categories, in the order in which they first occur, part the filters with
metadata, each category in the order of the list. -/
theorem contents_of_run (live : List Filter) (changes : List Change) :
    let r := (ofFilters live).run changes
    let given := registered live changes
    (∀ name, r.get name =
      match lastOf? given (fold name) with
      | some f => .ok f
      | none => .error (.unknownFilter name)) ∧
    (∀ name, (r.isRegistered name = true ↔ ∃ f, r.get name = .ok f) ∧
      r.contains (.text name) = r.isRegistered name) ∧
    r.filters.map some = (foldedNames given).map (lastOf? given) ∧
    (r.filters.map fun f => fold f.name) = foldedNames given ∧
    (∀ f, f ∈ r.filters ↔ r.get f.name = .ok f) ∧
    r.size = (given.map fun f => fold f.name).toFinset.card ∧
    r.documentation = .object
      [("filters", .object (r.filters.map fun f => (f.name, filterDocs f))),
       ("byCategory", .object (r.byCategory.map fun p => (p.1, .array (p.2.map .text))))] ∧
    (r.filters.map (·.name)).Nodup ∧
    r.byCategory = (r.filters.filterMap categoryName?).eraseDups.map (fun category =>
      (category, (r.filters.filter fun f => categoryName? f == some category).map (·.name))) ∧
    (r.byCategory.flatMap (·.2)).Perm ((r.filters.filter (·.docs.isSome)).map (·.name)) := by
  intro r given
  have hr : r = ofFilters given := run_ofFilters live changes
  have hnames : (r.filters.map (·.name)).Nodup := by
    rw [hr]
    exact nodup_names given
  refine ⟨?get, ?registered, ?filters, ?folded, ?listed, ?size, documentation_eq hnames, hnames,
    ?byCategory, ?parted⟩
  case get =>
    intro name
    rw [get, hr, find?_ofFilters]
  case registered =>
    intro name
    refine ⟨?_, rfl⟩
    simp only [isRegistered, Option.isSome_iff_exists, get_eq_ok_iff]
  case filters =>
    rw [hr]
    exact filters_ofFilters given
  case folded =>
    rw [hr]
    exact map_fold_filters given
  case listed =>
    intro f
    rw [get_eq_ok_iff, hr]
    exact mem_filters_iff given
  case size =>
    rw [hr]
    exact size_ofFilters given
  case byCategory =>
    rw [byCategory_eq_grouped, Entries.grouped_eq, map_fst_labels]
    simp only [map_snd_filter_labels]
  case parted =>
    rw [byCategory_eq_grouped, ← map_snd_labels]
    exact Entries.grouped_perm _

end FilterRegistry
end ReceiptTemplate
