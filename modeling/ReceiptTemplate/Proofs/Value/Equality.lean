import Mathlib.Data.List.Perm.Subperm
import ReceiptTemplate.Proofs.Decimal.Order
import ReceiptTemplate.Value.Basic

/-!
# Equality of values — objects as maps, numbers by their value

`Value.Equal` says when two values are equal, apart from how that is decided: values of one variant,
numbers that stand for the same rational, arrays place by place, objects key by key.  `Value.same`
decides it by looking up each entry of one object in the other one and by comparing how many entries
there are.  The two agree on values whose objects have distinct keys, as all have that are built
from pairs.
-/

namespace ReceiptTemplate

/-! ## Entries with distinct keys -/

namespace Entries

variable {α β : Type _}

theorem mem_keys_of_mem {p : String × α} {entries : Entries α} (h : p ∈ entries) :
    p.1 ∈ entries.keys :=
  List.mem_map_of_mem h

theorem mem_keys_iff {key : String} {entries : Entries α} :
    key ∈ entries.keys ↔ ∃ v, entries.get? key = some v := by
  rw [← Option.ne_none_iff_exists', ne_eq, get?_eq_none_iff, not_not]

theorem get?_of_mem {p : String × α} {entries : Entries α} (hkeys : entries.keys.Nodup)
    (h : p ∈ entries) : entries.get? p.1 = some p.2 := by
  induction entries with
  | nil => cases h
  | cons q rest ih =>
    have hq : q.1 ∉ keys rest ∧ (keys rest).Nodup := List.nodup_cons.1 hkeys
    rw [get?_cons]
    rcases List.mem_cons.1 h with rfl | h
    · rw [if_pos rfl]
    · have hne : q.1 ≠ p.1 := by
        intro heq
        rw [heq] at hq
        exact hq.1 (mem_keys_of_mem h)
      rw [if_neg hne]
      exact ih hq.2 h

theorem nodup_keys_foldl_insert (pairs : List (String × α)) {entries : Entries α}
    (h : entries.keys.Nodup) :
    (keys (pairs.foldl (fun acc p => insert p.1 p.2 acc) entries)).Nodup := by
  induction pairs generalizing entries with
  | nil => exact h
  | cons p rest ih => exact ih (nodup_keys_insert p.1 p.2 h)

theorem nodup_keys_ofList (pairs : List (String × α)) : (keys (ofList pairs)).Nodup :=
  nodup_keys_foldl_insert pairs List.nodup_nil

/-- Every value was written for some key. -/
theorem mem_of_mem_insert {key : String} {value : α} {p : String × α} {entries : Entries α}
    (h : p ∈ insert key value entries) : p = (key, value) ∨ p ∈ entries := by
  induction entries with
  | nil => exact .inl (List.mem_singleton.1 h)
  | cons q rest ih =>
    rw [insert] at h
    split at h
    · rcases List.mem_cons.1 h with rfl | h
      · exact .inl rfl
      · exact .inr (List.mem_cons_of_mem _ h)
    · rcases List.mem_cons.1 h with rfl | h
      · exact .inr List.mem_cons_self
      · exact (ih h).imp_right (List.mem_cons_of_mem _)

theorem mem_of_mem_foldl_insert {pairs : List (String × α)} {p : String × α} {entries : Entries α}
    (h : p ∈ pairs.foldl (fun acc p => insert p.1 p.2 acc) entries) : p ∈ pairs ∨ p ∈ entries := by
  induction pairs generalizing entries with
  | nil => exact .inr h
  | cons q rest ih =>
    rcases ih h with h | h
    · exact .inl (List.mem_cons_of_mem _ h)
    · rcases mem_of_mem_insert h with rfl | h
      · exact .inl List.mem_cons_self
      · exact .inr h

theorem mem_of_mem_ofList {pairs : List (String × α)} {p : String × α} (h : p ∈ ofList pairs) :
    p ∈ pairs :=
  (mem_of_mem_foldl_insert h).resolve_right List.not_mem_nil

/-- As many distinct keys as there are, all of them among the others, are all the others. -/
theorem mem_keys_of_subset {as : Entries α} {bs : Entries β} (has : as.keys.Nodup)
    (hlength : as.length = bs.length) (hsubset : as.keys ⊆ bs.keys) {key : String}
    (h : key ∈ bs.keys) : key ∈ as.keys := by
  have hle : bs.keys.length ≤ as.keys.length := by
    simp only [keys, List.length_map, hlength, le_refl]
  exact ((has.subperm hsubset).perm_of_length_le hle).mem_iff.2 h

theorem length_eq_of_keys {as : Entries α} {bs : Entries β} (has : as.keys.Nodup)
    (hbs : bs.keys.Nodup) (h : ∀ key, key ∈ as.keys ↔ key ∈ bs.keys) : as.length = bs.length := by
  have hperm : as.keys.Perm bs.keys := (List.perm_ext_iff_of_nodup has hbs).2 h
  have hlength := hperm.length_eq
  simpa only [keys, List.length_map] using hlength

end Entries

namespace Value

/-! ## Values with distinct keys -/

/-- The objects in a value, at every depth, have distinct keys. -/
inductive WellKeyed : Value → Prop
  | null : WellKeyed .null
  | bool (b : Bool) : WellKeyed (.bool b)
  | number (d : Decimal) : WellKeyed (.number d)
  | text (s : String) : WellKeyed (.text s)
  | array {items : List Value} (h : ∀ v ∈ items, WellKeyed v) : WellKeyed (.array items)
  | object {entries : Entries Value} (keys : entries.keys.Nodup)
      (h : ∀ p ∈ entries, WellKeyed p.2) : WellKeyed (.object entries)

/-- An object that is built from pairs has distinct keys. -/
theorem wellKeyed_ofEntries {pairs : List (String × Value)} (h : ∀ p ∈ pairs, p.2.WellKeyed) :
    (ofEntries pairs).WellKeyed := by
  refine .object (Entries.nodup_keys_ofList _) ?_
  intro p hp
  rcases List.mem_map.1 (Entries.mem_of_mem_ofList hp) with ⟨q, hq, rfl⟩
  exact h q hq

/-! ## Equal values -/

/-- Equal values.  Those of different variants never are. -/
inductive Equal : Value → Value → Prop
  | null : Equal .null .null
  | bool (b : Bool) : Equal (.bool b) (.bool b)
  | number {a b : Decimal} (h : a.toRat = b.toRat) : Equal (.number a) (.number b)
  | text (s : String) : Equal (.text s) (.text s)
  | array {as bs : List Value} (length : as.length = bs.length)
      (h : ∀ (i : Nat) v w, as[i]? = some v → bs[i]? = some w → Equal v w) :
      Equal (.array as) (.array bs)
  | object {as bs : Entries Value} (keys : ∀ key, key ∈ as.keys ↔ key ∈ bs.keys)
      (h : ∀ key v w, as.get? key = some v → bs.get? key = some w → Equal v w) :
      Equal (.object as) (.object bs)

variable {a b c : Value}

theorem WellKeyed.equal_self (h : a.WellKeyed) : a.Equal a := by
  induction h with
  | null => exact .null
  | bool b => exact .bool b
  | number d => exact .number rfl
  | text s => exact .text s
  | @array items _ ih =>
    refine .array rfl ?_
    intro i v w hv hw
    cases hv.symm.trans hw
    exact ih v (List.mem_of_getElem? hv)
  | @object entries _ _ ih =>
    refine .object (fun _ => Iff.rfl) ?_
    intro key v w hv hw
    cases hv.symm.trans hw
    exact ih (key, v) (Entries.mem_of_get? hv)

theorem Equal.symm (h : a.Equal b) : b.Equal a := by
  induction h with
  | null => exact .null
  | bool b => exact .bool b
  | number h => exact .number h.symm
  | text s => exact .text s
  | array length _ ih => exact .array length.symm fun i v w hv hw => ih i w v hw hv
  | object keys _ ih =>
    exact .object (fun key => (keys key).symm) fun key v w hv hw => ih key w v hw hv

theorem Equal.trans (h : a.Equal b) (h' : b.Equal c) : a.Equal c := by
  induction h generalizing c with
  | null => exact h'
  | bool b => exact h'
  | number h =>
    cases h' with
    | number h' => exact .number (h.trans h')
  | text s => exact h'
  | @array as bs length _ ih =>
    cases h' with
    | @array _ cs length' h' =>
      refine .array (length.trans length') ?_
      intro i v w hv hw
      -- The place exists in the array between the two, too.
      obtain ⟨hi, -⟩ := List.getElem?_eq_some_iff.1 hv
      have hu := List.getElem?_eq_getElem (length ▸ hi)
      exact ih i v _ hv hu (h' i _ w hu hw)
  | @object as bs keys _ ih =>
    cases h' with
    | @object _ cs keys' h' =>
      refine .object (fun key => (keys key).trans (keys' key)) ?_
      intro key v w hv hw
      obtain ⟨u, hu⟩ := Entries.mem_keys_iff.1 ((keys key).1 (Entries.mem_keys_iff.2 ⟨v, hv⟩))
      exact ih key v u hv hu (h' key u w hu hw)

/-! ## Deciding equality -/

theorem sameItems_iff {as bs : List Value} : sameItems as bs = true ↔
    as.length = bs.length ∧
      ∀ (i : Nat) v w, as[i]? = some v → bs[i]? = some w → same v w = true := by
  induction as generalizing bs with
  | nil => cases bs <;> simp [sameItems]
  | cons x as ih =>
    cases bs with
    | nil => simp [sameItems]
    | cons y bs =>
      rw [sameItems, Bool.and_eq_true, ih]
      constructor
      · rintro ⟨hfirst, hlength, hrest⟩
        refine ⟨by simp [hlength], ?_⟩
        intro i v w hv hw
        cases i with
        | zero =>
          cases hv
          cases hw
          exact hfirst
        | succ i => exact hrest i v w hv hw
      · rintro ⟨hlength, h⟩
        exact ⟨h 0 x y rfl rfl, Nat.succ.inj hlength, fun i => h (i + 1)⟩

theorem sameEntries_iff {as bs : Entries Value} : sameEntries as bs = true ↔
    ∀ p ∈ as, ∃ w, bs.get? p.1 = some w ∧ same p.2 w = true := by
  induction as with
  | nil => simp [sameEntries]
  | cons p as ih =>
    rw [sameEntries, Bool.and_eq_true, ih, List.forall_mem_cons]
    cases bs.get? p.1 <;> simp

/-- Objects are decided to be equal if they have the same keys and equal values under them. -/
theorem same_object_iff {as bs : Entries Value} (has : as.keys.Nodup) (hbs : bs.keys.Nodup) :
    same (.object as) (.object bs) = true ↔ (∀ key, key ∈ as.keys ↔ key ∈ bs.keys) ∧
      ∀ key v w, as.get? key = some v → bs.get? key = some w → same v w = true := by
  rw [same, Bool.and_eq_true, beq_iff_eq, sameEntries_iff]
  constructor
  · rintro ⟨hlength, h⟩
    have hsubset : as.keys ⊆ bs.keys := by
      intro key hkey
      obtain ⟨v, hv⟩ := Entries.mem_keys_iff.1 hkey
      obtain ⟨w, hw, -⟩ := h _ (Entries.mem_of_get? hv)
      exact Entries.mem_keys_iff.2 ⟨w, hw⟩
    refine ⟨fun key => ⟨fun hkey => hsubset hkey, ?_⟩, ?_⟩
    · exact Entries.mem_keys_of_subset has hlength hsubset
    · intro key v w hv hw
      obtain ⟨u, hu, hsame⟩ := h _ (Entries.mem_of_get? hv)
      cases hu.symm.trans hw
      exact hsame
  · rintro ⟨hkeys, h⟩
    refine ⟨Entries.length_eq_of_keys has hbs hkeys, ?_⟩
    intro p hp
    obtain ⟨w, hw⟩ := Entries.mem_keys_iff.1 ((hkeys p.1).1 (Entries.mem_keys_of_mem hp))
    exact ⟨w, hw, h p.1 p.2 w (Entries.get?_of_mem has hp) hw⟩

/-- `same` decides equality. -/
theorem same_iff_equal (ha : a.WellKeyed) (hb : b.WellKeyed) : a.same b = true ↔ a.Equal b := by
  induction ha generalizing b with
  | null =>
    refine ⟨fun h => ?_, fun h => by cases h; rfl⟩
    cases b <;> first | exact .null | cases h
  | bool x =>
    refine ⟨fun h => ?_, fun h => by cases h; simp [same]⟩
    cases b <;> simp only [same, beq_iff_eq, Bool.false_eq_true] at h
    subst h
    exact .bool _
  | number x =>
    refine ⟨fun h => ?_, fun h => by cases h with | number h => exact (Decimal.same_iff _ _).2 h⟩
    cases b <;> simp only [same, Decimal.same_iff, Bool.false_eq_true] at h
    exact .number h
  | text x =>
    refine ⟨fun h => ?_, fun h => by cases h; simp [same]⟩
    cases b <;> simp only [same, beq_iff_eq, Bool.false_eq_true] at h
    subst h
    exact .text _
  | @array as has ih =>
    cases hb with
    | @array bs hbs =>
      have hitem (i : Nat) (v w : Value) (hv : as[i]? = some v) (hw : bs[i]? = some w) :
          same v w = true ↔ v.Equal w :=
        ih v (List.mem_of_getElem? hv) (hbs w (List.mem_of_getElem? hw))
      rw [same, sameItems_iff]
      constructor
      · rintro ⟨hlength, h⟩
        exact .array hlength fun i v w hv hw => (hitem i v w hv hw).1 (h i v w hv hw)
      · rintro ⟨⟩
        next hlength h => exact ⟨hlength, fun i v w hv hw => (hitem i v w hv hw).2 (h i v w hv hw)⟩
    | _ => exact ⟨nofun, nofun⟩
  | @object as hkeys has ih =>
    cases hb with
    | @object bs hkeys' hbs =>
      have hentry (key : String) (v w : Value) (hv : as.get? key = some v)
          (hw : bs.get? key = some w) : same v w = true ↔ v.Equal w :=
        ih (key, v) (Entries.mem_of_get? hv) (hbs (key, w) (Entries.mem_of_get? hw))
      rw [same_object_iff hkeys hkeys']
      constructor
      · rintro ⟨hsame, h⟩
        exact .object hsame fun key v w hv hw => (hentry key v w hv hw).1 (h key v w hv hw)
      · rintro ⟨⟩
        next hsame h =>
          exact ⟨hsame, fun key v w hv hw => (hentry key v w hv hw).2 (h key v w hv hw)⟩
    | _ => exact ⟨nofun, nofun⟩

end Value
end ReceiptTemplate
