import ReceiptTemplate.Proofs.Value.PropertyLookup
import ReceiptTemplate.Value.Datum

/-!
# Conversion — values to plain data and back

`Value.Constructed` are the values that can be built: every object in them was built from pairs, so its keys
are distinct and have no blanks around them.  `Datum.Plain` is the data that looks like a value: null,
booleans, texts, finite decimals, lists, and mappings whose keys are distinct texts without blanks around
them.

The data of a value gives that value back exactly if it is constructed, and the value of data gives that
data back exactly if it is plain.  Nothing is merged, renamed or moved at any depth, and numbers keep their
digits.
-/

namespace ReceiptTemplate

/-! ## Values that are built -/

namespace Value

open Text (strip)

variable {v : Value} {items : List Value} {entries : Entries Value}

/-- The values that can be built.  An object is built from pairs. -/
inductive Constructed : Value → Prop
  | null : Constructed .null
  | bool (b : Bool) : Constructed (.bool b)
  | number (d : Decimal) : Constructed (.number d)
  | text (s : String) : Constructed (.text s)
  | array {items : List Value} (h : ∀ v ∈ items, Constructed v) : Constructed (.array items)
  | object {pairs : List (String × Value)} (h : ∀ p ∈ pairs, Constructed p.2) :
      Constructed (ofEntries pairs)

/-- Entries as they are in an object: distinct keys without blanks around them. -/
structure Stored {α : Type _} (entries : Entries α) : Prop where
  distinct : entries.keys.Nodup
  stripped : ∀ p ∈ entries, strip p.1 = p.1

theorem stored_normalizeEntries (pairs : List (String × Value)) : Stored (normalizeEntries pairs) where
  distinct := nodup_keys_normalizeEntries pairs
  stripped p hp := by
    have hkey : p.1 ∈ (normalizeEntries pairs).keys := Entries.mem_keys_of_mem hp
    rw [keys_normalizeEntries] at hkey
    exact strip_of_mem_storedKeys hkey

/-- An object is built anew from its entries without a change. -/
theorem Stored.ofEntries_eq (h : Stored entries) : ofEntries entries = .object entries := by
  have hstrip : ∀ p ∈ entries, (strip p.1, p.2) = p := fun p hp => Prod.ext (h.stripped p hp) rfl
  rw [ofEntries, normalizeEntries, List.map_congr_left hstrip, List.map_id', Entries.ofList_of_nodup h.distinct]

/-! ## From values to data and back -/

theorem toValues_toData (h : ∀ v ∈ items, v.toDatum.toValue = .ok v) :
    Datum.toValues (toData items) = .ok items := by
  induction items with
  | nil => rfl
  | cons v items ih =>
    rcases List.forall_mem_cons.1 h with ⟨hv, hitems⟩
    rw [toData, Datum.toValues, hv, ih hitems]
    rfl

theorem toPairs_toDataPairs (h : ∀ p ∈ entries, p.2.toDatum.toValue = .ok p.2) :
    Datum.toPairs (toDataPairs entries) = .ok entries := by
  induction entries with
  | nil => rfl
  | cons p entries ih =>
    obtain ⟨k, v⟩ := p
    rcases List.forall_mem_cons.1 h with ⟨hv, hentries⟩
    rw [toDataPairs, Datum.toPairs, hv, ih hentries]
    rfl

/-- The mapping of stored entries gives the object of these entries. -/
theorem toValue_mapping {pairs : List (Datum × Datum)} (hpairs : Datum.toPairs pairs = .ok entries)
    (h : Stored entries) : (Datum.mapping pairs).toValue = .ok (.object entries) := by
  have hmap : (Datum.mapping pairs).toValue = .ok (ofEntries (Entries.ofList entries)) := by
    rw [Datum.toValue, hpairs]
    rfl
  rw [hmap, Entries.ofList_of_nodup h.distinct, h.ofEntries_eq]

theorem Constructed.toValue_toDatum (h : v.Constructed) : v.toDatum.toValue = .ok v := by
  induction h with
  | null => rfl
  | bool b => rfl
  | number d => rfl
  | text s => rfl
  | array _ ih =>
    rw [toDatum, Datum.toValue, toValues_toData ih]
    rfl
  | @object pairs _ ih =>
    -- Every value of the object is one of the pairs, so that the induction hypothesis is about it.
    refine toValue_mapping (toPairs_toDataPairs ?_) (stored_normalizeEntries pairs)
    intro p hp
    obtain ⟨q, hq, rfl⟩ := List.mem_map.1 (Entries.mem_of_mem_ofList hp)
    exact ih q hq

mutual

/-- The data of any value is converted, and what it gives is built from pairs. -/
theorem exists_toValue_toDatum : ∀ v : Value, ∃ w, v.toDatum.toValue = .ok w ∧ w.Constructed
  | .null => ⟨.null, rfl, .null⟩
  | .bool b => ⟨.bool b, rfl, .bool b⟩
  | .number d => ⟨.number d, rfl, .number d⟩
  | .text s => ⟨.text s, rfl, .text s⟩
  | .array items => by
    obtain ⟨ws, hws, hbuilt⟩ := exists_toValues_toData items
    refine ⟨.array ws, ?_, .array hbuilt⟩
    rw [toDatum, Datum.toValue, hws]
    rfl
  | .object entries => by
    -- These entries may repeat a key or have blanks around one, and then fewer or other ones come back.
    obtain ⟨ps, hps, hbuilt⟩ := exists_toPairs_toDataPairs entries
    refine ⟨ofEntries (Entries.ofList ps), ?_, .object fun p hp => hbuilt p (Entries.mem_of_mem_ofList hp)⟩
    rw [toDatum, Datum.toValue, hps]
    rfl

theorem exists_toValues_toData : ∀ items : List Value,
    ∃ ws, Datum.toValues (toData items) = .ok ws ∧ ∀ w ∈ ws, w.Constructed
  | [] => ⟨[], rfl, by simp⟩
  | v :: items => by
    obtain ⟨w, hw, hbuilt⟩ := exists_toValue_toDatum v
    obtain ⟨ws, hws, hrest⟩ := exists_toValues_toData items
    refine ⟨w :: ws, ?_, List.forall_mem_cons.2 ⟨hbuilt, hrest⟩⟩
    rw [toData, Datum.toValues, hw, hws]
    rfl

theorem exists_toPairs_toDataPairs : ∀ entries : List (String × Value),
    ∃ ps, Datum.toPairs (toDataPairs entries) = .ok ps ∧ ∀ p ∈ ps, p.2.Constructed
  | [] => ⟨[], rfl, by simp⟩
  | (k, v) :: entries => by
    obtain ⟨w, hw, hbuilt⟩ := exists_toValue_toDatum v
    obtain ⟨ps, hps, hrest⟩ := exists_toPairs_toDataPairs entries
    refine ⟨(k, w) :: ps, ?_, List.forall_mem_cons.2 ⟨hbuilt, hrest⟩⟩
    rw [toDataPairs, Datum.toPairs, hw, hps]
    rfl

end

theorem toValue_toDatum_iff (v : Value) : v.toDatum.toValue = .ok v ↔ v.Constructed := by
  refine ⟨?_, Constructed.toValue_toDatum⟩
  intro h
  -- Whatever comes back is built from pairs, so the value is if it comes back.
  obtain ⟨w, hw, hbuilt⟩ := exists_toValue_toDatum v
  rw [h] at hw
  cases hw
  exact hbuilt

end Value

/-! ## From data to values and back -/

namespace Datum

open Value (Stored toData toDataPairs)

variable {d : Datum}

/-- A mapping with text keys. -/
def ofTextKeys (entries : Entries Datum) : Datum :=
  .mapping (entries.map fun p => (.text p.1, p.2))

/-- Data of the kinds that values have, with keys as objects store them. -/
inductive Plain : Datum → Prop
  | null : Plain .null
  | bool (b : Bool) : Plain (.bool b)
  | decimal (x : Decimal) : Plain (.decimal (.finite x))
  | text (s : String) : Plain (.text s)
  | list {items : List Datum} (h : ∀ d ∈ items, Plain d) : Plain (.list items)
  | mapping {entries : Entries Datum} (keys : Stored entries) (h : ∀ p ∈ entries, Plain p.2) :
      Plain (ofTextKeys entries)

theorem exists_toValues {items : List Datum} (h : ∀ d ∈ items, ∃ v, d.toValue = .ok v ∧ v.toDatum = d) :
    ∃ vs, toValues items = .ok vs ∧ toData vs = items := by
  induction items with
  | nil => exact ⟨[], rfl, rfl⟩
  | cons d items ih =>
    rcases List.forall_mem_cons.1 h with ⟨⟨v, hv, hback⟩, hitems⟩
    obtain ⟨vs, hvs, hrest⟩ := ih hitems
    refine ⟨v :: vs, ?_, ?_⟩
    · rw [toValues, hv, hvs]
      rfl
    · rw [toData, hback, hrest]

theorem exists_toPairs {entries : Entries Datum}
    (h : ∀ p ∈ entries, ∃ v, p.2.toValue = .ok v ∧ v.toDatum = p.2) :
    ∃ vs : Entries Value, toPairs (entries.map fun p => (.text p.1, p.2)) = .ok vs ∧
      vs.keys = entries.keys ∧ toDataPairs vs = entries.map fun p => (.text p.1, p.2) := by
  induction entries with
  | nil => exact ⟨[], rfl, rfl, rfl⟩
  | cons p entries ih =>
    rcases List.forall_mem_cons.1 h with ⟨⟨v, hv, hback⟩, hentries⟩
    obtain ⟨vs, hvs, hkeys, hrest⟩ := ih hentries
    refine ⟨(p.1, v) :: vs, ?_, congrArg (p.1 :: ·) hkeys, ?_⟩
    · rw [List.map_cons, toPairs, hv, hvs]
      rfl
    · rw [toDataPairs, hback, hrest, List.map_cons]

/-- Whether entries are as an object stores them is a matter of their keys. -/
theorem stored_of_keys {α β : Type _} {as : Entries α} {bs : Entries β} (hkeys : as.keys = bs.keys)
    (h : Stored bs) : Stored as where
  distinct := hkeys ▸ h.distinct
  stripped p hp := by
    obtain ⟨q, hq, hkey⟩ := List.mem_map.1 (hkeys ▸ Entries.mem_keys_of_mem hp)
    rw [← hkey]
    exact h.stripped q hq

theorem Plain.toDatum_toValue (h : d.Plain) : ∃ v, d.toValue = .ok v ∧ v.toDatum = d := by
  induction h with
  | null => exact ⟨.null, rfl, rfl⟩
  | bool b => exact ⟨.bool b, rfl, rfl⟩
  | decimal x => exact ⟨.number x, rfl, rfl⟩
  | text s => exact ⟨.text s, rfl, rfl⟩
  | list _ ih =>
    obtain ⟨vs, hvs, hback⟩ := exists_toValues ih
    refine ⟨.array vs, ?_, congrArg Datum.list hback⟩
    rw [toValue, hvs]
    rfl
  | mapping keys _ ih =>
    obtain ⟨vs, hvs, hkeys, hback⟩ := exists_toPairs ih
    exact ⟨.object vs, Value.toValue_mapping hvs (stored_of_keys hkeys keys), congrArg Datum.mapping hback⟩

theorem toData_eq_map (items : List Value) : toData items = items.map Value.toDatum := by
  induction items with
  | nil => rfl
  | cons v items ih => rw [toData, ih, List.map_cons]

theorem mapping_toDataPairs (entries : Entries Value) :
    mapping (toDataPairs entries) = ofTextKeys (entries.map fun p => (p.1, p.2.toDatum)) := by
  have hpairs : toDataPairs entries = entries.map fun p => (.text p.1, p.2.toDatum) := by
    induction entries with
    | nil => rfl
    | cons p entries ih => rw [toDataPairs, ih, List.map_cons]
  rw [hpairs, ofTextKeys, List.map_map]
  rfl

/-- The data of a value that was built is plain. -/
theorem plain_toDatum {v : Value} (h : v.Constructed) : v.toDatum.Plain := by
  induction h with
  | null => exact .null
  | bool b => exact .bool b
  | number x => exact .decimal x
  | text s => exact .text s
  | @array items _ ih =>
    rw [Value.toDatum, toData_eq_map]
    exact .list (List.forall_mem_map.2 ih)
  | @object pairs _ ih =>
    rw [Value.ofEntries, Value.toDatum, mapping_toDataPairs]
    refine .mapping (stored_of_keys ?_ (Value.stored_normalizeEntries pairs)) (List.forall_mem_map.2 ?_)
    · rw [Entries.keys, List.map_map]
      rfl
    · intro p hp
      obtain ⟨q, hq, rfl⟩ := List.mem_map.1 (Entries.mem_of_mem_ofList hp)
      exact ih q hq

theorem toDatum_toValue_iff (d : Datum) : (∃ v, d.toValue = .ok v ∧ v.toDatum = d) ↔ d.Plain := by
  refine ⟨?_, Plain.toDatum_toValue⟩
  rintro ⟨v, hv, rfl⟩
  exact plain_toDatum ((Value.toValue_toDatum_iff v).1 hv)

/-- Converting a value to data and back changes nothing exactly if the value can be built, and converting
data to a value and back changes nothing exactly if the data is plain. -/
theorem conversion_round_trips :
    (∀ v : Value, v.toDatum.toValue = .ok v ↔ v.Constructed) ∧
      ∀ d : Datum, (∃ v, d.toValue = .ok v ∧ v.toDatum = d) ↔ d.Plain :=
  ⟨Value.toValue_toDatum_iff, toDatum_toValue_iff⟩

end Datum
end ReceiptTemplate
