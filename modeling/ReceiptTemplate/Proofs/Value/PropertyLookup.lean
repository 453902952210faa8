import ReceiptTemplate.Proofs.Text.Digits
import ReceiptTemplate.Proofs.Value.Equality

/-!
# Property lookup — what an object finds of the pairs that it was built from

An object keeps the distinct keys of its pairs, without the blanks around them, at their first places and
with their last values.  A text names the key that it is when stripped, and otherwise the first key that
differs from it by case only.

`PropertyIndex` is an object with a table beside its entries that holds the first key of each caseless
form.  A lookup through the table finds what the scan of the entries finds.
-/

namespace ReceiptTemplate

/-! ## Entries written from pairs -/

namespace Entries

variable {α : Type _}

/-- Keys stay at their places, and a new one comes last. -/
theorem keys_insert (key : String) (value : α) (entries : Entries α) :
    (insert key value entries).keys
      = if key ∈ entries.keys then entries.keys else entries.keys ++ [key] := by
  induction entries with
  | nil => rfl
  | cons p rest ih =>
    obtain ⟨k, v⟩ := p
    rw [insert]
    by_cases hk : k = key
    · simp [hk, keys]
    · have hcons (es : Entries α) : keys ((k, v) :: es) = k :: keys es := rfl
      have hmem : key ∈ k :: keys rest ↔ key ∈ keys rest := by simp [Ne.symm hk]
      rw [if_neg hk, hcons, ih, hcons]
      simp only [hmem]
      split <;> rfl

theorem ofList_concat (pairs : List (String × α)) (p : String × α) :
    ofList (pairs ++ [p]) = insert p.1 p.2 (ofList pairs) := by
  simp [ofList]

/-- Whatever is written for pairs, the keys are those of the pairs, each at its first place. -/
theorem keys_foldl_insert {β : Type _} (value : Entries α → String × β → α)
    (pairs : List (String × β)) :
    keys (pairs.foldl (fun acc p => insert p.1 (value acc p) acc) [])
      = (pairs.map (·.1)).eraseDups := by
  induction pairs using List.reverseRecOn with
  | nil => rfl
  | append_singleton pairs p ih =>
    rw [List.foldl_append, List.foldl_cons, List.foldl_nil, keys_insert, ih, List.map_append,
      List.eraseDups_append]
    by_cases hp : p.1 ∈ pairs.map (·.1)
    · simp [List.removeAll, hp]
    · simp [List.removeAll, hp, List.eraseDups_cons]

theorem keys_ofList (pairs : List (String × α)) :
    (ofList pairs).keys = (pairs.map (·.1)).eraseDups :=
  keys_foldl_insert (fun _ p => p.2) pairs

/-- The value of a key is the last one that the pairs give it. -/
theorem get?_ofList (pairs : List (String × α)) (key : String) :
    (ofList pairs).get? key = ((pairs.filter (·.1 == key)).getLast?).map (·.2) := by
  induction pairs using List.reverseRecOn with
  | nil => rfl
  | append_singleton pairs p ih =>
    rw [ofList_concat, get?_insert, ih, List.filter_append]
    by_cases hp : p.1 = key <;> simp [hp]

/-- Pairs with distinct keys stay as they are. -/
theorem ofList_of_nodup {pairs : List (String × α)} (h : (keys pairs).Nodup) :
    ofList pairs = pairs := by
  induction pairs using List.reverseRecOn with
  | nil => rfl
  | append_singleton pairs p ih =>
    have hsplit : (keys pairs).Nodup ∧ p.1 ∉ keys pairs := by
      have hkeys : keys (pairs ++ [p]) = keys pairs ++ [p.1] := List.map_append
      rw [hkeys, List.nodup_append] at h
      exact ⟨h.1, fun hp => h.2.2 _ hp _ (List.mem_singleton.2 rfl) rfl⟩
    rw [ofList_concat, ih hsplit.1, insert_of_not_mem p.2 hsplit.2]

end Entries

namespace Value

open Text (fold strip)

variable {entries : Entries Value} {pairs : List (String × Value)} {key : String}

/-! ## What is stored -/

/-- The keys of an object, in the order in which the pairs first give them. -/
def storedKeys (pairs : List (String × Value)) : List String :=
  (pairs.map fun p => strip p.1).eraseDups

/-- The last value that the pairs give a key. -/
def lastValue? (pairs : List (String × Value)) (key : String) : Option Value :=
  ((pairs.filter fun p => strip p.1 == key).getLast?).map (·.2)

theorem keys_normalizeEntries (pairs : List (String × Value)) :
    (normalizeEntries pairs).keys = storedKeys pairs := by
  rw [normalizeEntries, Entries.keys_ofList, List.map_map]
  rfl

theorem get?_normalizeEntries (pairs : List (String × Value)) (key : String) :
    (normalizeEntries pairs).get? key = lastValue? pairs key := by
  rw [normalizeEntries, Entries.get?_ofList, List.filter_map, List.getLast?_map, Option.map_map]
  rfl

theorem nodup_keys_normalizeEntries (pairs : List (String × Value)) :
    (normalizeEntries pairs).keys.Nodup :=
  Entries.nodup_keys_ofList _

/-- No stored key has blanks around it. -/
theorem strip_of_mem_storedKeys (h : key ∈ storedKeys pairs) : strip key = key := by
  obtain ⟨p, -, rfl⟩ := List.mem_map.1 (List.mem_eraseDups.1 h)
  exact Text.strip_strip p.1

/-! ## What is found -/

/-- The key that a text names: itself when stripped, or else the first key that differs from that by case
only. -/
def namedKey? (keys : List String) (key : String) : Option String :=
  if strip key ∈ keys then some (strip key) else keys.find? fun k => fold k == fold (strip key)

theorem mem_of_namedKey? {keys : List String} {k : String} (h : namedKey? keys key = some k) :
    k ∈ keys := by
  unfold namedKey? at h
  split at h
  · next hmem =>
    cases h
    exact hmem
  · exact List.mem_of_find?_eq_some h

/-- The first entry of some kind holds the value of its key. -/
theorem map_find?_entries (hkeys : entries.keys.Nodup) (q : String → Bool) :
    (entries.find? fun p => q p.1).map (·.2) = (entries.keys.find? q).bind entries.get? := by
  have hfind : entries.keys.find? q = (entries.find? fun p => q p.1).map (·.1) := List.find?_map
  rw [hfind]
  cases h : entries.find? fun p => q p.1 with
  | none => rfl
  | some p => exact (Entries.get?_of_mem hkeys (List.mem_of_find?_eq_some h)).symm

theorem property?_eq (hkeys : entries.keys.Nodup) (key : String) :
    property? entries key = (namedKey? entries.keys key).bind entries.get? := by
  unfold property? namedKey?
  cases h : entries.get? (strip key) with
  | some v =>
    rw [if_pos (Entries.mem_keys_iff.2 ⟨v, h⟩)]
    exact h.symm
  | none =>
    rw [if_neg (Entries.get?_eq_none_iff.1 h)]
    exact map_find?_entries hkeys fun k => fold k == fold (strip key)

/-- A key that is named has a value. -/
theorem isSome_property? (hkeys : entries.keys.Nodup) (key : String) :
    (property? entries key).isSome = (namedKey? entries.keys key).isSome := by
  rw [property?_eq hkeys]
  cases h : namedKey? entries.keys key with
  | none => rfl
  | some k =>
    obtain ⟨v, hv⟩ := Entries.mem_keys_iff.1 (mem_of_namedKey? h)
    rw [Option.bind_some, hv]
    rfl

end Value

/-! ## Lookup through a table -/

/-- An object with the first key of each caseless form. -/
structure PropertyIndex where
  entries : Entries Value
  firstKeys : Entries String

namespace PropertyIndex

open Text (fold strip)

/-- The table with a key under its caseless form, unless another key has that place. -/
def addKey (table : Entries String) (key : String) : Entries String :=
  if (table.get? (fold key)).isSome then table else Entries.insert (fold key) key table

def ofPairs (pairs : List (String × Value)) : PropertyIndex where
  entries := Value.normalizeEntries pairs
  firstKeys := (Value.normalizeEntries pairs).keys.foldl addKey []

/-- The value of a property. -/
def get? (o : PropertyIndex) (key : String) : Option Value :=
  match o.entries.get? (strip key) with
  | some v => some v
  | none => (o.firstKeys.get? (fold (strip key))).bind o.entries.get?

def get (o : PropertyIndex) (key : String) (default : Value) : Value :=
  (o.get? key).getD default

/-- The value of the key exactly as written. -/
def getExact (o : PropertyIndex) (key : String) (default : Value) : Value :=
  (o.entries.get? key).getD default

/-- Whether a text names a property. -/
def contains (o : PropertyIndex) (key : String) : Bool :=
  (o.entries.get? (strip key)).isSome || (o.firstKeys.get? (fold (strip key))).isSome

theorem get?_addKey (table : Entries String) (key form : String) :
    (addKey table key).get? form
      = (table.get? form).or (if fold key = form then some key else none) := by
  unfold addKey
  split
  · next hsome =>
    obtain ⟨k, hk⟩ := Option.isSome_iff_exists.1 hsome
    by_cases hform : fold key = form
    · subst hform
      rw [hk]
      rfl
    · rw [if_neg hform, Option.or_none]
  · next hnone =>
    rw [Entries.get?_insert]
    by_cases hform : fold key = form
    · subst hform
      rw [if_pos rfl, if_pos rfl, Option.not_isSome_iff_eq_none.1 hnone]
      rfl
    · rw [if_neg hform, if_neg hform, Option.or_none]

/-- The table holds the first of the keys that were added, under each form. -/
theorem get?_foldl_addKey (keys : List String) (table : Entries String) (form : String) :
    (keys.foldl addKey table).get? form
      = (table.get? form).or (keys.find? fun k => fold k == form) := by
  induction keys generalizing table with
  | nil => exact Option.or_none.symm
  | cons key keys ih =>
    rw [List.foldl_cons, ih, get?_addKey, Option.or_assoc, List.find?_cons]
    by_cases hform : fold key = form
    · rw [if_pos hform, beq_iff_eq.2 hform]
      rfl
    · rw [if_neg hform, beq_eq_false_iff_ne.2 hform]
      rfl

theorem get?_firstKeys (pairs : List (String × Value)) (form : String) :
    (ofPairs pairs).firstKeys.get? form
      = (Value.storedKeys pairs).find? fun k => fold k == form := by
  rw [← Value.keys_normalizeEntries]
  exact get?_foldl_addKey _ [] form

/-- The table and the scan find the same. -/
theorem get?_ofPairs (pairs : List (String × Value)) (key : String) :
    (ofPairs pairs).get? key = Value.property? (Value.normalizeEntries pairs) key := by
  have hscan := Value.map_find?_entries (Value.nodup_keys_normalizeEntries pairs)
    fun k => fold k == fold (strip key)
  unfold get? Value.property? Value.findFolded?
  rw [get?_firstKeys, ← Value.keys_normalizeEntries, hscan]
  rfl

theorem contains_ofPairs (pairs : List (String × Value)) (key : String) :
    (ofPairs pairs).contains key = (Value.namedKey? (Value.storedKeys pairs) key).isSome := by
  have hexact : ((ofPairs pairs).entries.get? (strip key)).isSome = true ↔
      strip key ∈ Value.storedKeys pairs := by
    rw [← Value.keys_normalizeEntries, Entries.mem_keys_iff, Option.isSome_iff_exists]
    rfl
  unfold contains Value.namedKey?
  rw [get?_firstKeys]
  by_cases h : strip key ∈ Value.storedKeys pairs
  · rw [if_pos h, hexact.2 h]
    rfl
  · rw [if_neg h, Bool.eq_false_iff.2 fun hsome => h (hexact.1 hsome)]
    rfl

/-- An object holds the stripped keys of its pairs at their first places with their last values.  A text
finds the key that it is when stripped, or else the first one that differs by case only, and every stored
key finds itself; the exact lookup takes the text as it is.  The scan of the entries gives the same as the
table beside them. -/
theorem lookup_of_pairs (pairs : List (String × Value)) :
    let o := ofPairs pairs
    let keys := Value.storedKeys pairs
    Value.ofEntries pairs = .object o.entries ∧ o.entries.keys = keys ∧
      (∀ k, o.entries.get? k = Value.lastValue? pairs k) ∧
      ∀ key default,
        o.get key default
          = ((Value.namedKey? keys key).bind (Value.lastValue? pairs)).getD default ∧
        o.contains key = (Value.namedKey? keys key).isSome ∧
        (key ∈ keys → ∃ v, Value.lastValue? pairs key = some v ∧ o.get key default = v) ∧
        o.getExact key default = (Value.lastValue? pairs key).getD default ∧
        o.get? key = Value.property? o.entries key ∧
        o.contains key = (Value.property? o.entries key).isSome ∧
        o.entries.get? key = Value.exactProperty? o.entries key := by
  intro o keys
  have hnodup : o.entries.keys.Nodup := Value.nodup_keys_normalizeEntries pairs
  have hkeys : o.entries.keys = keys := Value.keys_normalizeEntries pairs
  have hvalue (k : String) : o.entries.get? k = Value.lastValue? pairs k :=
    Value.get?_normalizeEntries pairs k
  have hget (key : String) :
      o.get? key = (Value.namedKey? keys key).bind (Value.lastValue? pairs) := by
    rw [get?_ofPairs, ← hkeys, ← funext hvalue]
    exact Value.property?_eq hnodup key
  refine ⟨rfl, hkeys, hvalue, ?_⟩
  intro key default
  refine ⟨?_, contains_ofPairs pairs key, ?_, ?_, get?_ofPairs pairs key, ?_, rfl⟩
  · rw [get, hget]
  · intro hmem
    -- A stored key is its own stripped form, so no other spelling comes before it.
    have hnamed : Value.namedKey? keys key = some key := by
      rw [Value.namedKey?, Value.strip_of_mem_storedKeys hmem, if_pos hmem]
    obtain ⟨v, hv⟩ := Entries.mem_keys_iff.1 (hkeys ▸ hmem)
    rw [hvalue] at hv
    refine ⟨v, hv, ?_⟩
    rw [get, hget, hnamed, Option.bind_some, hv, Option.getD_some]
  · rw [getExact, hvalue]
  · rw [contains_ofPairs, Value.isSome_property? hnodup, hkeys]

end PropertyIndex

end ReceiptTemplate
