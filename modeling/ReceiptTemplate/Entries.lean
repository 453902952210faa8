/-!
# Entries — keys and values in order of first insertion

Objects, named filter arguments and registries list their keys in the order in which they were first
given.  Writing a key again replaces its value and keeps its place.
-/

namespace ReceiptTemplate

/-- Pairs of a key and a value; the first pair with a key holds its value. -/
abbrev Entries (α : Type _) := List (String × α)

namespace Entries

variable {α : Type _}

/-- The pairs with `key` set to `value`. -/
def insert (key : String) (value : α) : Entries α → Entries α
  | [] => [(key, value)]
  | (k, v) :: rest => if k = key then (key, value) :: rest else (k, v) :: insert key value rest

/-- The value of a key. -/
def get? (entries : Entries α) (key : String) : Option α :=
  (entries.find? (·.1 == key)).map (·.2)

def keys (entries : Entries α) : List String :=
  entries.map (·.1)

/-- The pairs written one after the other. -/
def ofList (pairs : List (String × α)) : Entries α :=
  pairs.foldl (fun acc p => insert p.1 p.2 acc) []

/-! ## Reading back -/

theorem get?_nil (key : String) : get? ([] : Entries α) key = none := rfl

theorem get?_cons (k : String) (v : α) (rest : Entries α) (key : String) :
    get? ((k, v) :: rest) key = if k = key then some v else get? rest key := by
  by_cases h : k = key <;> simp [get?, h]

theorem get?_insert (key : String) (value : α) (entries : Entries α) (k : String) :
    get? (insert key value entries) k = if key = k then some value else get? entries k := by
  induction entries with
  | nil => simp [insert, get?_cons, get?_nil]
  | cons p rest ih =>
    obtain ⟨k', v'⟩ := p
    rw [insert]
    split
    · next h =>
      subst h
      rw [get?_cons, get?_cons]
      split <;> rfl
    · next h =>
      rw [get?_cons, get?_cons, ih]
      by_cases h1 : k' = k
      · subst h1; simp [Ne.symm h]
      · simp [h1]

theorem mem_keys_insert (key : String) (value : α) (entries : Entries α) (k : String) :
    k ∈ keys (insert key value entries) ↔ k = key ∨ k ∈ keys entries := by
  induction entries with
  | nil => simp [insert, keys]
  | cons p rest ih =>
    obtain ⟨k', v'⟩ := p
    rw [insert]
    split
    · next h => subst h; simp [keys]
    · next h =>
      have := ih
      simp only [keys, List.map_cons, List.mem_cons] at this ⊢
      rw [this]
      exact or_left_comm

theorem mem_of_get? {key : String} {value : α} {entries : Entries α}
    (h : get? entries key = some value) : (key, value) ∈ entries := by
  rw [get?, Option.map_eq_some_iff] at h
  obtain ⟨p, hfind, rfl⟩ := h
  have hkey : p.1 = key := by simpa using List.find?_some hfind
  rw [← hkey]
  exact List.mem_of_find?_eq_some hfind

theorem get?_eq_none_iff {key : String} {entries : Entries α} :
    get? entries key = none ↔ key ∉ keys entries := by
  induction entries with
  | nil => simp [get?_nil, keys]
  | cons p rest ih =>
    obtain ⟨k, v⟩ := p
    rw [get?_cons]
    by_cases hk : k = key
    · simp [keys, hk]
    · simpa [keys, hk, Ne.symm hk] using ih

/-- A new key is written at the end. -/
theorem insert_of_not_mem {key : String} (value : α) {entries : Entries α}
    (h : key ∉ keys entries) : insert key value entries = entries ++ [(key, value)] := by
  induction entries with
  | nil => rfl
  | cons p rest ih =>
    obtain ⟨k, v⟩ := p
    have hp : ¬k = key ∧ key ∉ keys rest := by simpa [keys, eq_comm] using h
    rw [insert, if_neg hp.1, ih hp.2]
    rfl

/-- Keys stay distinct. -/
theorem nodup_keys_insert (key : String) (value : α) {entries : Entries α}
    (h : (keys entries).Nodup) : (keys (insert key value entries)).Nodup := by
  induction entries with
  | nil => simp [insert, keys]
  | cons p rest ih =>
    obtain ⟨k', v'⟩ := p
    rw [insert]
    split
    · next hk => subst hk; simpa [keys] using h
    · next hk =>
      have hp : k' ∉ keys rest ∧ (keys rest).Nodup := by simpa [keys] using h
      have hm : k' ∉ keys (insert key value rest) := by
        rw [mem_keys_insert]
        exact fun hc => hc.elim hk hp.1
      simpa [keys] using And.intro hm (ih hp.2)

end Entries
end ReceiptTemplate
