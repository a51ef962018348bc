/-!
# Tables keyed by text

A `Table α` holds values under text keys, in the order in which the keys were first inserted. Its
view is `get?`: `get?_insert` says what one insertion does to every look-up, and `keys_insert`
what it does to the order.
-/

namespace IdIssuer

/-- Values under text keys, in the order in which the keys came. -/
structure Table (α : Type) where
  entries : List (String × α)
deriving Repr, DecidableEq

namespace Table

variable {α : Type}

/-- The table without entries. -/
def empty : Table α := ⟨[]⟩

/-- The value of the first entry under a key. -/
def find (key : String) : List (String × α) → Option α
  | [] => none
  | (k, value) :: rest => if k = key then some value else find key rest

/-- Replaces the value of the first entry under a key, or adds an entry behind all others. -/
def put (key : String) (value : α) : List (String × α) → List (String × α)
  | [] => [(key, value)]
  | (k, old) :: rest => if k = key then (k, value) :: rest else (k, old) :: put key value rest

/-- The value under a key. -/
def get? (t : Table α) (key : String) : Option α := find key t.entries

/-- Puts a value under a key, in place of the one that it had. -/
def insert (t : Table α) (key : String) (value : α) : Table α := ⟨put key value t.entries⟩

/-- The keys, oldest first. -/
def keys (t : Table α) : List String := t.entries.map (·.1)

/-- The values, in the order of their keys. -/
def values (t : Table α) : List α := t.entries.map (·.2)

/-- The number of keys. -/
def size (t : Table α) : Nat := t.entries.length

/-! ## Look-ups -/

theorem find_put (key : String) (value : α) (entries : List (String × α)) (k : String) :
    find k (put key value entries) = if key = k then some value else find k entries := by
  induction entries with
  | nil => rfl
  | cons entry rest ih =>
    obtain ⟨k', old⟩ := entry
    by_cases h' : k' = key
    · subst h'; by_cases h : k' = k <;> simp [put, find, h]
    · by_cases h : k' = k
      · subst h; simp [put, find, h', Ne.symm h']
      · simp [put, find, h', h, ih]

@[simp] theorem get?_empty (key : String) : (empty : Table α).get? key = none := rfl

@[simp] theorem get?_insert (t : Table α) (key : String) (value : α) (k : String) :
    (t.insert key value).get? k = if key = k then some value else t.get? k :=
  find_put key value t.entries k

theorem put_of_find {key : String} {value : α} {entries : List (String × α)}
    (h : find key entries = some value) : put key value entries = entries := by
  induction entries with
  | nil => cases h
  | cons entry rest ih =>
    obtain ⟨k, old⟩ := entry
    by_cases hk : k = key
    · simp only [find, hk, if_true, Option.some.injEq] at h
      simp [put, hk, h]
    · simp only [find, hk, if_false] at h
      simp [put, hk, ih h]

/-- Putting a value where it is already changes nothing. -/
theorem insert_of_get? {t : Table α} {key : String} {value : α} (h : t.get? key = some value) :
    t.insert key value = t := congrArg Table.mk (put_of_find h)

/-! ## Keys -/

theorem map_put (key : String) (value : α) (entries : List (String × α)) :
    (put key value entries).map (·.1) =
      if key ∈ entries.map (·.1) then entries.map (·.1) else entries.map (·.1) ++ [key] := by
  induction entries with
  | nil => simp [put]
  | cons entry rest ih =>
    obtain ⟨k, old⟩ := entry
    by_cases h : k = key
    · simp [put, h]
    · by_cases hm : key ∈ rest.map (·.1) <;> simp_all [put, Ne.symm h]

/-- A new key goes behind the others, and an old one stays where it is. -/
theorem keys_insert (t : Table α) (key : String) (value : α) :
    (t.insert key value).keys = if key ∈ t.keys then t.keys else t.keys ++ [key] :=
  map_put key value t.entries

theorem mem_keys_iff (t : Table α) (key : String) : key ∈ t.keys ↔ (t.get? key).isSome := by
  obtain ⟨entries⟩ := t
  simp only [keys, get?]
  induction entries with
  | nil => simp [find]
  | cons entry rest ih =>
    obtain ⟨k, value⟩ := entry
    by_cases h : k = key
    · simp [find, h]
    · simp [find, h, Ne.symm h, ih]

end Table

end IdIssuer
