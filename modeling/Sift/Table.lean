/-!
# Tables

A table holds one value for each of its keys, in the order in which the keys were first put. Putting
a value under a key that is there replaces the value and keeps the place. Tables are small, so a
list of pairs is all they are; everything about them is said through `get?`, `keys` and `size`.
-/

namespace Sift

structure Table (κ α : Type) where
  entries : List (κ × α)

namespace Table

variable {κ α : Type}

def empty : Table κ α := ⟨[]⟩

instance : Inhabited (Table κ α) := ⟨empty⟩

def keys (t : Table κ α) : List κ := t.entries.map (·.1)

def size (t : Table κ α) : Nat := t.entries.length

def isEmpty (t : Table κ α) : Bool := t.entries.isEmpty

@[simp] theorem keys_empty : (empty : Table κ α).keys = [] := rfl

@[simp] theorem size_empty : (empty : Table κ α).size = 0 := rfl

theorem size_eq_length_keys (t : Table κ α) : t.size = t.keys.length := by
  simp [size, keys]

theorem size_eq_of_keys {t t' : Table κ α} (h : t'.keys = t.keys) : t'.size = t.size := by
  rw [size_eq_length_keys, size_eq_length_keys, h]

/-- One more key is one more value. -/
theorem size_eq_succ_of_keys {t t' : Table κ α} {key : κ} (h : t'.keys = t.keys ++ [key]) :
    t'.size = t.size + 1 := by
  rw [size_eq_length_keys, size_eq_length_keys, h, List.length_append, List.length_singleton]

variable [DecidableEq κ]

/-- The value under a key in a list of pairs. -/
def find (key : κ) : List (κ × α) → Option α
  | [] => none
  | (k, a) :: rest => if k = key then some a else find key rest

/-- Puts a value under a key: in place of the one that stands there, else at the end. -/
def putIn (key : κ) (a : α) : List (κ × α) → List (κ × α)
  | [] => [(key, a)]
  | (k, b) :: rest => if k = key then (k, a) :: rest else (k, b) :: putIn key a rest

def get? (t : Table κ α) (key : κ) : Option α := find key t.entries

def put (t : Table κ α) (key : κ) (a : α) : Table κ α := ⟨putIn key a t.entries⟩

def contains (t : Table κ α) (key : κ) : Bool := (t.get? key).isSome

/-! ## What putting does to the views -/

@[simp] theorem get?_empty (key : κ) : (empty : Table κ α).get? key = none := rfl

theorem find_putIn (key other : κ) (a : α) (entries : List (κ × α)) :
    find other (putIn key a entries) = if key = other then some a else find other entries := by
  induction entries with
  | nil => simp [putIn, find]
  | cons e rest ih =>
    obtain ⟨k, b⟩ := e
    unfold putIn
    by_cases hk : k = key
    · subst hk
      by_cases h : k = other <;> simp [find, h]
    · by_cases h : k = other
      · subst h
        simp [find, hk, Ne.symm hk]
      · simp [find, hk, h, ih]

/-- **A key holds the value put last; other keys keep theirs.** -/
theorem get?_put (t : Table κ α) (key other : κ) (a : α) :
    (t.put key a).get? other = if key = other then some a else t.get? other :=
  find_putIn key other a t.entries

@[simp] theorem get?_put_self (t : Table κ α) (key : κ) (a : α) :
    (t.put key a).get? key = some a := by simp [get?_put]

theorem get?_put_of_ne (t : Table κ α) {key other : κ} (a : α) (h : key ≠ other) :
    (t.put key a).get? other = t.get? other := by simp [get?_put, h]

theorem putIn_of_find {key : κ} {a : α} {entries : List (κ × α)} (h : find key entries = some a) :
    putIn key a entries = entries := by
  induction entries with
  | nil => cases h
  | cons e rest ih =>
    obtain ⟨k, b⟩ := e
    unfold find at h
    unfold putIn
    by_cases hk : k = key
    · rw [if_pos hk] at h ⊢
      cases h
      rfl
    · rw [if_neg hk] at h ⊢
      rw [ih h]

/-- Putting what is there changes nothing. -/
theorem put_of_get? {t : Table κ α} {key : κ} {a : α} (h : t.get? key = some a) :
    t.put key a = t := by
  unfold put
  rw [putIn_of_find h]

theorem find_isSome_iff (key : κ) (entries : List (κ × α)) :
    (find key entries).isSome ↔ key ∈ entries.map (·.1) := by
  induction entries with
  | nil => simp [find]
  | cons e rest ih =>
    obtain ⟨k, b⟩ := e
    by_cases h : k = key
    · simp [find, h]
    · simp [find, h, ih, Ne.symm h]

/-- **The keys are those under which there is a value.** -/
theorem get?_isSome_iff (t : Table κ α) (key : κ) : (t.get? key).isSome ↔ key ∈ t.keys :=
  find_isSome_iff key t.entries

theorem get?_eq_none_iff (t : Table κ α) (key : κ) : t.get? key = none ↔ key ∉ t.keys := by
  rw [← get?_isSome_iff, Option.not_isSome_iff_eq_none]

theorem keys_putIn (key : κ) (a : α) (entries : List (κ × α)) :
    (putIn key a entries).map (·.1) =
      if key ∈ entries.map (·.1) then entries.map (·.1) else entries.map (·.1) ++ [key] := by
  induction entries with
  | nil => simp [putIn]
  | cons e rest ih =>
    obtain ⟨k, b⟩ := e
    unfold putIn
    by_cases h : k = key
    · simp [h]
    · simp only [h, if_false, List.map_cons, ih, List.mem_cons, Ne.symm h, false_or]
      split <;> simp

/-- A key that is new goes to the end. -/
theorem keys_put (t : Table κ α) (key : κ) (a : α) :
    (t.put key a).keys = if key ∈ t.keys then t.keys else t.keys ++ [key] :=
  keys_putIn key a t.entries

/-- Keys stay pairwise distinct. -/
theorem nodup_keys_put {t : Table κ α} (h : t.keys.Nodup) (key : κ) (a : α) :
    (t.put key a).keys.Nodup := by
  rw [keys_put]
  split
  · exact h
  · rename_i hk
    rw [List.nodup_append]
    refine ⟨h, by simp, ?_⟩
    intro x hx y hy
    simp only [List.mem_singleton] at hy
    exact fun e => hk (hy ▸ e ▸ hx)

end Table

end Sift
