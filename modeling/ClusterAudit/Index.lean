/-
Values filed under keys: each key that occurs has a list, in the order the
values came.
-/
namespace ClusterAudit

abbrev Index (α : Type) := List (String × List α)

namespace Index

variable {α : Type}

/-- The values filed under `k`; none for a key that does not occur. -/
def get (ix : Index α) (k : String) : List α :=
  match ix.find? (·.1 == k) with
  | some (_, xs) => xs
  | none => []

/-- `a` at the end of the list of `k`. -/
def add (k : String) (a : α) : Index α → Index α
  | [] => [(k, [a])]
  | (k', xs) :: rest => if k' = k then (k', xs ++ [a]) :: rest else (k', xs) :: add k a rest

def keys (ix : Index α) : List String := ix.map (·.1)

/-- Every value under the key `key` gives it. -/
def ofList (key : α → String) (xs : List α) : Index α :=
  xs.foldl (fun ix a => ix.add (key a) a) []

@[simp] theorem get_nil (k : String) : get ([] : Index α) k = [] := rfl

theorem get_cons (k' : String) (xs : List α) (ix : Index α) (k : String) :
    get ((k', xs) :: ix) k = if k' = k then xs else get ix k := by
  by_cases h : k' = k <;> simp [get, h]

theorem get_add_self (ix : Index α) (k : String) (a : α) : (ix.add k a).get k = ix.get k ++ [a] := by
  induction ix with
  | nil => simp [add, get_cons]
  | cons p ix ih =>
    obtain ⟨k', xs⟩ := p
    by_cases h : k' = k <;> simp [add, h, get_cons, ih]

theorem get_add_of_ne (ix : Index α) {k k' : String} (a : α) (h : k ≠ k') :
    (ix.add k a).get k' = ix.get k' := by
  induction ix with
  | nil => simp [add, get_cons, h]
  | cons p ix ih =>
    obtain ⟨j, xs⟩ := p
    by_cases hj : j = k
    · subst hj; simp [add, get_cons, h]
    · simp [add, hj, get_cons, ih]

theorem get_foldl_add (key : α → String) (xs : List α) (ix : Index α) (k : String) :
    (xs.foldl (fun ix a => ix.add (key a) a) ix).get k = ix.get k ++ xs.filter fun a => key a == k := by
  induction xs generalizing ix with
  | nil => simp
  | cons a xs ih =>
    rw [List.foldl_cons, ih]
    by_cases h : key a = k
    · simp [← h, get_add_self]
    · simp [get_add_of_ne _ _ h, h]

/-- What is filed under a key, in the order it came. -/
theorem get_ofList (key : α → String) (xs : List α) (k : String) :
    (ofList key xs).get k = xs.filter fun a => key a == k := by
  simp [ofList, get_foldl_add]

@[simp] theorem keys_nil : keys ([] : Index α) = [] := rfl

@[simp] theorem keys_cons (k : String) (xs : List α) (ix : Index α) :
    keys ((k, xs) :: ix) = k :: keys ix := rfl

/-- A new key comes last. -/
theorem keys_add (ix : Index α) (k : String) (a : α) :
    (ix.add k a).keys = if k ∈ ix.keys then ix.keys else ix.keys ++ [k] := by
  induction ix with
  | nil => simp [add]
  | cons p ix ih =>
    obtain ⟨j, xs⟩ := p
    by_cases hj : j = k
    · simp [add, hj]
    · have hmem : k ∈ j :: keys ix ↔ k ∈ keys ix := by simp [Ne.symm hj]
      simp only [add, hj, if_false, keys_cons, ih, hmem]
      split <;> rfl

theorem mem_keys_of_mem_get {ix : Index α} {k : String} {a : α} (h : a ∈ ix.get k) : k ∈ ix.keys := by
  induction ix with
  | nil => simp at h
  | cons p ix ih =>
    obtain ⟨j, xs⟩ := p
    by_cases hj : j = k
    · simp [hj]
    · exact List.mem_cons_of_mem _ (ih (by simpa [get_cons, hj] using h))

end Index

end ClusterAudit
