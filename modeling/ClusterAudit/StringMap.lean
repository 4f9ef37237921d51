/-
Maps from strings to strings, as labels and annotations are: entries in
strictly increasing order of their keys, so that two maps with the same
content are equal.
-/
namespace ClusterAudit

structure StringMap where
  entries : List (String × String)
  sorted : entries.Pairwise (fun a b => a.1 < b.1)
  deriving DecidableEq

namespace StringMap

theorem ext {m m' : StringMap} (h : m.entries = m'.entries) : m = m' := by
  cases m; cases m'; cases h; rfl

def empty : StringMap := ⟨[], .nil⟩

instance : EmptyCollection StringMap := ⟨empty⟩

instance : Inhabited StringMap := ⟨empty⟩

def isEmpty (m : StringMap) : Bool := m.entries.isEmpty

def get? (m : StringMap) (k : String) : Option String :=
  (m.entries.find? (·.1 == k)).map (·.2)

def contains (m : StringMap) (k : String) : Bool := m.entries.any (·.1 == k)

/-- `entries` with `k` bound to `v`, at the place its order gives it. -/
def insertEntry (k v : String) : List (String × String) → List (String × String)
  | [] => [(k, v)]
  | (k', v') :: rest =>
    if k < k' then (k, v) :: (k', v') :: rest
    else if k = k' then (k, v) :: rest
    else (k', v') :: insertEntry k v rest

theorem mem_insertEntry {k v : String} {p : String × String} {l : List (String × String)}
    (h : p ∈ insertEntry k v l) : p = (k, v) ∨ p ∈ l := by
  induction l with
  | nil => exact .inl (by simpa [insertEntry] using h)
  | cons q l ih =>
    simp only [insertEntry] at h
    split at h
    · simpa using h
    · split at h <;> simp only [List.mem_cons] at h ⊢
      · rcases h with h | h
        · exact .inl h
        · exact .inr (.inr h)
      · rcases h with h | h
        · exact .inr (.inl h)
        · exact (ih h).imp_right .inr

theorem sorted_insertEntry {k v : String} {l : List (String × String)}
    (h : l.Pairwise (fun a b => a.1 < b.1)) : (insertEntry k v l).Pairwise (fun a b => a.1 < b.1) := by
  induction l with
  | nil => simp [insertEntry]
  | cons q l ih =>
    obtain ⟨hq, hl⟩ := List.pairwise_cons.1 h
    simp only [insertEntry]
    split
    next hlt =>
      refine List.pairwise_cons.2 ⟨?_, h⟩
      intro p hp
      rcases List.mem_cons.1 hp with rfl | hp
      · exact hlt
      · exact String.lt_trans hlt (hq p hp)
    next hlt =>
      split
      next heq => exact List.pairwise_cons.2 ⟨fun p hp => heq ▸ hq p hp, hl⟩
      next hne =>
        refine List.pairwise_cons.2 ⟨?_, ih hl⟩
        intro p hp
        rcases mem_insertEntry hp with rfl | hp
        · exact Std.lt_of_le_of_ne (String.not_lt.1 hlt) (Ne.symm hne)
        · exact hq p hp

def insert (m : StringMap) (k v : String) : StringMap :=
  ⟨insertEntry k v m.entries, sorted_insertEntry m.sorted⟩

/-- Of two bindings of one key the later one counts. -/
def ofList (kvs : List (String × String)) : StringMap :=
  kvs.foldl (fun m (k, v) => m.insert k v) empty

theorem find?_insertEntry_self (k v : String) (l : List (String × String)) :
    (insertEntry k v l).find? (·.1 == k) = some (k, v) := by
  induction l with
  | nil => simp [insertEntry]
  | cons q l ih =>
    simp only [insertEntry]
    split
    · simp
    · split
      · simp
      next hne => simp [Ne.symm hne, ih]

theorem get?_insert_self (m : StringMap) (k v : String) : (m.insert k v).get? k = some v := by
  simp [get?, insert, find?_insertEntry_self]

theorem contains_eq (m : StringMap) (k : String) : m.contains k = (m.get? k).isSome := by
  rw [contains, get?, Option.isSome_map, Bool.eq_iff_iff, List.find?_isSome, List.any_eq_true]

theorem isEmpty_iff {m : StringMap} : m.isEmpty = true ↔ m = ∅ := by
  rw [isEmpty, List.isEmpty_iff]
  exact ⟨fun h => ext h, fun h => h ▸ rfl⟩

theorem find?_of_mem {p : String × String} {l : List (String × String)}
    (h : l.Pairwise (fun a b => a.1 < b.1)) (hp : p ∈ l) : l.find? (·.1 == p.1) = some p := by
  induction l with
  | nil => simp at hp
  | cons q l ih =>
    obtain ⟨hq, hl⟩ := List.pairwise_cons.1 h
    rcases List.mem_cons.1 hp with rfl | hp
    · simp
    · have hne : (q.1 == p.1) = false := beq_false_of_ne fun heq =>
        String.lt_irrefl p.1 (heq ▸ hq p hp)
      rw [List.find?_cons, hne]
      exact ih hl hp

theorem get?_eq_some_iff {m : StringMap} {k v : String} :
    m.get? k = some v ↔ (k, v) ∈ m.entries := by
  constructor
  · intro h
    obtain ⟨⟨k', v'⟩, hfind, rfl⟩ := Option.map_eq_some_iff.1 h
    have hk : k' = k := by simpa using List.find?_some hfind
    exact hk ▸ List.mem_of_find?_eq_some hfind
  · intro h
    rw [get?, find?_of_mem m.sorted h, Option.map_some]

end StringMap

end ClusterAudit
