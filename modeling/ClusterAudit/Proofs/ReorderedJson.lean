/-
Reading records out of JSON whose fields may come in any order.

An object says the same whatever order its fields are in, as long as no name is there
twice. `Restores` is what a reader has to do: yield one value for all the orders
(`Reordered`) that a piece of JSON can be put in, also further down. The lemmas on `Holds`
say so of the single fields of a record, for each of the ways in which they are asked for.
-/
import Mathlib.Data.List.Nodup
import ClusterAudit.Json
import ClusterAudit.Proofs.Correspondence

namespace ClusterAudit

namespace StringMap

theorem perm_insertEntry {k v : String} {l : List (String × String)} (h : k ∉ l.map (·.1)) :
    (insertEntry k v l).Perm ((k, v) :: l) := by
  induction l with
  | nil => exact .refl _
  | cons p l ih =>
    obtain ⟨k', v'⟩ := p
    simp only [List.map_cons, List.mem_cons, not_or] at h
    simp only [insertEntry, h.1, if_false]
    split
    · exact .refl _
    · exact ((ih h.2).cons _).trans (.swap _ _ _)

theorem perm_entries_foldl_insert (m : StringMap) (kvs : List (String × String))
    (h : ((m.entries ++ kvs).map (·.1)).Nodup) :
    (kvs.foldl (fun m (k, v) => m.insert k v) m).entries.Perm (m.entries ++ kvs) := by
  induction kvs generalizing m with
  | nil => simp
  | cons p kvs ih =>
    obtain ⟨k, v⟩ := p
    have hk : k ∉ m.entries.map (·.1) := by
      rw [List.map_append, List.nodup_append] at h
      exact fun hk => h.2.2 k hk k (by simp) rfl
    have hinsert : ((m.insert k v).entries ++ kvs).Perm (m.entries ++ (k, v) :: kvs) :=
      ((perm_insertEntry hk).append_right kvs).trans List.perm_middle.symm
    exact (ih _ ((hinsert.map _).nodup_iff.2 h)).trans hinsert

/-- A map is made anew from its own entries, whatever order they come in. -/
theorem ofList_of_perm {m : StringMap} {kvs : List (String × String)} (h : kvs.Perm m.entries) :
    ofList kvs = m := by
  have hkeys : (m.entries.map (·.1)).Nodup := by
    refine List.pairwise_map.2 (m.sorted.imp fun {a b} hlt heq => ?_)
    rw [heq] at hlt
    exact String.lt_irrefl b.1 hlt
  have hperm : (ofList kvs).entries.Perm m.entries :=
    (perm_entries_foldl_insert empty kvs ((h.map _).nodup_iff.2 hkeys)).trans h
  exact ext (hperm.eq_of_pairwise (fun _ _ _ _ hab hba => absurd hba (String.lt_asymm hab))
    (ofList kvs).sorted m.sorted)

end StringMap

namespace Json

/-- The same JSON but for the order in which the fields of its objects come. -/
inductive Reordered : Json → Json → Prop where
  | same (j : Json) : Reordered j j
  | arr {items items' : List Json} :
      List.Forall₂ Reordered items items' → Reordered (.arr items) (.arr items')
  /-- The values may differ like this themselves. -/
  | obj {fields fields' fields'' : List (String × Json)} :
      fields.map (·.1) = fields'.map (·.1) →
      List.Forall₂ Reordered (fields.map (·.2)) (fields'.map (·.2)) →
      fields'.Perm fields'' → Reordered (.obj fields) (.obj fields'')

theorem reordered_str_iff {s : String} {j : Json} : Reordered (.str s) j ↔ j = .str s := by
  constructor
  · rintro ⟨⟩
    rfl
  · rintro rfl
    exact .same _

theorem reordered_bool_iff {b : Bool} {j : Json} : Reordered (.bool b) j ↔ j = .bool b := by
  constructor
  · rintro ⟨⟩
    rfl
  · rintro rfl
    exact .same _

/-- `read` yields `a` from `j`, whatever order the fields are put in. -/
def Restores {α : Type} (read : Json → Option α) (j : Json) (a : α) : Prop :=
  ∀ j', Reordered j j' → read j' = some a

section Restores

variable {α : Type} {read : Json → Option α} {j : Json} {a : α}

theorem Restores.eq (h : Restores read j a) : read j = some a := h j (.same j)

theorem restores_str {s : String} (h : read (.str s) = some a) : Restores read (.str s) a := by
  intro j' hj
  rwa [reordered_str_iff.1 hj]

theorem restores_bool (b : Bool) : Restores bool? (.bool b) b := by
  intro j' hj
  rw [reordered_bool_iff.1 hj]
  rfl

theorem Reordered.exists_items {items : List Json} (h : Reordered (.arr items) j) :
    ∃ items', j = .arr items' ∧ List.Forall₂ Reordered items items' := by
  cases h with
  | same => exact ⟨items, rfl, List.forall₂_same.2 fun j _ => .same j⟩
  | arr hitems => exact ⟨_, rfl, hitems⟩

/-- In one order or another there are the same names, and the same values but for the order
of theirs. -/
theorem Reordered.exists_fields {fields : List (String × Json)} (h : Reordered (.obj fields) j) :
    ∃ fields' fields'' : List (String × Json), j = .obj fields'' ∧
      List.Forall₂ (fun f f' => f.1 = f'.1 ∧ Reordered f.2 f'.2) fields fields' ∧
      fields'.Perm fields'' := by
  cases h with
  | same => exact ⟨fields, fields, rfl, List.forall₂_same.2 fun f _ => ⟨rfl, .same f.2⟩, .refl _⟩
  | @obj _ fields' fields'' hnames hvalues hperm =>
    refine ⟨fields', fields'', rfl, ?_, hperm⟩
    rw [← List.forall₂_eq_eq_eq, List.forall₂_map_left_iff, List.forall₂_map_right_iff] at hnames
    rw [List.forall₂_map_left_iff, List.forall₂_map_right_iff] at hvalues
    exact hnames.mp (fun _ _ => And.intro) hvalues

theorem restores_list {write : α → Json} (h : ∀ a, Restores read (write a) a) (as : List α) :
    Restores (list? read) (.arr (as.map write)) as := by
  intro j' hj
  obtain ⟨items, rfl, hitems⟩ := hj.exists_items
  rw [List.forall₂_map_left_iff] at hitems
  exact mapM_eq_some_of_forall₂ (hitems.imp h)

theorem restores_stringMap (m : StringMap) :
    Restores stringMap? (.obj (m.entries.map fun (k, v) => (k, .str v))) m := by
  intro j' hj
  obtain ⟨fields, fields', rfl, hfields, hperm⟩ := hj.exists_fields
  -- The strings themselves have no fields to reorder.
  have hsame : m.entries.map (fun (k, v) => (k, Json.str v)) = fields := by
    rw [← List.forall₂_eq_eq_eq]
    rw [List.forall₂_map_left_iff] at hfields ⊢
    exact hfields.imp fun _ f hf => Prod.ext hf.1 (reordered_str_iff.1 hf.2).symm
  let entry (f : String × Json) : String × String := (f.1, f.2.string?.getD "")
  have hread : ∀ f ∈ fields', (string? f.2).map (f.1, ·) = some (entry f) := by
    intro f hf
    rw [← hperm.mem_iff, ← hsame] at hf
    obtain ⟨p, _, rfl⟩ := List.mem_map.1 hf
    rfl
  have hentries : (fields'.map entry).Perm m.entries := by
    have hmap : fields.map entry = m.entries := by
      rw [← hsame, List.map_map]
      exact List.map_id _
    exact hmap ▸ (hperm.map entry).symm
  have hmapM : fields'.mapM (fun f => (string? f.2).map (f.1, ·)) = some (fields'.map entry) :=
    mapM_eq_some_of_forall₂ (List.forall₂_map_left_iff.2 (List.forall₂_same.2 hread))
  rw [stringMap?, hmapM, Option.map_some, StringMap.ofList_of_perm hentries]

end Restores

/-! ## Fields -/

theorem field?_eq_some_iff {fields : List (String × Json)} {name : String} {j : Json}
    (hn : (fields.map (·.1)).Nodup) : field? fields name = some j ↔ (name, j) ∈ fields := by
  constructor
  · intro h
    obtain ⟨⟨name', j'⟩, hfind, rfl⟩ := Option.map_eq_some_iff.1 h
    have hname : name' = name := by simpa using List.find?_some hfind
    exact hname ▸ List.mem_of_find?_eq_some hfind
  · intro h
    have hsome : (fields.find? (·.1 == name)).isSome = true := List.find?_isSome.2 ⟨_, h, by simp⟩
    obtain ⟨f, hf⟩ := Option.isSome_iff_exists.1 hsome
    have hname : f.1 = name := by simpa using List.find?_some hf
    obtain rfl : f = (name, j) := List.inj_on_of_nodup_map hn (List.mem_of_find?_eq_some hf) h hname
    rw [field?, hf, Option.map_some]

theorem field?_eq_none_iff {fields : List (String × Json)} {name : String} :
    field? fields name = none ↔ name ∉ fields.map (·.1) := by
  rw [field?, Option.map_eq_none_iff, List.find?_eq_none, List.mem_map]
  constructor
  · rintro h ⟨f, hf, rfl⟩
    exact h f hf (beq_self_eq_true f.1)
  · exact fun h f hf hname => h ⟨f, hf, eq_of_beq hname⟩

theorem field?_of_perm {fields fields' : List (String × Json)} (h : fields.Perm fields')
    (hn : (fields.map (·.1)).Nodup) (name : String) : field? fields' name = field? fields name := by
  have hn' : (fields'.map (·.1)).Nodup := (h.map _).nodup_iff.1 hn
  refine Option.ext fun j => ?_
  rw [field?_eq_some_iff hn, field?_eq_some_iff hn', h.mem_iff]

theorem field?_of_forall₂ {fields fields' : List (String × Json)}
    (h : List.Forall₂ (fun f f' => f.1 = f'.1 ∧ Reordered f.2 f'.2) fields fields')
    (name : String) : Option.Rel Reordered (field? fields name) (field? fields' name) := by
  induction h with
  | nil => exact .none
  | @cons f f' fields fields' hf _ ih =>
    simp only [field?, List.find?_cons, ← hf.1] at ih ⊢
    cases f.1 == name with
    | true => exact .some hf.2
    | false => exact ih

/-- Of fields of different names, all those with one name are the first of them. -/
theorem fieldValues_eq {fields : List (String × Json)} (hn : (fields.map (·.1)).Nodup)
    (name : String) : fieldValues fields name = (field? fields name).toList := by
  induction fields with
  | nil => rfl
  | cons f fields ih =>
    obtain ⟨hfirst, hrest⟩ := List.nodup_cons.1 hn
    rw [fieldValues, List.filterMap_cons, ← fieldValues, ih hrest]
    by_cases hname : f.1 = name
    · rw [← hname, field?_eq_none_iff.2 hfirst]
      simp [field?]
    · simp [field?, hname]

/-- In some order, `fields'` has the fields of `fields`, each once. The values may be reordered. -/
structure Holds (fields fields' : List (String × Json)) : Prop where
  nodup : (fields'.map (·.1)).Nodup
  field? : ∀ name, Option.Rel Reordered (field? fields name) (field? fields' name)

theorem Reordered.exists_holds {fields : List (String × Json)} {j : Json}
    (h : Reordered (.obj fields) j) (hn : (fields.map (·.1)).Nodup) :
    ∃ fields', j = .obj fields' ∧ Holds fields fields' := by
  obtain ⟨fields₁, fields', rfl, hfields, hperm⟩ := h.exists_fields
  have hnames : fields.map (·.1) = fields₁.map (·.1) := by
    rw [← List.forall₂_eq_eq_eq, List.forall₂_map_left_iff, List.forall₂_map_right_iff]
    exact hfields.imp fun _ _ hf => hf.1
  have hn₁ : (fields₁.map (·.1)).Nodup := hnames ▸ hn
  refine ⟨fields', rfl, (hperm.map _).nodup_iff.1 hn₁, fun name => ?_⟩
  rw [field?_of_perm hperm hn₁]
  exact field?_of_forall₂ hfields name

namespace Holds

variable {α : Type} {fields fields' : List (String × Json)} {read : Json → Option α}
  {name : String} {j : Json} {a default : α}

theorem exists_field? (h : Holds fields fields') (hf : Json.field? fields name = some j) :
    ∃ j', Json.field? fields' name = some j' ∧ Reordered j j' := by
  have hrel := h.field? name
  rw [hf] at hrel
  cases hj : Json.field? fields' name with
  | none => rw [hj] at hrel; cases hrel
  | some j' => rw [hj] at hrel; cases hrel with | some hj' => exact ⟨j', rfl, hj'⟩

theorem field?_eq_none (h : Holds fields fields') (hf : Json.field? fields name = none) :
    Json.field? fields' name = none := by
  have hrel := h.field? name
  rw [hf] at hrel
  cases hj : Json.field? fields' name with
  | none => rfl
  | some j' => rw [hj] at hrel; cases hrel

theorem record?_eq (h : Holds fields fields') (names : List String) (least : Nat) :
    record? names least (.obj fields') = some fields' := by
  have hsingle : areSingle names fields' = true := by
    refine List.all_eq_true.2 fun name _ => decide_eq_true ?_
    rw [fieldValues_eq h.nodup]
    exact Option.length_toList_le
  rw [record?, if_pos hsingle]

theorem required (h : Holds fields fields') (hf : Json.field? fields name = some j)
    (hr : Restores read j a) : Fields.required fields' read name = some a := by
  obtain ⟨j', hj', hreordered⟩ := h.exists_field? hf
  rw [Fields.required, hj']
  exact hr j' hreordered

/-- What is left out stands for the default, and is only left out where it is the default. -/
theorem presentOr (h : Holds fields fields') {leftOut : Bool}
    (hf : Json.field? fields name = if leftOut then none else some j)
    (hdefault : leftOut = true → a = default) (hr : Restores read j a) :
    Fields.presentOr fields' read default name = some a := by
  cases leftOut with
  | true => rw [Fields.presentOr, h.field?_eq_none hf, hdefault rfl]
  | false =>
    obtain ⟨j', hj', hreordered⟩ := h.exists_field? hf
    rw [Fields.presentOr, hj']
    exact hr j' hreordered

theorem optional_of_none (h : Holds fields fields') (hf : Json.field? fields name = none) :
    Fields.optional fields' read name = some none := by
  rw [Fields.optional, fieldValues_eq h.nodup, h.field?_eq_none hf]
  rfl

theorem optional_of_some (h : Holds fields fields') (hf : Json.field? fields name = some j)
    (hr : Restores read j a) (hnull : read .null = none) :
    Fields.optional fields' read name = some (some a) := by
  obtain ⟨j', hj', hreordered⟩ := h.exists_field? hf
  have hread : read j' = some a := hr j' hreordered
  have hne : j' ≠ .null := by
    rintro rfl
    exact absurd (hnull.symm.trans hread) nofun
  have hnullable : Fields.nullable read j' = some (some a) := by
    rw [Fields.nullable, hread, Option.map_some]
    exact hne
  rw [Fields.optional, fieldValues_eq h.nodup, hj', Option.toList_some, List.mapM_cons, hnullable]
  rfl

theorem optional (h : Holds fields fields') {write : α → Json} {o : Option α}
    (hf : Json.field? fields name = o.map write) (hr : ∀ a, Restores read (write a) a)
    (hnull : read .null = none) : Fields.optional fields' read name = some o := by
  cases o with
  | none => exact h.optional_of_none hf
  | some a => exact h.optional_of_some hf (hr a) hnull

theorem defaulted (h : Holds fields fields') (hf : Json.field? fields name = some j)
    (hr : Restores read j a) (hnull : read .null = none) :
    Fields.defaulted fields' read default name = some a := by
  rw [Fields.defaulted, h.optional_of_some hf hr hnull]
  rfl

end Holds

end Json

end ClusterAudit
