/-
What labels a selector takes, said without computing, and the laws that follow.

A selector asks for pairs of labels (`StringMap.Within`) and for what its expressions mean
one by one (`LabelRequirement.MetBy`), and it takes the labels that have it all
(`selects_iff`). So the order of the expressions does not matter, pairs can as well be
written as expressions, and the plain maps of services differ from selectors in nothing but
the empty one.
-/
import ClusterAudit.LabelSelector

namespace ClusterAudit

/-! ## Maps within maps -/

namespace StringMap

variable {m m' : StringMap}

/-- Every pair of `m` is one of `m'`. -/
def Within (m m' : StringMap) : Prop := ∀ k v : String, m.get? k = some v → m'.get? k = some v

theorem allIn_iff : m.allIn m' = true ↔ m.Within m' := by
  simp only [allIn, List.all_eq_true, beq_iff_eq, Prod.forall, ← get?_eq_some_iff]
  rfl

instance : Decidable (m.Within m') := decidable_of_iff _ allIn_iff

theorem Within.refl (m : StringMap) : m.Within m := fun _ _ hk => hk

theorem Within.trans {m'' : StringMap} (h : m.Within m') (h' : m'.Within m'') : m.Within m'' :=
  fun k v hk => h' k v (h k v hk)

theorem within_empty_iff : m.Within ∅ ↔ m = ∅ := by
  constructor
  · intro h
    refine ext (List.eq_nil_iff_forall_not_mem.2 fun p hp => ?_)
    exact nomatch h p.1 p.2 (get?_eq_some_iff.2 hp)
  · rintro rfl
    exact .refl ∅

theorem selects_iff : m.selects m' = true ↔ m ≠ ∅ ∧ m.Within m' := by
  rw [selects, Bool.and_eq_true, Bool.not_eq_true', ← Bool.not_eq_true, isEmpty_iff, allIn_iff]

end StringMap

/-! ## Requirements -/

namespace LabelRequirement

/-- What the operators mean. -/
inductive MetBy (labels : StringMap) : LabelRequirement → Prop where
  | among {key value : String} {values : List String} (h : labels.get? key = some value)
      (hv : value ∈ values) : MetBy labels ⟨key, .isIn, values⟩
  | other {key value : String} {values : List String} (h : labels.get? key = some value)
      (hv : value ∉ values) : MetBy labels ⟨key, .notIn, values⟩
  | without {key : String} {values : List String} (h : labels.get? key = none) :
      MetBy labels ⟨key, .notIn, values⟩
  | present {key value : String} {values : List String} (h : labels.get? key = some value) :
      MetBy labels ⟨key, .present, values⟩
  | absent {key : String} {values : List String} (h : labels.get? key = none) :
      MetBy labels ⟨key, .absent, values⟩

variable {labels : StringMap} {r : LabelRequirement} {key operator : String} {values : List String}

theorem metBy_iff : r.MetBy labels ↔ r.holds labels = true := by
  constructor
  · intro h
    cases h with
    | among h hv | other h hv => simpa [holds, h] using hv
    | without h | present h | absent h => simp [holds, h]
  · obtain ⟨key, operator, values⟩ := r
    intro h
    cases hkey : labels.get? key with
    | none =>
      cases operator with
      | notIn => exact .without hkey
      | absent => exact .absent hkey
      | _ => simp [holds, hkey] at h
    | some value =>
      cases operator with
      | isIn => exact .among hkey (by simpa [holds, hkey] using h)
      | notIn => exact .other hkey (by simpa [holds, hkey] using h)
      | present => exact .present hkey
      | _ => simp [holds, hkey] at h

instance : Decidable (r.MetBy labels) := decidable_of_iff _ metBy_iff.symm

/-- The requirement as it is written, with the name of its operator. -/
def named (key operator : String) (values : List String) : LabelRequirement :=
  ⟨key, .ofName operator, values⟩

theorem metBy_in_iff :
    (named key "In" values).MetBy labels ↔ ∃ value, labels.get? key = some value ∧ value ∈ values :=
  ⟨fun | .among h hv => ⟨_, h, hv⟩, fun ⟨_, h, hv⟩ => .among h hv⟩

theorem metBy_exists_iff :
    (named key "Exists" values).MetBy labels ↔ ∃ value, labels.get? key = some value :=
  ⟨fun | .present h => ⟨_, h⟩, fun ⟨_, h⟩ => .present h⟩

theorem metBy_doesNotExist_iff :
    (named key "DoesNotExist" values).MetBy labels ↔ labels.get? key = none :=
  ⟨fun | .absent h => h, .absent⟩

/-- A missing label is outside of every list. -/
theorem metBy_notIn_iff :
    (named key "NotIn" values).MetBy labels ↔ ∀ value, labels.get? key = some value → value ∉ values := by
  constructor
  · intro h value hvalue
    cases h with
    | other h hv => exact Option.some_inj.1 (h.symm.trans hvalue) ▸ hv
    | without h => simp [h] at hvalue
  · intro h
    cases hkey : labels.get? key with
    | none => exact .without hkey
    | some value => exact .other hkey (h value hkey)

/-- An operator that is none of the four. -/
theorem not_metBy_of_notMem (h : operator ∉ ["In", "NotIn", "Exists", "DoesNotExist"]) :
    ¬ (named key operator values).MetBy labels := by
  have hunknown : LabelOperator.ofName operator = .unknown operator := by
    simp only [List.mem_cons, List.not_mem_nil, or_false, not_or] at h
    obtain ⟨hin, hnotIn, hexists, habsent⟩ := h
    simp only [LabelOperator.ofName, hin, hnotIn, hexists, habsent, if_false]
  rw [named, hunknown]
  exact nofun

/-- Objects without labels meet what asks for the absence of some, and nothing else. -/
theorem metBy_empty_iff : r.MetBy ∅ ↔ r.operator = .notIn ∨ r.operator = .absent := by
  constructor
  · intro h
    cases h with
    | among h | other h | present h => exact absurd h nofun
    | without => exact .inl rfl
    | absent => exact .inr rfl
  · obtain ⟨key, operator, values⟩ := r
    rintro (rfl | rfl)
    · exact .without rfl
    · exact .absent rfl

end LabelRequirement

/-! ## Selectors -/

namespace LabelSelector

open LabelRequirement (named)

variable {s : LabelSelector} {labels : StringMap} {rs rs' : List LabelRequirement}

theorem selects_iff :
    s.selects labels = true ↔
      s.matchLabels.Within labels ∧ ∀ r ∈ s.matchExpressions, r.MetBy labels := by
  simp only [selects, Bool.and_eq_true, StringMap.allIn_iff, List.all_eq_true,
    LabelRequirement.metBy_iff]

/-- The selector that has only these expressions. -/
def demanding (rs : List LabelRequirement) : LabelSelector := { matchExpressions := rs }

theorem selects_demanding_iff :
    (demanding rs).selects labels = true ↔ ∀ r ∈ rs, r.MetBy labels := by
  rw [selects_iff]
  exact and_iff_right fun _ _ h => nomatch h

theorem selects_demanding_singleton {r : LabelRequirement} :
    (demanding [r]).selects labels = true ↔ r.MetBy labels := by
  simp [selects_demanding_iff]

theorem selects_of_labels {m : StringMap} :
    selects { matchLabels := m } labels = true ↔ m.Within labels := by
  simp [selects_iff]

/-- The pairs of a selector, written as expressions beside the others. -/
theorem selects_spelledOut
    (h : ∀ r, r ∈ rs ↔ r ∈ s.matchExpressions ∨
      ∃ k v, s.matchLabels.get? k = some v ∧ r = named k "In" [v]) :
    (demanding rs).selects labels = s.selects labels := by
  rw [Bool.eq_iff_iff, selects_demanding_iff, selects_iff]
  simp only [h]
  constructor
  · intro hmet
    refine ⟨fun k v hk => ?_, fun r hr => hmet r (.inl hr)⟩
    obtain ⟨v', hv', hmem⟩ := LabelRequirement.metBy_in_iff.1 (hmet _ (.inr ⟨k, v, hk, rfl⟩))
    rw [hv', List.mem_singleton.1 hmem]
  · rintro ⟨hlabels, hmet⟩ r (hr | ⟨k, v, hk, rfl⟩)
    · exact hmet r hr
    · exact LabelRequirement.metBy_in_iff.2 ⟨v, hlabels k v hk, List.mem_singleton_self v⟩

theorem selects_collected {both : List LabelRequirement} (h : ∀ r, r ∈ both ↔ r ∈ rs ∨ r ∈ rs') :
    (demanding both).selects labels =
      ((demanding rs).selects labels && (demanding rs').selects labels) := by
  rw [Bool.eq_iff_iff, Bool.and_eq_true]
  simp only [selects_demanding_iff, h, or_imp, forall_and]

/-- Two expressions of which just one is met. -/
theorem selects_opposite {r r' : LabelRequirement} (h : r.MetBy labels ↔ ¬ r'.MetBy labels) :
    (demanding [r]).selects labels = !(demanding [r']).selects labels := by
  rw [Bool.eq_iff_iff, Bool.not_eq_true', ← Bool.not_eq_true, selects_demanding_singleton,
    selects_demanding_singleton, h]

theorem selects_notIn (key : String) (values : List String) :
    (demanding [named key "NotIn" values]).selects labels =
      !(demanding [named key "In" values]).selects labels := by
  apply selects_opposite
  rw [LabelRequirement.metBy_notIn_iff, LabelRequirement.metBy_in_iff]
  simp only [not_exists, not_and]

theorem selects_doesNotExist (key : String) (values values' : List String) :
    (demanding [named key "DoesNotExist" values]).selects labels =
      !(demanding [named key "Exists" values']).selects labels := by
  apply selects_opposite
  rw [LabelRequirement.metBy_doesNotExist_iff, LabelRequirement.metBy_exists_iff, not_exists]
  exact Option.eq_none_iff_forall_ne_some

theorem selects_exists_notIn (key : String) (values values' : List String) :
    (demanding [named key "Exists" values', named key "NotIn" values]).selects labels = true ↔
      ∃ value, labels.get? key = some value ∧ value ∉ values := by
  simp only [selects_demanding_iff, List.forall_mem_cons, List.not_mem_nil, false_imp_iff,
    implies_true, and_true, LabelRequirement.metBy_exists_iff, LabelRequirement.metBy_notIn_iff]
  constructor
  · rintro ⟨⟨value, hvalue⟩, hnot⟩
    exact ⟨value, hvalue, hnot value hvalue⟩
  · rintro ⟨value, hvalue, hnot⟩
    exact ⟨⟨value, hvalue⟩, fun value' h => Option.some_inj.1 (hvalue.symm.trans h) ▸ hnot⟩

theorem selects_of_unknown {operator key : String} {values : List String}
    (h : operator ∉ ["In", "NotIn", "Exists", "DoesNotExist"])
    (hmem : named key operator values ∈ s.matchExpressions) : s.selects labels = false := by
  rw [← Bool.not_eq_true, selects_iff]
  exact fun hs => LabelRequirement.not_metBy_of_notMem h (hs.2 _ hmem)

/-- **The algebra of label selectors.** A pair is as good as an expression with one value.
Expressions are a conjunction, whatever their order and however often they are repeated. The
four operators are two opposites each, and any other takes nothing. A plain map takes what
the selector with its pairs takes, unless it is empty. -/
theorem selector_algebra (labels : StringMap) :
    (∀ (s : LabelSelector) (rs : List LabelRequirement),
      (∀ r, r ∈ rs ↔ r ∈ s.matchExpressions ∨
        ∃ k v, s.matchLabels.get? k = some v ∧ r = named k "In" [v]) →
      (demanding rs).selects labels = s.selects labels) ∧
    (∀ rs rs' both : List LabelRequirement, (∀ r, r ∈ both ↔ r ∈ rs ∨ r ∈ rs') →
      (demanding both).selects labels =
        ((demanding rs).selects labels && (demanding rs').selects labels)) ∧
    (∀ (key : String) (values values' : List String),
      (demanding [named key "NotIn" values]).selects labels =
        !(demanding [named key "In" values]).selects labels ∧
      (demanding [named key "DoesNotExist" values]).selects labels =
        !(demanding [named key "Exists" values']).selects labels ∧
      ((demanding [named key "Exists" values', named key "NotIn" values]).selects labels = true ↔
        ∃ value, labels.get? key = some value ∧ value ∉ values)) ∧
    (∀ (s : LabelSelector) (operator key : String) (values : List String),
      operator ∉ ["In", "NotIn", "Exists", "DoesNotExist"] →
      named key operator values ∈ s.matchExpressions → s.selects labels = false) ∧
    ∀ m : StringMap,
      (m.selects labels = true ↔ m ≠ ∅ ∧ selects { matchLabels := m } labels = true) ∧
      (selects { matchLabels := m } labels = true ↔ m.Within labels) := by
  refine ⟨?_, ?_, ?_, ?_, ?_⟩
  · intro s rs h
    exact selects_spelledOut h
  · intro rs rs' both h
    exact selects_collected h
  · intro key values values'
    exact ⟨selects_notIn key values, selects_doesNotExist key values values',
      selects_exists_notIn key values values'⟩
  · intro s operator key values h hmem
    exact selects_of_unknown h hmem
  · intro m
    exact ⟨by rw [StringMap.selects_iff, selects_of_labels], selects_of_labels⟩

/-- One pair, and two expressions besides. -/
def storefront : LabelSelector where
  matchLabels := .ofList [("app", "shop")]
  matchExpressions := [named "tier" "In" ["edge", "front"], named "canary" "DoesNotExist" []]

/-- The same, with nothing but expressions, one of them twice. -/
def spelled : List LabelRequirement :=
  [named "canary" "DoesNotExist" [], named "app" "In" ["shop"], named "tier" "In" ["edge", "front"],
   named "canary" "DoesNotExist" []]

theorem mem_spelled_iff (r : LabelRequirement) :
    r ∈ spelled ↔ r ∈ storefront.matchExpressions ∨ r ∈ [named "app" "In" ["shop"]] := by
  simp only [spelled, storefront, List.mem_cons, List.not_mem_nil, or_false]
  grind

theorem mem_spelled_iff_pair (r : LabelRequirement) :
    r ∈ spelled ↔ r ∈ storefront.matchExpressions ∨
      ∃ k v, storefront.matchLabels.get? k = some v ∧ r = named k "In" [v] := by
  have hentries : storefront.matchLabels.entries = [("app", "shop")] := by decide
  simp only [mem_spelled_iff, StringMap.get?_eq_some_iff, hentries, List.mem_singleton,
    Prod.mk.injEq, and_assoc, exists_and_left, exists_eq_left]

theorem selector_algebra_storefront :
    (∀ r, r ∈ spelled ↔ r ∈ storefront.matchExpressions ∨
      ∃ k v, storefront.matchLabels.get? k = some v ∧ r = named k "In" [v]) ∧
    (∀ r, r ∈ spelled ↔ r ∈ storefront.matchExpressions ∨ r ∈ [named "app" "In" ["shop"]]) ∧
    "Gt" ∉ ["In", "NotIn", "Exists", "DoesNotExist"] ∧
    (demanding spelled).selects (.ofList [("app", "shop"), ("tier", "edge")]) =
      storefront.selects (.ofList [("app", "shop"), ("tier", "edge")]) ∧
    storefront.selects (.ofList [("app", "shop"), ("tier", "edge")]) = true ∧
    (demanding spelled).selects (.ofList [("tier", "edge")]) =
      ((demanding storefront.matchExpressions).selects (.ofList [("tier", "edge")]) &&
        (demanding [named "app" "In" ["shop"]]).selects (.ofList [("tier", "edge")])) ∧
    (demanding [named "tier" "Gt" ["1"]]).selects (.ofList [("tier", "2")]) = false := by
  have hgt : "Gt" ∉ ["In", "NotIn", "Exists", "DoesNotExist"] := by decide
  refine ⟨mem_spelled_iff_pair, mem_spelled_iff, hgt, ?_, by decide, ?_, ?_⟩
  · exact (selector_algebra _).1 storefront spelled mem_spelled_iff_pair
  · exact (selector_algebra _).2.1 _ _ spelled mem_spelled_iff
  · exact (selector_algebra _).2.2.2.1 (demanding [named "tier" "Gt" ["1"]]) "Gt" "tier" ["1"] hgt
      (List.mem_singleton_self _)

end LabelSelector

end ClusterAudit
