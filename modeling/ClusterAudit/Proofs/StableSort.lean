/-
Stable sorting by a key. Which list comes out hangs on nothing but the order in
which the elements of each single key come in (`mergeSort_eq_mergeSort_iff`). So it does
not matter whether elements are left out before or after (`mergeSort_filter`), nor in which
order elements come that have different keys (`mergeSort_eq_of_perm`).
-/
import Mathlib.Data.List.Nodup
import Mathlib.Order.Lattice

namespace ClusterAudit.StableSort

variable {α κ : Type} [LinearOrder κ] (key : α → κ)

/-- The order by key, as sorting takes it. -/
def byKey (a b : α) : Bool := decide (key a ≤ key b)

/-- The elements of the key `k`, in the order they come in. -/
def ofKey (k : κ) (l : List α) : List α := l.filter fun a => decide (key a = k)

variable {key}

theorem mem_ofKey {k : κ} {l : List α} {a : α} : a ∈ ofKey key k l ↔ a ∈ l ∧ key a = k := by
  simp [ofKey]

theorem ofKey_cons (k : κ) (a : α) (l : List α) :
    ofKey key k (a :: l) = if key a = k then a :: ofKey key k l else ofKey key k l := by
  by_cases h : key a = k <;> simp [ofKey, h]

theorem byKey_trans (a b c : α) (hab : byKey key a b = true) (hbc : byKey key b c = true) :
    byKey key a c = true := by
  simp only [byKey, decide_eq_true_eq] at *
  exact le_trans hab hbc

theorem byKey_total (a b : α) : (byKey key a b || byKey key b a) = true := by
  simpa [byKey] using le_total (key a) (key b)

theorem pairwise_mergeSort (l : List α) :
    (l.mergeSort (byKey key)).Pairwise fun a b => key a ≤ key b := by
  have h : (l.mergeSort (byKey key)).Pairwise fun a b => byKey key a b = true :=
    List.pairwise_mergeSort byKey_trans byKey_total l
  simpa [byKey] using h

/-- Elements of one key keep their order. -/
theorem ofKey_mergeSort (k : κ) (l : List α) :
    ofKey key k (l.mergeSort (byKey key)) = ofKey key k l := by
  have hsorted : (ofKey key k l).Pairwise fun a b => byKey key a b = true := by
    rw [ofKey, List.pairwise_filter]
    refine List.pairwise_of_forall fun a b ha hb => ?_
    rw [decide_eq_true_eq] at ha hb
    simp [byKey, ha, hb]
  have hsub : (ofKey key k l).Sublist (l.mergeSort (byKey key)) :=
    List.sublist_mergeSort byKey_trans byKey_total hsorted List.filter_sublist
  have hsub' : (ofKey key k l).Sublist (ofKey key k (l.mergeSort (byKey key))) := by
    simpa [ofKey] using hsub.filter fun a => decide (key a = k)
  have hlen : (ofKey key k (l.mergeSort (byKey key))).length = (ofKey key k l).length :=
    ((List.mergeSort_perm l _).filter _).length_eq
  exact (hsub'.eq_of_length hlen.symm).symm

theorem eq_nil_of_ofKey {l : List α} (h : ∀ k, ofKey key k l = []) : l = [] := by
  cases l with
  | nil => rfl
  | cons a l => simpa [ofKey_cons] using h (key a)

/-- The first of a sorted list has the least of all keys. -/
theorem key_head_le {a b : α} {l l' : List α} (h : (a :: l).Pairwise fun a b => key a ≤ key b)
    (hk : ∀ k, ofKey key k (a :: l) = ofKey key k (b :: l')) : key a ≤ key b := by
  have hb : b ∈ ofKey key (key b) (a :: l) := by
    rw [hk]
    exact mem_ofKey.2 ⟨List.mem_cons_self, rfl⟩
  rcases List.mem_cons.1 (mem_ofKey.1 hb).1 with rfl | hb
  · exact le_refl _
  · exact (List.pairwise_cons.1 h).1 b hb

/-- Two sorted lists that agree key by key are equal. -/
theorem eq_of_pairwise_of_ofKey {l l' : List α} (h : l.Pairwise fun a b => key a ≤ key b)
    (h' : l'.Pairwise fun a b => key a ≤ key b) (hk : ∀ k, ofKey key k l = ofKey key k l') :
    l = l' := by
  induction l generalizing l' with
  | nil => exact (eq_nil_of_ofKey fun k => (hk k).symm).symm
  | cons a l ih =>
    cases l' with
    | nil => exact eq_nil_of_ofKey hk
    | cons b l' =>
      have hab : key a = key b := le_antisymm (key_head_le h hk) (key_head_le h' fun k => (hk k).symm)
      have hfirst := hk (key a)
      rw [ofKey_cons, ofKey_cons, if_pos rfl, if_pos hab.symm, List.cons.injEq] at hfirst
      obtain ⟨rfl, hrest⟩ := hfirst
      refine congrArg (a :: ·) (ih (List.pairwise_cons.1 h).2 (List.pairwise_cons.1 h').2 fun k => ?_)
      by_cases hka : key a = k
      · subst hka
        exact hrest
      · simpa [ofKey_cons, hka] using hk k

/-- **What sorting depends on.** -/
theorem mergeSort_eq_mergeSort_iff {l l' : List α} :
    l.mergeSort (byKey key) = l'.mergeSort (byKey key) ↔ ∀ k, ofKey key k l = ofKey key k l' := by
  constructor
  · intro h k
    rw [← ofKey_mergeSort k l, h, ofKey_mergeSort]
  · intro h
    refine eq_of_pairwise_of_ofKey (pairwise_mergeSort l) (pairwise_mergeSort l') fun k => ?_
    rw [ofKey_mergeSort, ofKey_mergeSort, h]

theorem ofKey_filter (k : κ) (p : α → Bool) (l : List α) :
    ofKey key k (l.filter p) = (ofKey key k l).filter p := by
  simp only [ofKey, List.filter_filter, Bool.and_comm]

/-- What is left out before sorting can as well be left out of what is sorted. -/
theorem mergeSort_filter (p : α → Bool) (l : List α) :
    (l.filter p).mergeSort (byKey key) = (l.mergeSort (byKey key)).filter p := by
  refine eq_of_pairwise_of_ofKey (pairwise_mergeSort _) ((pairwise_mergeSort l).filter p) fun k => ?_
  rw [ofKey_mergeSort, ofKey_filter, ofKey_filter, ofKey_mergeSort]

/-- Where no key is there twice, the order in which the elements come makes no difference. -/
theorem mergeSort_eq_of_perm {l l' : List α} (hn : (l.map key).Nodup) (hp : l.Perm l') :
    l.mergeSort (byKey key) = l'.mergeSort (byKey key) := by
  have hperm : (l.mergeSort (byKey key)).Perm (l'.mergeSort (byKey key)) :=
    ((List.mergeSort_perm l _).trans hp).trans (List.mergeSort_perm l' _).symm
  refine hperm.eq_of_pairwise (fun a b ha hb hab hba => ?_) (pairwise_mergeSort l) (pairwise_mergeSort l')
  have ha : a ∈ l := (List.mergeSort_perm l _).mem_iff.1 ha
  have hb : b ∈ l := hp.mem_iff.2 ((List.mergeSort_perm l' _).mem_iff.1 hb)
  exact List.inj_on_of_nodup_map hn ha hb (le_antisymm hab hba)

theorem pairwise_lt_mergeSort {l : List α} (hn : (l.map key).Nodup) :
    (l.mergeSort (byKey key)).Pairwise fun a b => key a < key b := by
  have hn' : ((l.mergeSort (byKey key)).map key).Nodup :=
    ((List.mergeSort_perm l _).map key).nodup_iff.2 hn
  have hne : (l.mergeSort (byKey key)).Pairwise fun a b => key a ≠ key b := List.pairwise_map.1 hn'
  exact (pairwise_mergeSort l).imp₂ (fun _ _ hle hne => lt_of_le_of_ne hle hne) hne

end ClusterAudit.StableSort
