/-
Two lists whose elements correspond one by one: what is picked out of the one, and what is
picked out of the other, or read from it.
-/
import Mathlib.Data.List.Forall2

namespace ClusterAudit

variable {α β γ : Type} {R : α → β → Prop} {l : List α} {l' : List β}

/-- What is picked out of a list can as well be picked out of its pairs with another. -/
theorem map_filter_eq_zip (h : List.Forall₂ R l l') {test' : β → Bool} {test : α × β → Bool}
    {f' : β → γ} {f : α → γ} (htest : ∀ a b, R a b → test' b = test (a, b))
    (hf : ∀ a b, R a b → f' b = f a) :
    (l'.filter test').map f' = ((l.zip l').filter test).map fun x => f x.1 := by
  induction h with
  | nil => rfl
  | @cons a b l l' hab _ ih =>
    rw [List.zip_cons_cons, List.filter_cons, List.filter_cons, htest a b hab]
    cases test (a, b) with
    | false => exact ih
    | true => simpa [hf a b hab] using ih

theorem map_filter_eq_of_forall₂ (h : List.Forall₂ R l l') {test' : β → Bool} {test : α → Bool}
    {f' : β → γ} {f : α → γ} (htest : ∀ a b, R a b → test' b = test a)
    (hf : ∀ a b, R a b → f' b = f a) :
    (l'.filter test').map f' = (l.filter test).map f := by
  have hl : (l.zip l').map Prod.fst = l := List.map_fst_zip (Nat.le_of_eq h.length_eq)
  calc (l'.filter test').map f'
      = ((l.zip l').filter fun x => test x.1).map fun x => f x.1 := map_filter_eq_zip h htest hf
    _ = (((l.zip l').map Prod.fst).filter test).map f := by
        rw [List.filter_map, List.map_map]
        rfl
    _ = (l.filter test).map f := by rw [hl]

/-- Where the stricter test is made on the one list, the less is picked out of it. -/
theorem map_filter_sublist_of_forall₂ (h : List.Forall₂ R l l') {test : α → Bool} {test' : β → Bool}
    {f : α → γ} {f' : β → γ} (htest : ∀ a b, R a b → test a = true → test' b = true)
    (hf : ∀ a b, R a b → f' b = f a) :
    ((l.filter test).map f).Sublist ((l'.filter test').map f') := by
  induction h with
  | nil => exact .slnil
  | @cons a b l l' hab _ ih =>
    rw [List.filter_cons, List.filter_cons]
    cases ha : test a with
    | true => simpa [htest a b hab ha, hf a b hab] using ih.cons_cons (f a)
    | false =>
      cases test' b with
      | true => simpa using ih.cons (f' b)
      | false => exact ih

/-- What each element is read as is what the whole list is read as. -/
theorem mapM_eq_some_of_forall₂ {read : β → Option α}
    (h : List.Forall₂ (fun a b => read b = some a) l l') : l'.mapM read = some l := by
  induction h with
  | nil => rfl
  | cons hb _ ih =>
    rw [List.mapM_cons, hb, ih]
    rfl

end ClusterAudit
