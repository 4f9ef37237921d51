/-
Cutting a text at a separator. `cutFirst` and `cutLast` lose nothing but the
separator they cut at, and fail exactly where there is none.
-/
namespace ClusterAudit.Text

/-- What stands before and after the first `sep`. -/
def cutFirst (sep : Char) : List Char → Option (List Char × List Char)
  | [] => none
  | c :: cs =>
    if c = sep then some ([], cs) else (cutFirst sep cs).map fun (a, b) => (c :: a, b)

/-- What stands before and after the last `sep`. -/
def cutLast (sep : Char) : List Char → Option (List Char × List Char)
  | [] => none
  | c :: cs =>
    match cutLast sep cs with
    | some (a, b) => some (c :: a, b)
    | none => if c = sep then some ([], cs) else none

theorem cutFirst_eq_none_iff {sep : Char} {cs : List Char} : cutFirst sep cs = none ↔ sep ∉ cs := by
  induction cs with
  | nil => simp [cutFirst]
  | cons c cs ih =>
    by_cases h : c = sep
    · simp [cutFirst, h]
    · simp [cutFirst, h, ih, Ne.symm h]

theorem cutFirst_eq_some_iff {sep : Char} {cs a b : List Char} :
    cutFirst sep cs = some (a, b) ↔ cs = a ++ sep :: b ∧ sep ∉ a := by
  induction cs generalizing a with
  | nil => simp [cutFirst]
  | cons c cs ih =>
    by_cases h : c = sep
    · subst h
      cases a with
      | nil => simp [cutFirst, eq_comm]
      | cons x a => simp [cutFirst]; intro h; subst h; simp
    · cases a with
      | nil => simp [cutFirst, h]
      | cons x a =>
        simp only [cutFirst, h, if_false, Option.map_eq_some_iff, Prod.exists, Prod.mk.injEq,
          List.cons.injEq, List.cons_append, List.mem_cons, not_or]
        constructor
        · rintro ⟨a', b', he, ⟨rfl, rfl⟩, rfl⟩
          obtain ⟨rfl, hn⟩ := ih.1 he
          exact ⟨⟨rfl, rfl⟩, Ne.symm h, hn⟩
        · rintro ⟨⟨rfl, rfl⟩, -, hn⟩
          exact ⟨a, b, ih.2 ⟨rfl, hn⟩, ⟨rfl, rfl⟩, rfl⟩

theorem cutLast_eq_none_iff {sep : Char} {cs : List Char} : cutLast sep cs = none ↔ sep ∉ cs := by
  induction cs with
  | nil => simp [cutLast]
  | cons c cs ih =>
    rw [cutLast]
    cases h : cutLast sep cs with
    | some p =>
      have : sep ∈ cs := by
        apply Decidable.byContradiction
        intro hn
        simp [ih.2 hn] at h
      simp [this]
    | none =>
      have hn := ih.1 h
      by_cases hc : c = sep
      · simp [hc]
      · simp [hc, hn, Ne.symm hc]

theorem cutLast_eq_some_iff {sep : Char} {cs a b : List Char} :
    cutLast sep cs = some (a, b) ↔ cs = a ++ sep :: b ∧ sep ∉ b := by
  induction cs generalizing a b with
  | nil => simp [cutLast]
  | cons c cs ih =>
    rw [cutLast]
    cases h : cutLast sep cs with
    | some p =>
      obtain ⟨a', b'⟩ := p
      have hcs := ih.1 h
      simp only [Option.some.injEq, Prod.mk.injEq]
      constructor
      · rintro ⟨rfl, rfl⟩
        exact ⟨by rw [hcs.1]; rfl, hcs.2⟩
      · rintro ⟨he, hn⟩
        cases a with
        | nil =>
          simp only [List.nil_append, List.cons.injEq] at he
          exact absurd (by rw [← he.2, hcs.1]; simp) hn
        | cons x a =>
          simp only [List.cons_append, List.cons.injEq] at he
          obtain ⟨rfl, he⟩ := he
          have hab := h.symm.trans (ih.2 ⟨he, hn⟩)
          simp only [Option.some.injEq, Prod.mk.injEq] at hab
          exact ⟨by rw [hab.1], hab.2⟩
    | none =>
      have hnone := cutLast_eq_none_iff.1 h
      by_cases hc : c = sep
      · subst hc
        simp only [if_true, Option.some.injEq, Prod.mk.injEq]
        constructor
        · rintro ⟨rfl, rfl⟩
          exact ⟨rfl, hnone⟩
        · rintro ⟨he, hn⟩
          cases a with
          | nil => simpa using he
          | cons x a =>
            simp only [List.cons_append, List.cons.injEq] at he
            exact absurd (by rw [he.2]; simp) hnone
      · simp only [hc, if_false, reduceCtorEq, false_iff, not_and]
        intro he
        cases a with
        | nil =>
          simp only [List.nil_append, List.cons.injEq] at he
          exact absurd he.1 hc
        | cons x a =>
          simp only [List.cons_append, List.cons.injEq] at he
          exact absurd (by rw [he.2]; simp) hnone

/-- The pieces of `s` between its separators; there is always at least one. -/
def pieces (sep : Char) (s : String) : List String :=
  (s.toList.splitOn sep).map String.ofList

theorem pieces_intercalate {sep : Char} {ss : List String} (h : ∀ s ∈ ss, sep ∉ s.toList)
    (hne : ss ≠ []) : pieces sep ((String.singleton sep).intercalate ss) = ss := by
  have hsplit : ([sep].intercalate (ss.map String.toList)).splitOn sep = ss.map String.toList :=
    List.splitOn_intercalate sep (by simpa using h) (by simpa using hne)
  rw [pieces, String.toList_intercalate, String.toList_singleton, hsplit]
  simp

end ClusterAudit.Text
