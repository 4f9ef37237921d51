/-
The lines of a printed report.

A text has the lines that it was printed from only if none of those has a newline in
it, and a text has no other lines (`HasLines.unique`). A line of a report that does
have newlines falls apart at them (`Report.hasLines_text`). The summary never does, so
it is always the last line.
-/
import ClusterAudit.Proofs.ReportOrder
import ClusterAudit.Text.Cut

namespace ClusterAudit

namespace Text

variable {a b s : String} {ls ls' : List String} {sep : Char}

/-! ## Single lines -/

/-- Whether `s` fits into one line. -/
def OneLine (s : String) : Prop := '\n' ∉ s.toList

instance : DecidablePred OneLine := fun s => inferInstanceAs (Decidable ('\n' ∉ s.toList))

@[simp] theorem oneLine_append_iff : OneLine (a ++ b) ↔ OneLine a ∧ OneLine b := by
  simp [OneLine, not_or]

theorem not_newline_of_isDigit {c : Char} (h : c.isDigit = true) : '\n' ≠ c := by
  rintro rfl
  exact absurd h (by decide)

theorem oneLine_toString_nat (n : Nat) : OneLine (toString n) := by
  intro hmem
  rw [Nat.toString_eq_repr, Nat.toList_repr] at hmem
  exact not_newline_of_isDigit (Nat.isDigit_of_mem_toDigits (by decide) (by decide) hmem) rfl

theorem oneLine_toString_int (i : Int) : OneLine (toString i) := by
  cases i with
  | ofNat n => exact oneLine_toString_nat n
  | negSucc n => exact oneLine_append_iff.2 ⟨by decide, oneLine_toString_nat _⟩

theorem oneLine_intercalate (hs : OneLine s) (hls : ∀ l ∈ ls, OneLine l) :
    OneLine (s.intercalate ls) := by
  induction ls with
  | nil => simp [OneLine]
  | cons l ls ih =>
    obtain ⟨hl, hrest⟩ := List.forall_mem_cons.1 hls
    cases ls with
    | nil => simpa using hl
    | cons l' ls =>
      rw [String.intercalate_cons_cons]
      exact oneLine_append_iff.2 ⟨oneLine_append_iff.2 ⟨hl, hs⟩, ih hrest⟩

/-! ## Pieces -/

theorem pieces_append_sep :
    pieces sep (a ++ String.singleton sep ++ b) = pieces sep a ++ pieces sep b := by
  simp [pieces, List.splitOn_append_cons_self]

theorem pieces_of_not_mem (h : sep ∉ s.toList) : pieces sep s = [s] := by
  simp [pieces, List.splitOn_eq_singleton h]

theorem intercalate_pieces : (String.singleton sep).intercalate (pieces sep s) = s := by
  rw [← String.toList_inj, String.toList_intercalate, pieces, List.map_map]
  simp

theorem not_mem_of_mem_splitOn {α : Type} [DecidableEq α] {x : α} {xs l : List α}
    (h : l ∈ xs.splitOn x) : x ∉ l := by
  induction xs generalizing l with
  | nil =>
    rw [List.splitOn_nil, List.mem_singleton] at h
    simp [h]
  | cons y xs ih =>
    -- Either `y` is a separator and opens a piece, or it joins the first piece of the rest.
    obtain ⟨first, rest, hsplit⟩ := List.exists_cons_of_ne_nil (List.splitOn_ne_nil x xs)
    rw [hsplit] at ih
    rw [List.splitOn_cons_eq_if_modifyHead, hsplit] at h
    split at h
    · rcases List.mem_cons.1 h with rfl | h
      · exact List.not_mem_nil
      · exact ih h
    · next hy =>
      rcases List.mem_cons.1 h with rfl | h
      · have hfirst : x ∉ first := ih (List.mem_cons_self ..)
        exact List.not_mem_cons_of_ne_of_not_mem (fun he => hy (beq_iff_eq.2 he.symm)) hfirst
      · exact ih (List.mem_cons_of_mem _ h)

theorem not_mem_of_mem_pieces {p : String} (h : p ∈ pieces sep s) : sep ∉ p.toList := by
  obtain ⟨l, hl, rfl⟩ := List.mem_map.1 h
  rw [String.toList_ofList]
  exact not_mem_of_mem_splitOn hl

theorem length_splitOn {α : Type} [DecidableEq α] (x : α) (xs : List α) :
    (xs.splitOn x).length = xs.count x + 1 := by
  induction xs with
  | nil => simp
  | cons y xs ih =>
    rw [List.splitOn_cons_eq_if_modifyHead, List.count_cons]
    split <;> simp [ih]

theorem length_pieces : (pieces sep s).length = s.toList.count sep + 1 := by
  rw [pieces, List.length_map, length_splitOn]

theorem length_flatMap_pieces {α : Type} (f : α → String) (xs : List α) :
    (xs.flatMap fun x => pieces sep (f x)).length =
      xs.length + (xs.flatMap fun x => (f x).toList).count sep := by
  induction xs with
  | nil => rfl
  | cons x xs ih =>
    rw [List.flatMap_cons, List.length_append, length_pieces, ih, List.flatMap_cons, List.count_append,
      List.length_cons]
    omega

theorem pieces_ne_nil : pieces sep s ≠ [] := by simp [pieces]

/-! ## Lines -/

/-- `s` consists of the lines `ls`, each ended by a newline. -/
structure HasLines (s : String) (ls : List String) : Prop where
  text_eq : s = String.join (ls.map (· ++ "\n"))
  oneLine : ∀ l ∈ ls, OneLine l

theorem join_ended (h : ls ≠ []) : String.join (ls.map (· ++ "\n")) = "\n".intercalate ls ++ "\n" := by
  induction ls with
  | nil => exact absurd rfl h
  | cons l ls ih =>
    cases ls with
    | nil => simp
    | cons l' ls =>
      rw [List.map_cons, String.join_cons, ih (List.cons_ne_nil _ _), String.intercalate_cons_cons]
      simp [String.append_assoc]

/-- What was printed as one line, and its pieces as lines of their own, are the same text. -/
theorem join_pieces : String.join ((pieces '\n' s).map (· ++ "\n")) = s ++ "\n" := by
  have hpieces : "\n".intercalate (pieces '\n' s) = s := intercalate_pieces
  rw [join_ended pieces_ne_nil, hpieces]

/-- Of the lines that a text is printed from those with newlines fall apart. -/
theorem hasLines_join :
    HasLines (String.join (ls.map (· ++ "\n"))) (ls.flatMap (pieces '\n')) where
  text_eq := by
    induction ls with
    | nil => rfl
    | cons l ls ih =>
      rw [List.map_cons, String.join_cons, ih, List.flatMap_cons, List.map_append, String.join_append,
        join_pieces]
  oneLine := fun l hl => by
    obtain ⟨s, -, hl⟩ := List.mem_flatMap.1 hl
    exact not_mem_of_mem_pieces hl

theorem HasLines.pieces_eq (h : HasLines s ls) : pieces '\n' s = ls ++ [""] := by
  obtain ⟨rfl, hls⟩ := h
  -- A line without newlines is one piece; the last piece is what follows the last newline.
  induction ls with
  | nil => rfl
  | cons l ls ih =>
    obtain ⟨hl, hls⟩ := List.forall_mem_cons.1 hls
    have hsplit : pieces '\n' (l ++ "\n" ++ String.join (ls.map (· ++ "\n"))) =
        pieces '\n' l ++ pieces '\n' (String.join (ls.map (· ++ "\n"))) := pieces_append_sep
    rw [List.map_cons, String.join_cons, hsplit, ih hls, pieces_of_not_mem hl]
    rfl

/-- A text has no other lines than its lines. -/
theorem HasLines.unique (h : HasLines s ls) (h' : HasLines s ls') : ls = ls' :=
  List.append_cancel_right (h.pieces_eq.symm.trans h'.pieces_eq)

end Text

namespace Report

open Text

variable {r : Report}

/-! ## Counting -/

theorem summary_eq (r : Report) :
    r.summary = toString (r.count .error) ++ " errors, " ++ toString (r.count .warning) ++
      " warnings, " ++ toString (r.count .suggestion) ++ " suggestions" := by
  rw [← String.toList_inj]
  simp [summary, Severity.all, Severity.name]

theorem oneLine_summary (r : Report) : OneLine r.summary := by
  rw [summary_eq]
  simp only [oneLine_append_iff, oneLine_toString_nat, true_and, and_true]
  decide

/-- Every diagnostic is counted once. -/
theorem count_add (r : Report) :
    r.count .error + r.count .warning + r.count .suggestion = r.diagnostics.length := by
  obtain ⟨ds⟩ := r
  simp only [count]
  induction ds with
  | nil => rfl
  | cons d ds ih =>
    simp only [List.countP_cons, List.length_cons]
    cases hd : d.severity <;> simp <;> omega

theorem hasErrors_iff : r.hasErrors = true ↔ ∃ d ∈ r.diagnostics, d.severity = .error := by
  simp [hasErrors]

theorem hasErrors_iff_count : r.hasErrors = true ↔ 0 < r.count .error := by
  simp [hasErrors, count, List.countP_pos_iff]

/-! ## The lines of a report -/

theorem hasLines_text (r : Report) :
    HasLines r.text (r.diagnostics.flatMap (pieces '\n' ·.line) ++ [r.summary]) := by
  have hlines : HasLines r.text ((r.diagnostics.map Diagnostic.line ++ [r.summary]).flatMap (pieces '\n')) :=
    hasLines_join
  rw [List.flatMap_append, List.flatMap_map, List.flatMap_singleton,
    pieces_of_not_mem r.oneLine_summary] at hlines
  exact hlines

/-- A report has a line for each diagnostic if each fits into one. -/
theorem hasLines_text_of_oneLine (h : ∀ d ∈ r.diagnostics, OneLine d.line) :
    HasLines r.text (r.diagnostics.map Diagnostic.line ++ [r.summary]) where
  text_eq := rfl
  oneLine := List.forall_mem_append.2
    ⟨List.forall_mem_map.2 h, List.forall_mem_singleton.2 r.oneLine_summary⟩

end Report

end ClusterAudit
