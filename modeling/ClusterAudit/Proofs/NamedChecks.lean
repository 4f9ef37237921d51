/-
Which checks the annotation of an object names.

The value is cut at its commas, and what is left of a piece without the blanks around it
is a name (`trim_eq_iff`, `mem_splitOn_iff`). So a list of names is read back from
however it is padded (`names_joined`), and a name is found just where it stands by itself
between two commas or an end of the value (`mem_names_iff_mention`).
-/
import Mathlib.Data.List.TakeWhile
import ClusterAudit.Proofs.ReportLines
import ClusterAudit.Suppression

namespace ClusterAudit

namespace Text

variable {cs t w w' : List Char}

/-! ## Blanks around a text -/

/-- Blanks and nothing else. -/
def Blank (cs : List Char) : Prop := ∀ c ∈ cs, isBlank c = true

-- By `List.all`, so that deciding goes through the text and not through all characters.
instance : DecidablePred Blank := fun cs =>
  decidable_of_iff (cs.all isBlank = true) List.all_eq_true

/-- Neither end is a blank. -/
structure Trimmed (cs : List Char) : Prop where
  head : ∀ c ∈ cs.head?, isBlank c = false
  last : ∀ c ∈ cs.getLast?, isBlank c = false

instance : DecidablePred Trimmed := fun cs =>
  decidable_of_iff
    (cs.head?.all (fun c => !isBlank c) = true ∧ cs.getLast?.all (fun c => !isBlank c) = true) <| by
    simp only [Option.all_eq_true, Bool.not_eq_true']
    exact ⟨fun h => ⟨h.1, h.2⟩, fun h => ⟨h.head, h.last⟩⟩

theorem Blank.reverse (h : Blank w) : Blank w.reverse := fun c hc => h c (List.mem_reverse.1 hc)

theorem Blank.append (h : Blank w) (h' : Blank w') : Blank (w ++ w') := by
  intro c hc
  rcases List.mem_append.1 hc with hc | hc
  · exact h c hc
  · exact h' c hc

theorem Blank.comma_notMem (h : Blank w) : ',' ∉ w := by
  intro hmem
  have hcomma : isBlank ',' = true := h ',' hmem
  exact absurd hcomma (by decide)

theorem blank_takeWhile (cs : List Char) : Blank (cs.takeWhile isBlank) := by
  intro c hc
  exact List.mem_takeWhile_imp hc

theorem dropWhile_append_of_blank (hw : Blank w) (ht : ∀ c ∈ t.head?, isBlank c = false) :
    (w ++ t).dropWhile isBlank = t := by
  rw [List.dropWhile_append_of_pos hw]
  cases t with
  | nil => rfl
  | cons c t =>
    have hc : isBlank c = false := ht c rfl
    exact List.dropWhile_cons_of_neg (by simp [hc])

theorem head_dropWhile (cs : List Char) : ∀ c ∈ (cs.dropWhile isBlank).head?, isBlank c = false := by
  intro c hc
  have hnot := List.head?_dropWhile_not isBlank cs
  rw [Option.mem_def.1 hc] at hnot
  exact hnot

theorem trim_append (ht : Trimmed t) (hw : Blank w) (hw' : Blank w') : trim (w ++ t ++ w') = t := by
  have hlast : ∀ c ∈ t.reverse.head?, isBlank c = false := by
    rw [List.head?_reverse]
    exact ht.last
  cases t with
  | nil =>
    -- All of it is blank, and what stands for the text goes with what is in front of it.
    have hall : (w ++ [] ++ w').dropWhile isBlank = [] := by
      have hdrop := dropWhile_append_of_blank (t := []) (hw.append hw') (by simp)
      simpa using hdrop
    rw [trim, hall]
    rfl
  | cons c t =>
    have hfront : (w ++ c :: t ++ w').dropWhile isBlank = c :: t ++ w' := by
      rw [List.append_assoc]
      exact dropWhile_append_of_blank hw ht.head
    rw [trim, hfront, List.reverse_append, dropWhile_append_of_blank hw'.reverse hlast,
      List.reverse_reverse]

theorem exists_eq_append_trim (cs : List Char) :
    ∃ w w', Blank w ∧ Blank w' ∧ cs = w ++ trim cs ++ w' := by
  let rest := (cs.dropWhile isBlank).reverse
  have hrest : cs.dropWhile isBlank = trim cs ++ (rest.takeWhile isBlank).reverse := by
    rw [trim, ← List.reverse_append, List.takeWhile_append_dropWhile, List.reverse_reverse]
  refine ⟨cs.takeWhile isBlank, (rest.takeWhile isBlank).reverse, blank_takeWhile cs,
    (blank_takeWhile rest).reverse, ?_⟩
  rw [List.append_assoc, ← hrest, List.takeWhile_append_dropWhile]

theorem trimmed_trim (cs : List Char) : Trimmed (trim cs) where
  head := by
    intro c hc
    obtain ⟨t, ht⟩ := List.head?_eq_some_iff.1 hc
    -- What is trimmed at its end begins as before.
    have hprefix : trim cs <+: cs.dropWhile isBlank := by
      have hsuffix := List.dropWhile_suffix isBlank (l := (cs.dropWhile isBlank).reverse)
      have hreverse := List.reverse_prefix.2 hsuffix
      rwa [List.reverse_reverse] at hreverse
    obtain ⟨rest, hrest⟩ := hprefix
    refine head_dropWhile cs c ?_
    rw [← hrest, ht]
    rfl
  last := by
    rw [trim, List.getLast?_reverse]
    exact head_dropWhile _

/-- **What trimming leaves** is trimmed, and all that is gone are blanks at the ends. -/
theorem trim_eq_iff :
    trim cs = t ↔ Trimmed t ∧ ∃ w w', Blank w ∧ Blank w' ∧ cs = w ++ t ++ w' := by
  constructor
  · rintro rfl
    exact ⟨trimmed_trim cs, exists_eq_append_trim cs⟩
  · rintro ⟨ht, w, w', hw, hw', rfl⟩
    exact trim_append ht hw hw'

end Text

/-! ## Pieces between separators -/

section Pieces

variable {α : Type} [DecidableEq α] {x : α} {p xs : List α}

theorem mem_splitOn_of_start {b : List α} (hp : x ∉ p) (hb : b = [] ∨ ∃ b', b = x :: b') :
    p ∈ (p ++ b).splitOn x := by
  rcases hb with rfl | ⟨b', rfl⟩
  · rw [List.append_nil, List.splitOn_eq_singleton hp]
    exact List.mem_singleton_self p
  · rw [List.splitOn_append_cons_self_of_not_mem hp]
    exact List.mem_cons_self

theorem exists_of_mem_splitOn {xs : List α} (h : p ∈ xs.splitOn x) :
    ∃ a b, xs = a ++ p ++ b ∧ (a = [] ∨ ∃ a', a = a' ++ [x]) ∧ (b = [] ∨ ∃ b', b = x :: b') := by
  by_cases hx : x ∈ xs
  · obtain ⟨first, rest, hxs, hfirst⟩ := List.eq_append_cons_of_mem hx
    rw [hxs, List.splitOn_append_cons_self_of_not_mem hfirst] at h
    rcases List.mem_cons.1 h with rfl | h
    · exact ⟨[], x :: rest, hxs, .inl rfl, .inr ⟨rest, rfl⟩⟩
    · -- Further on, what stands before the piece ends in the separator in any case.
      have hshorter : rest.length < xs.length := by
        rw [hxs, List.length_append, List.length_cons]
        omega
      obtain ⟨a, b, hrest, ha, hb⟩ := exists_of_mem_splitOn h
      refine ⟨first ++ x :: a, b, by simp [hxs, hrest], .inr ?_, hb⟩
      rcases ha with rfl | ⟨a', rfl⟩
      · exact ⟨first, rfl⟩
      · exact ⟨first ++ x :: a', by simp⟩
  · rw [List.splitOn_eq_singleton hx, List.mem_singleton] at h
    exact ⟨[], [], by simp [h], .inl rfl, .inl rfl⟩
termination_by xs.length

/-- **A piece** has no separator in it, and one on either side unless it is at the end there. -/
theorem mem_splitOn_iff :
    p ∈ xs.splitOn x ↔ x ∉ p ∧
      ∃ a b, xs = a ++ p ++ b ∧ (a = [] ∨ ∃ a', a = a' ++ [x]) ∧ (b = [] ∨ ∃ b', b = x :: b') := by
  constructor
  · intro h
    exact ⟨Text.not_mem_of_mem_splitOn h, exists_of_mem_splitOn h⟩
  · rintro ⟨hp, a, b, rfl, ha, hb⟩
    have hstart : p ∈ (p ++ b).splitOn x := mem_splitOn_of_start hp hb
    rcases ha with rfl | ⟨a', rfl⟩
    · exact hstart
    · have hcut : a' ++ [x] ++ p ++ b = a' ++ x :: (p ++ b) := by simp
      rw [hcut, List.splitOn_append_cons_self]
      exact List.mem_append_right _ hstart

end Pieces

/-! ## Names in a value -/

namespace Suppression

open Text (Blank Trimmed)

variable {value name : String}

theorem mem_names_iff :
    name ∈ names value ↔ ∃ p ∈ value.toList.splitOn ',', Text.trim p = name.toList := by
  simp only [names, Text.pieces, List.map_map, List.mem_map, Function.comp_apply,
    String.toList_ofList, ← String.toList_inj]

/-- `name` stands by itself in `value`: there are at most blanks between it and the next
commas, or the ends of the value. -/
structure Mention (value name : String) where
  before : String
  left : String
  right : String
  after : String
  value_eq : value = before ++ left ++ name ++ right ++ after
  left_blank : Blank left.toList
  right_blank : Blank right.toList
  comma_notMem : ',' ∉ name.toList
  trimmed : Trimmed name.toList
  before_ends : before = "" ∨ ∃ a, before = a ++ ","
  after_starts : after = "" ∨ ∃ b, after = "," ++ b

/-- **The names in a value** are those it mentions. -/
theorem mem_names_iff_mention : name ∈ names value ↔ Nonempty (Mention value name) := by
  rw [mem_names_iff]
  constructor
  · rintro ⟨p, hp, htrim⟩
    obtain ⟨hcomma, a, b, hvalue, ha, hb⟩ := mem_splitOn_iff.1 hp
    obtain ⟨hname, w, w', hw, hw', rfl⟩ := Text.trim_eq_iff.1 htrim
    exact ⟨{
      before := .ofList a
      left := .ofList w
      right := .ofList w'
      after := .ofList b
      value_eq := by
        rw [← String.toList_inj]
        simp [hvalue]
      left_blank := by rwa [String.toList_ofList]
      right_blank := by rwa [String.toList_ofList]
      comma_notMem := fun hmem => hcomma (by simp [hmem])
      trimmed := hname
      before_ends := by
        rcases ha with rfl | ⟨a', rfl⟩
        · exact .inl rfl
        · exact .inr ⟨.ofList a', String.ofList_append⟩
      after_starts := by
        rcases hb with rfl | ⟨b', rfl⟩
        · exact .inl rfl
        · exact .inr ⟨.ofList b', by simp⟩ }⟩
  · rintro ⟨m⟩
    refine ⟨m.left.toList ++ name.toList ++ m.right.toList, mem_splitOn_iff.2 ⟨?_, ?_⟩, ?_⟩
    · simp only [List.mem_append, not_or]
      exact ⟨⟨m.left_blank.comma_notMem, m.comma_notMem⟩, m.right_blank.comma_notMem⟩
    · refine ⟨m.before.toList, m.after.toList, ?_, ?_, ?_⟩
      · have hvalue := congrArg String.toList m.value_eq
        simpa using hvalue
      · rcases m.before_ends with h | ⟨a, h⟩
        · exact .inl (by simp [h])
        · exact .inr ⟨a.toList, by simp [h]⟩
      · rcases m.after_starts with h | ⟨b, h⟩
        · exact .inl (by simp [h])
        · exact .inr ⟨b.toList, by simp [h]⟩
    · exact Text.trim_append m.trimmed m.left_blank m.right_blank

theorem suppresses_iff {s : Subject} :
    suppresses s name = true ↔ ∃ v, s.annotations.get? key = some v ∧ name ∈ names v := by
  cases h : s.annotations.get? key with
  | none => simp [suppresses, h]
  | some v => simp [suppresses, h]

/-! ## Lists of names -/

/-- A name as it may stand in a list, with blanks around it. -/
structure Padded where
  left : String := ""
  name : String
  right : String := ""
  left_blank : Blank left.toList := by decide
  right_blank : Blank right.toList := by decide
  comma_notMem : ',' ∉ name.toList := by decide
  trimmed : Trimmed name.toList := by decide

namespace Padded

def text (p : Padded) : String := p.left ++ p.name ++ p.right

/-- The value that lists the names. -/
def joined (ps : List Padded) : String := ",".intercalate (ps.map text)

theorem comma_notMem_text (p : Padded) : ',' ∉ p.text.toList := by
  rw [text, String.toList_append, String.toList_append, List.mem_append, List.mem_append]
  rintro ((h | h) | h)
  · exact p.left_blank.comma_notMem h
  · exact p.comma_notMem h
  · exact p.right_blank.comma_notMem h

theorem trim_text (p : Padded) : Text.trim p.text.toList = p.name.toList := by
  rw [text, String.toList_append, String.toList_append]
  exact Text.trim_append p.trimmed p.left_blank p.right_blank

/-- **A list is read back**, however it is padded. -/
theorem names_joined {ps : List Padded} (h : ps ≠ []) : names (joined ps) = ps.map (·.name) := by
  have hcomma : ∀ t ∈ ps.map text, ',' ∉ t.toList := by
    intro t ht
    obtain ⟨p, -, rfl⟩ := List.mem_map.1 ht
    exact p.comma_notMem_text
  have hpieces : Text.pieces ',' (joined ps) = ps.map text :=
    Text.pieces_intercalate hcomma (by simpa using h)
  rw [names, hpieces, List.map_map]
  refine List.map_congr_left fun p _ => ?_
  rw [Function.comp_apply, trim_text, String.ofList_toList]

end Padded

/-- **Which checks an object switches off.** It is those that the value of its annotation
mentions, and all of a list that was padded and joined. Without the annotation there are
none. -/
theorem switches_off_mentioned (s : Subject) (check : String) :
    (suppresses s check = true ↔
      ∃ value, s.annotations.get? key = some value ∧ Nonempty (Mention value check)) ∧
    (s.annotations.get? key = none → suppresses s check = false) ∧
    ∀ ps : List Padded, ps ≠ [] → s.annotations.get? key = some (Padded.joined ps) →
      (suppresses s check = true ↔ check ∈ ps.map (·.name)) := by
  refine ⟨?_, fun hnone => ?_, fun ps hps hvalue => ?_⟩
  · simp only [suppresses_iff, mem_names_iff_mention]
  · rw [← Bool.not_eq_true, suppresses_iff]
    rintro ⟨value, hvalue, -⟩
    exact nomatch hnone.symm.trans hvalue
  · rw [suppresses_iff, ← Padded.names_joined hps]
    simp only [hvalue, Option.some.injEq, exists_eq_left']

/-- A name that begins like another, one within blanks of several kinds, and one that is
there twice. -/
def padded : List Padded :=
  [{ left := "\t ", name := "bare-pod" }, { name := "latest-tag", right := "\u3000" },
   { left := "\n", name := "non root", right := "\u00A0 " }, { name := "latest-tag" }]

/-- An object with that list, and with another annotation. -/
def annotated : Subject where
  name := "web"
  annotations := .ofList [("team", "latest"), (key, Padded.joined padded)]

theorem switches_off_mentioned_padded :
    padded ≠ [] ∧ annotated.annotations.get? key = some (Padded.joined padded) ∧
      Padded.joined padded = "\t bare-pod,latest-tag\u3000,\nnon root\u00A0 ,latest-tag" ∧
      suppresses annotated "latest-tag" = true ∧ suppresses annotated "bare-pods" = false ∧
      Nonempty (Mention (Padded.joined padded) "non root") ∧
      ({ name := "api" } : Subject).annotations.get? key = none ∧
      suppresses { name := "api" } "latest-tag" = false := by
  have hne : padded ≠ [] := by simp [padded]
  have hvalue : annotated.annotations.get? key = some (Padded.joined padded) := by decide
  have hlisted : ∀ check, suppresses annotated check = true ↔ check ∈ padded.map (·.name) :=
    fun check => (switches_off_mentioned annotated check).2.2 padded hne hvalue
  refine ⟨hne, hvalue, by decide, (hlisted _).2 (by decide), ?_, ?_, rfl, ?_⟩
  · rw [← Bool.not_eq_true, hlisted]
    decide
  · have hsuppressed : suppresses annotated "non root" = true := (hlisted _).2 (by decide)
    obtain ⟨value, hget, hmention⟩ := (switches_off_mentioned annotated "non root").1.1 hsuppressed
    rw [hvalue, Option.some_inj] at hget
    exact hget ▸ hmention
  · exact (switches_off_mentioned { name := "api" } "latest-tag").2.1 rfl

end Suppression

end ClusterAudit
