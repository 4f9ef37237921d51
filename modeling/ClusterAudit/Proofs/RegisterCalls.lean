/-
What a registry has to tell after any sequence of attempts to register checks, those it
refused included.

`offerAll` makes the attempts and `taken` lists those that succeed. Each of them leaves the
two tables in agreement (`Sound.offer`), so they agree after all of them, and both are then
told by `taken` alone: `answers_offerAll` goes through the questions one can ask.
-/
import Mathlib.Data.Finset.Card
import ClusterAudit.Proofs.RegistryFacts

namespace ClusterAudit

open Classical in
/-- A list with each of its elements kept only where it occurs first. -/
noncomputable def firstOccurrences {α : Type} : List α → List α
  | [] => []
  | a :: l => a :: (firstOccurrences l).filter (· ≠ a)

namespace Registry

variable {r : Registry} {c : Check} {cs : List Check} {n : String}

/-- The registry after all of `cs` were offered to it, one after the other. -/
def offerAll (r : Registry) (cs : List Check) : Registry := cs.foldl (fun r c => (r.offer c).1) r

/-- Those of `cs` that are taken in when they are offered one after the other. -/
def taken (r : Registry) : List Check → List Check
  | [] => []
  | c :: cs =>
    match r.offer c with
    | (r, none) => c :: r.taken cs
    | (r, some _) => r.taken cs

/-! ## One call -/

theorem register_eq_emptyCheckName_iff : r.register c = .error .emptyCheckName ↔ c.name = "" := by
  rcases offer_cases r c with ⟨hname, heq⟩ | ⟨hname, -, heq⟩ | ⟨hname, -, heq⟩
  · simp [register, heq, hname]
  · simp [register, heq, hname]
  · simp [register, heq, hname]

theorem register_eq_duplicateCheck_iff :
    r.register c = .error (.duplicateCheck c.name) ↔
      c.name ≠ "" ∧ c.name ∈ r.checks.map (·.name) := by
  rcases offer_cases r c with ⟨hname, heq⟩ | ⟨hname, htaken, heq⟩ | ⟨hname, hfree, heq⟩
  · simp [register, heq, hname]
  · simpa [register, heq, hname] using htaken
  · simpa [register, heq, hname] using hfree

/-- There are no other reasons to refuse a check, and the registry stays as it was. -/
theorem of_register_eq_error {e : Failure} (h : r.register c = .error e) :
    (e = .emptyCheckName ∨ e = .duplicateCheck c.name) ∧ r.offer c = (r, some e) := by
  rcases offer_cases r c with ⟨-, heq⟩ | ⟨-, -, heq⟩ | ⟨-, -, heq⟩
  · rw [register, heq] at h
    cases h
    exact ⟨.inl rfl, heq⟩
  · rw [register, heq] at h
    cases h
    exact ⟨.inr rfl, heq⟩
  · rw [register, heq] at h
    cases h

/-- The first check of a name is the one that is found. -/
theorem find?_offer (r : Registry) (c : Check) (hn : n ≠ "") :
    (r.offer c).1.find? n = (r.find? n).or ([c].find? (·.name == n)) := by
  rcases offer_cases r c with ⟨hname, heq⟩ | ⟨-, htaken, heq⟩ | ⟨-, -, heq⟩
  · have hother : c.name ≠ n := fun h => hn (h ▸ hname)
    simp [heq, hother]
  · by_cases hname : c.name = n
    · -- Another check of this name is found first.
      obtain ⟨d, hd⟩ := Option.isSome_iff_exists.1 ((isSome_find? r n).2 (hname ▸ htaken))
      rw [heq, hd, Option.some_or]
    · simp [heq, hname]
  · rw [heq, find?, find?, add, List.find?_append]

/-! ## All calls -/

theorem Sound.offerAll (h : r.Sound) (cs : List Check) : (r.offerAll cs).Sound := by
  induction cs generalizing r with
  | nil => exact h
  | cons c cs ih => exact ih (h.offer c)

theorem checks_offerAll (r : Registry) (cs : List Check) :
    (r.offerAll cs).checks = r.checks ++ r.taken cs := by
  induction cs generalizing r with
  | nil => simp [offerAll, taken]
  | cons c cs ih =>
    rw [offerAll, List.foldl_cons, ← offerAll, ih, taken]
    rcases offer_cases r c with ⟨-, heq⟩ | ⟨-, -, heq⟩ | ⟨-, -, heq⟩
    · rw [heq]
    · rw [heq]
    · simp only [heq, add, List.append_assoc, List.singleton_append]

theorem find?_offerAll (r : Registry) (cs : List Check) (hn : n ≠ "") :
    (r.offerAll cs).find? n = (r.find? n).or (cs.find? (·.name == n)) := by
  induction cs generalizing r with
  | nil => simp [offerAll]
  | cons c cs ih =>
    have hcons : (c :: cs).find? (·.name == n) = ([c].find? (·.name == n)).or (cs.find? (·.name == n)) := by
      rw [← List.find?_append, List.singleton_append]
    rw [offerAll, List.foldl_cons, ← offerAll, ih, find?_offer r c hn, hcons, Option.or_assoc]

theorem sound_offerAll (cs : List Check) : (empty.offerAll cs).Sound := sound_empty.offerAll cs

theorem checks_empty_offerAll (cs : List Check) : (empty.offerAll cs).checks = empty.taken cs := by
  rw [checks_offerAll]
  rfl

theorem Sound.find?_empty (h : r.Sound) : r.find? "" = none := by
  rw [find?, List.find?_eq_none]
  intro c hc
  simpa using h.named c hc

/-- Checks without a name are never there, and of the others the first of a name. -/
theorem find?_empty_offerAll (cs : List Check) (n : String) :
    (empty.offerAll cs).find? n = (cs.filter (·.name ≠ "")).find? (·.name == n) := by
  rw [List.find?_filter]
  -- A lookup of the empty name finds nothing by soundness; the calls do not say so.
  by_cases hn : n = ""
  · subst hn
    rw [(sound_offerAll cs).find?_empty, eq_comm, List.find?_eq_none]
    simp
  · have hnone : empty.find? n = none := rfl
    rw [find?_offerAll empty cs hn, hnone, Option.none_or]
    congr 1
    funext c
    by_cases hc : c.name = n <;> simp [hc, hn]

theorem get_offerAll (cs : List Check) (n : String) :
    (empty.offerAll cs).get n =
      match (cs.filter (·.name ≠ "")).find? (·.name == n) with
      | some c => .ok c
      | none => .error (.checkNotFound n) := by
  cases hfound : (cs.filter (·.name ≠ "")).find? (·.name == n) with
  | none => rw [get, find?_empty_offerAll, hfound]
  | some c => rw [get, find?_empty_offerAll, hfound]

theorem mem_names_offerAll {cs : List Check} :
    n ∈ (empty.offerAll cs).checks.map (·.name) ↔ n ≠ "" ∧ n ∈ cs.map (·.name) := by
  rw [← isSome_find?, find?_empty_offerAll, List.find?_isSome]
  simp only [List.mem_filter, List.mem_map, decide_eq_true_eq, beq_iff_eq]
  constructor
  · rintro ⟨c, ⟨hc, hname⟩, rfl⟩
    exact ⟨hname, c, hc, rfl⟩
  · rintro ⟨hname, c, hc, rfl⟩
    exact ⟨c, ⟨hc, hname⟩, rfl⟩

theorem size_offerAll (cs : List Check) :
    (empty.offerAll cs).size = ((cs.map (·.name)).toFinset.erase "").card := by
  have hset : ((empty.offerAll cs).checks.map (·.name)).toFinset = (cs.map (·.name)).toFinset.erase "" := by
    ext n
    rw [List.mem_toFinset, mem_names_offerAll, Finset.mem_erase, List.mem_toFinset]
  rw [← hset, List.toFinset_card_of_nodup (sound_offerAll cs).names, List.length_map, size]

/-! ## Several groups -/

open Classical in
theorem firstOccurrences_filter {α : Type} (p : α → Bool) (l : List α) :
    firstOccurrences (l.filter p) = (firstOccurrences l).filter p := by
  induction l with
  | nil => rfl
  | cons a l ih =>
    rw [firstOccurrences, List.filter_cons, List.filter_cons]
    by_cases ha : p a = true
    · rw [if_pos ha, if_pos ha, firstOccurrences, ih, List.filter_comm]
    · -- Neither side keeps `a`, so that leaving it out of the rest makes no difference.
      have hother : ∀ b, (p b && decide (b ≠ a)) = p b := by
        intro b
        by_cases hb : p b = true
        · have hne : b ≠ a := fun he => ha (he ▸ hb)
          simp [hb, hne]
        · simp [hb]
      rw [if_neg ha, if_neg ha, ih, List.filter_filter]
      simp only [hother]

/-- Where a name stands for one element only, going by the names comes to going by the
elements. -/
theorem eraseDupsBy_eq_firstOccurrences {α : Type} (name : α → String) :
    ∀ {l : List α}, (∀ a ∈ l, ∀ b ∈ l, name a = name b → a = b) →
      l.eraseDupsBy (fun a b => name a == name b) = firstOccurrences l
  | [], _ => by simp [firstOccurrences]
  | a :: l, h => by
    classical
    have hsame : (l.filter fun b => (name b == name a) = false) = l.filter (· ≠ a) := by
      refine List.filter_congr fun b hb => ?_
      have hiff : name b = name a ↔ b = a :=
        ⟨h b (List.mem_cons_of_mem _ hb) a List.mem_cons_self, fun he => he ▸ rfl⟩
      simp [hiff]
    have hrest : ∀ b ∈ l.filter (· ≠ a), ∀ b' ∈ l.filter (· ≠ a), name b = name b' → b = b' :=
      fun b hb b' hb' => h b (List.mem_cons_of_mem _ (List.mem_filter.1 hb).1) b'
        (List.mem_cons_of_mem _ (List.mem_filter.1 hb').1)
    rw [List.eraseDupsBy_cons, hsame, eraseDupsBy_eq_firstOccurrences name hrest,
      firstOccurrences_filter, firstOccurrences]
termination_by l => l.length
decreasing_by exact Nat.lt_succ_of_le (List.length_filter_le _ _)

theorem Sound.union_eq (h : r.Sound) (names : List String) :
    r.union names = firstOccurrences (names.flatMap r.group) := by
  have hmem : ∀ c ∈ names.flatMap r.group, c ∈ r.checks := by
    intro c hc
    obtain ⟨g, -, hg⟩ := List.mem_flatMap.1 hc
    exact (h.mem_group.1 hg).1
  exact eraseDupsBy_eq_firstOccurrences Check.name fun c hc d hd =>
    h.eq_of_name_eq (hmem c hc) (hmem d hd)

/-! ## The whole -/

/-- What `r` has to tell after the calls `cs`. The checks that were taken in are
`empty.taken cs`. -/
structure Answers (cs : List Check) (r : Registry) : Prop where
  unnamed : ∀ c, r.register c = .error .emptyCheckName ↔ c.name = ""
  duplicate : ∀ c, r.register c = .error (.duplicateCheck c.name) ↔
    c.name ≠ "" ∧ ∃ d ∈ empty.taken cs, d.name = c.name
  /-- A call that fails does so for one of these two reasons, and it changes nothing. -/
  refused : ∀ c e, r.register c = .error e →
    (e = .emptyCheckName ∨ e = .duplicateCheck c.name) ∧ r.offer c = (r, some e)
  list : r.checks = empty.taken cs
  distinct : ((empty.taken cs).map (·.name)).Nodup
  /-- Of the checks of a name the first one is got. -/
  get : ∀ n, r.get n =
    match (cs.filter (·.name ≠ "")).find? (·.name == n) with
    | some c => .ok c
    | none => .error (.checkNotFound n)
  size : r.size = ((cs.map (·.name)).toFinset.erase "").card
  groupNames_nodup : r.groupNames.Nodup
  mem_groupNames : ∀ g, g ∈ r.groupNames ↔ ∃ c ∈ empty.taken cs, g ∈ c.groups
  /-- In the order in which they were taken in. -/
  group : ∀ g, r.group g = (empty.taken cs).filter (g ∈ ·.groups)
  union : ∀ names, r.union names =
    firstOccurrences (names.flatMap fun g => (empty.taken cs).filter (g ∈ ·.groups))

/-- **After any sequence of calls** to an empty registry. Every call of such a sequence is
the next one after those before it, so `Answers` tells how it ends as well. -/
theorem answers_offerAll (cs : List Check) : (empty.offerAll cs).Answers cs := by
  have hsound : (empty.offerAll cs).Sound := sound_offerAll cs
  have hchecks : (empty.offerAll cs).checks = empty.taken cs := checks_empty_offerAll cs
  have hgroup : ∀ g, (empty.offerAll cs).group g = (empty.taken cs).filter (g ∈ ·.groups) := by
    intro g
    rw [hsound.filed, hchecks]
  refine ⟨fun c => register_eq_emptyCheckName_iff, fun c => ?_, fun c e he => ?_, hchecks, ?_,
    get_offerAll cs, size_offerAll cs, hsound.keys, fun g => ?_, hgroup, fun names => ?_⟩
  · rw [register_eq_duplicateCheck_iff, hchecks, List.mem_map]
  · exact of_register_eq_error he
  · rw [← hchecks]
    exact hsound.names
  · rw [hsound.occupied, hchecks]
  · rw [hsound.union_eq, funext hgroup]

end Registry

end ClusterAudit
