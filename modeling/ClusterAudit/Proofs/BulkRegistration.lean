/-
Registering many checks at once, in a registry that holds others already.

The first check whose name is taken stops it, and those before it stay (`TakesIn`). So the
whole catalog is registered or only a part of it, and neither can be done a second time.
-/
import ClusterAudit.Proofs.RegisterCalls

namespace ClusterAudit

namespace Registry

variable {r r' : Registry} {c : Check} {cs ds : List Check}

/-- `r'` holds what `r` does, and then `cs`: among all checks and in each of their groups. -/
structure GrowsBy (r : Registry) (cs : List Check) (r' : Registry) : Prop where
  checks : r'.checks = r.checks ++ cs
  group : ∀ g, r'.group g = r.group g ++ cs.filter (g ∈ ·.groups)
  mem_groupNames : ∀ g, g ∈ r'.groupNames ↔ g ∈ r.groupNames ∨ ∃ c ∈ cs, g ∈ c.groups

/-- What becomes of `r` when `cs` are registered one after the other. -/
structure TakesIn (r : Registry) (cs : List Check) : Prop where
  succeeds_iff : (r.registerAll cs).2 = none ↔ ∀ c ∈ cs, c.name ∉ r.checks.map (·.name)
  succeeded : (r.registerAll cs).2 = none → r.GrowsBy cs (r.registerAll cs).1
  /-- The first name that is taken is to blame. -/
  failed : ∀ e, (r.registerAll cs).2 = some e →
    ∃ before c after, cs = before ++ c :: after ∧ e = .duplicateCheck c.name ∧
      c.name ∈ r.checks.map (·.name) ∧ (∀ b ∈ before, b.name ∉ r.checks.map (·.name)) ∧
      r.GrowsBy before (r.registerAll cs).1
  /-- However it ended, the first of `cs` is there now. -/
  again : ∃ c ∈ cs.head?, (r.registerAll cs).1.registerAll cs =
    ((r.registerAll cs).1, some (.duplicateCheck c.name))

/-- Two registries whose tables agree, one with more checks than the other. -/
theorem Sound.growsBy (h : r.Sound) (h' : r'.Sound) (hchecks : r'.checks = r.checks ++ cs) :
    r.GrowsBy cs r' where
  checks := hchecks
  group := fun g => by rw [h'.filed, h.filed, hchecks, List.filter_append]
  mem_groupNames := fun g => by
    rw [h'.occupied, h.occupied, hchecks]
    simp only [List.mem_append, or_and_right, exists_or]

theorem registerAll_append (h : (r.registerAll cs).2 = none) :
    r.registerAll (cs ++ ds) = (r.registerAll cs).1.registerAll ds := by
  induction cs generalizing r with
  | nil => rfl
  | cons c cs ih =>
    simp only [List.cons_append, registerAll] at h ⊢
    split
    · next r' hr =>
      simp only [hr] at h ⊢
      exact ih h
    · next r' e hr =>
      simp only [hr] at h
      cases h

/-- A name that is taken stops it at once. -/
theorem registerAll_cons_of_taken (hname : c.name ≠ "") (htaken : c.name ∈ r.checks.map (·.name)) :
    r.registerAll (c :: cs) = (r, some (.duplicateCheck c.name)) := by
  rw [registerAll, offer_of_taken hname htaken]

/-- Registering checks whose names are neither taken nor repeated. -/
theorem registerAll_of_free (h : r.Sound) (hnamed : ∀ c ∈ cs, c.name ≠ "")
    (hn : (cs.map (·.name)).Nodup) (hfree : ∀ c ∈ cs, c.name ∉ r.checks.map (·.name)) :
    (r.registerAll cs).2 = none ∧ r.GrowsBy cs (r.registerAll cs).1 := by
  have hall : ((r.checks ++ cs).map (·.name)).Nodup := by
    rw [List.map_append, List.nodup_append]
    refine ⟨h.names, hn, fun x hx y hy hxy => ?_⟩
    obtain ⟨c, hc, rfl⟩ := List.mem_map.1 hy
    exact hfree c hc (hxy ▸ hx)
  obtain ⟨hdone, hchecks⟩ := registerAll_of_nodup hnamed hall
  exact ⟨hdone, h.growsBy (h.registerAll cs) hchecks⟩

/-- What comes after a taken name is not looked at. -/
theorem registerAll_of_taken (h : r.Sound) (hnamed : ∀ b ∈ cs ++ c :: ds, b.name ≠ "")
    (hn : ((cs ++ c :: ds).map (·.name)).Nodup) (hfree : ∀ b ∈ cs, b.name ∉ r.checks.map (·.name))
    (htaken : c.name ∈ r.checks.map (·.name)) :
    (r.registerAll (cs ++ c :: ds)).2 = some (.duplicateCheck c.name) ∧
      r.GrowsBy cs (r.registerAll (cs ++ c :: ds)).1 := by
  have hbefore : (cs.map (·.name)).Nodup := by
    rw [List.map_append] at hn
    exact hn.of_append_left
  obtain ⟨hdone, hgrows⟩ :=
    registerAll_of_free h (fun b hb => hnamed b (List.mem_append_left _ hb)) hbefore hfree
  have htaken' : c.name ∈ (r.registerAll cs).1.checks.map (·.name) := by
    rw [hgrows.checks, List.map_append]
    exact List.mem_append_left _ htaken
  rw [registerAll_append hdone, registerAll_cons_of_taken (hnamed c (by simp)) htaken']
  exact ⟨rfl, hgrows⟩

theorem GrowsBy.name_mem (h : r.GrowsBy cs r') (hc : c ∈ cs ∨ c.name ∈ r.checks.map (·.name)) :
    c.name ∈ r'.checks.map (·.name) := by
  rw [h.checks, List.map_append, List.mem_append]
  exact hc.elim (fun hc => .inr (List.mem_map_of_mem hc)) .inl

theorem takesIn_of_free (h : r.Sound) (hnamed : ∀ c ∈ cs, c.name ≠ "") (hn : (cs.map (·.name)).Nodup)
    (hc : c ∈ cs.head?) (hfree : ∀ c ∈ cs, c.name ∉ r.checks.map (·.name)) : r.TakesIn cs := by
  obtain ⟨hdone, hgrows⟩ := registerAll_of_free h hnamed hn hfree
  refine ⟨iff_of_true hdone hfree, fun _ => hgrows, fun e he => ?_, c, hc, ?_⟩
  · rw [hdone] at he
    cases he
  · have hmem : c ∈ cs := List.mem_of_mem_head? hc
    obtain ⟨rest, rfl⟩ := List.head?_eq_some_iff.1 hc
    exact registerAll_cons_of_taken (hnamed c hmem) (hgrows.name_mem (.inl hmem))

theorem takesIn_of_taken {first : Check} (h : r.Sound) (hnamed : ∀ b ∈ cs ++ c :: ds, b.name ≠ "")
    (hn : ((cs ++ c :: ds).map (·.name)).Nodup) (hfirst : first ∈ (cs ++ c :: ds).head?)
    (hfree : ∀ b ∈ cs, b.name ∉ r.checks.map (·.name)) (htaken : c.name ∈ r.checks.map (·.name)) :
    r.TakesIn (cs ++ c :: ds) := by
  obtain ⟨hfailed, hgrows⟩ := registerAll_of_taken h hnamed hn hfree htaken
  refine ⟨iff_of_false ?_ ?_, fun hdone => ?_, fun e he => ?_, first, hfirst, ?_⟩
  · simp [hfailed]
  · exact fun hall => hall c (by simp) htaken
  · rw [hfailed] at hdone
    cases hdone
  · rw [hfailed] at he
    cases he
    exact ⟨cs, c, ds, rfl, rfl, htaken, hfree, hgrows⟩
  · -- It was registered, or it is the one whose name was taken.
    have hthere : first ∈ cs ∨ first.name ∈ r.checks.map (·.name) := by
      cases cs with
      | nil =>
        obtain rfl : c = first := by simpa using hfirst
        exact .inr htaken
      | cons b cs =>
        obtain rfl : b = first := by simpa using hfirst
        exact .inl List.mem_cons_self
    have hname : first.name ≠ "" := hnamed first (List.mem_of_mem_head? hfirst)
    obtain ⟨rest, hrest⟩ := List.head?_eq_some_iff.1 hfirst
    rw [hrest] at hgrows ⊢
    exact registerAll_cons_of_taken hname (hgrows.name_mem hthere)

/-- Checks of different names are registered up to the first whose name is taken. -/
theorem Sound.takesIn (h : r.Sound) (hne : cs ≠ []) (hnamed : ∀ c ∈ cs, c.name ≠ "")
    (hn : (cs.map (·.name)).Nodup) : r.TakesIn cs := by
  have hfirst : cs.head hne ∈ cs.head? := by rw [List.head?_eq_some_head hne, Option.mem_some_iff]
  cases hfound : cs.find? fun c => c.name ∈ r.checks.map (·.name) with
  | none =>
    have hfree : ∀ c ∈ cs, c.name ∉ r.checks.map (·.name) := by
      simpa only [List.find?_eq_none, decide_eq_true_eq] using hfound
    exact takesIn_of_free h hnamed hn hfirst hfree
  | some c =>
    obtain ⟨htaken, before, after, rfl, hfree⟩ := List.find?_eq_some_iff_append.1 hfound
    simp only [decide_eq_true_eq, Bool.not_eq_true', decide_eq_false_iff_not] at htaken hfree
    exact takesIn_of_taken h hnamed hn hfirst hfree htaken

end Registry

namespace Checks

/-- **Registering the whole catalog**, after any calls to an empty registry. -/
theorem catalog_taken_in (calls : List Check) : (Registry.empty.offerAll calls).TakesIn catalog := by
  have hne : catalog ≠ [] := by simp [catalog, rules]
  have hnamed : ∀ c ∈ catalog, c.name ≠ "" := fun _ hc => name_ne_empty_of_mem_catalog hc
  exact (Registry.sound_offerAll calls).takesIn hne hnamed nodup_name_catalog

end Checks

end ClusterAudit
