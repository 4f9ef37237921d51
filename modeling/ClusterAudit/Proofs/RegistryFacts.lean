/-
What holds of every registry that was filled by registering checks: its names
are there once, and its groups say just what the checks themselves say
(`Sound`, kept by `offer`).

What a selection takes from such a registry are those of its checks that it means,
none of them twice (`Selection.mem_resolve_iff`, `Selection.nodup_resolve`).
-/
import Mathlib.Data.List.Induction
import Mathlib.Data.List.Nodup
import ClusterAudit.Checks.Catalog
import ClusterAudit.Selection

namespace ClusterAudit

namespace Registry

variable {r r' : Registry} {c : Check}

/-- A registry whose two tables agree. -/
structure Sound (r : Registry) : Prop where
  /-- No name is there twice. -/
  names : (r.checks.map (·.name)).Nodup
  named : ∀ c ∈ r.checks, c.name ≠ ""
  /-- A group holds the checks that name it, in the order they came in. -/
  filed : ∀ g, r.group g = r.checks.filter (g ∈ ·.groups)
  /-- No group is there twice. -/
  keys : r.groupNames.Nodup
  occupied : ∀ g, g ∈ r.groupNames ↔ ∃ c ∈ r.checks, g ∈ c.groups

theorem sound_empty : Sound empty where
  names := by simp [empty]
  named := by simp [empty]
  filed := fun g => by simp [empty, group]
  keys := by simp [empty, groupNames, Index.keys]
  occupied := by simp [empty, groupNames, Index.keys]

theorem isSome_find? (r : Registry) (name : String) :
    (r.find? name).isSome = true ↔ name ∈ r.checks.map (·.name) := by
  simp [find?]

/-! ## One attempt -/

theorem offer_of_unnamed (h : c.name = "") : r.offer c = (r, some .emptyCheckName) := by
  rw [offer, if_pos h]

theorem offer_of_taken (hname : c.name ≠ "") (h : c.name ∈ r.checks.map (·.name)) :
    r.offer c = (r, some (.duplicateCheck c.name)) := by
  rw [offer, if_neg hname, if_pos ((isSome_find? r c.name).2 h)]

theorem offer_of_free (hname : c.name ≠ "") (h : c.name ∉ r.checks.map (·.name)) :
    r.offer c = (r.add c, none) := by
  rw [offer, if_neg hname, if_neg (mt (isSome_find? r c.name).1 h)]

/-- All that an attempt can come to. -/
theorem offer_cases (r : Registry) (c : Check) :
    (c.name = "" ∧ r.offer c = (r, some .emptyCheckName)) ∨
    (c.name ≠ "" ∧ c.name ∈ r.checks.map (·.name) ∧ r.offer c = (r, some (.duplicateCheck c.name))) ∨
    (c.name ≠ "" ∧ c.name ∉ r.checks.map (·.name) ∧ r.offer c = (r.add c, none)) := by
  by_cases hname : c.name = ""
  · exact .inl ⟨hname, offer_of_unnamed hname⟩
  · by_cases htaken : c.name ∈ r.checks.map (·.name)
    · exact .inr (.inl ⟨hname, htaken, offer_of_taken hname htaken⟩)
    · exact .inr (.inr ⟨hname, htaken, offer_of_free hname htaken⟩)

/-! ## Filing a check under its groups -/

theorem fileUnder_eq (groups : Index Check) (g : String) :
    fileUnder groups c g =
      if ∃ d ∈ groups.get g, d.name = c.name then groups else groups.add g c := by
  simp [fileUnder]

/-- A check that is new to an index goes to the end of each of its groups, once. -/
theorem get_foldl_fileUnder {ix : Index Check} (hnew : ∀ g, ∀ d ∈ ix.get g, d.name ≠ c.name)
    (gs : List String) (g : String) :
    (gs.foldl (fileUnder · c) ix).get g = ix.get g ++ if g ∈ gs then [c] else [] := by
  induction gs using List.reverseRecOn generalizing g with
  | nil => simp
  | append_singleton gs g' ih =>
    rw [List.foldl_append, List.foldl_cons, List.foldl_nil, fileUnder_eq]
    by_cases hg' : g' ∈ gs
    · have hfiled : ∃ d ∈ (gs.foldl (fileUnder · c) ix).get g', d.name = c.name :=
        ⟨c, by simp [ih, hg'], rfl⟩
      have hmem : g ∈ gs ++ [g'] ↔ g ∈ gs := by
        simp only [List.mem_append, List.mem_singleton, or_iff_left_iff_imp]
        rintro rfl
        exact hg'
      rw [if_pos hfiled, ih]
      simp only [hmem]
    · have hfree : ¬ ∃ d ∈ (gs.foldl (fileUnder · c) ix).get g', d.name = c.name := by
        rintro ⟨d, hd, hname⟩
        exact hnew g' d (by simpa [ih, hg'] using hd) hname
      rw [if_neg hfree]
      by_cases hgg : g = g'
      · subst hgg
        simp [Index.get_add_self, ih, hg']
      · simp [Index.get_add_of_ne _ _ (Ne.symm hgg), ih, hgg]

/-- What filing a check does to the keys. -/
theorem keys_fileUnder (ix : Index Check) (g : String) :
    (fileUnder ix c g).keys = if g ∈ ix.keys then ix.keys else ix.keys ++ [g] := by
  rw [fileUnder_eq]
  split
  · next hfiled =>
    obtain ⟨d, hd, -⟩ := hfiled
    rw [if_pos (Index.mem_keys_of_mem_get hd)]
  · rw [Index.keys_add]

theorem mem_keys_foldl_fileUnder {ix : Index Check} {gs : List String} {g : String} :
    g ∈ Index.keys (gs.foldl (fileUnder · c) ix) ↔ g ∈ Index.keys ix ∨ g ∈ gs := by
  induction gs generalizing ix with
  | nil => simp
  | cons g' gs ih =>
    have hstep : g ∈ (fileUnder ix c g').keys ↔ g ∈ ix.keys ∨ g = g' := by
      rw [keys_fileUnder]
      split
      · next hkey => exact ⟨.inl, fun h => h.elim id fun hg => hg ▸ hkey⟩
      · simp
    rw [List.foldl_cons, ih, hstep, List.mem_cons, or_assoc]

theorem nodup_keys_foldl_fileUnder {ix : Index Check} (h : ix.keys.Nodup) (gs : List String) :
    (Index.keys (gs.foldl (fileUnder · c) ix)).Nodup := by
  induction gs generalizing ix with
  | nil => exact h
  | cons g gs ih =>
    refine ih ?_
    rw [keys_fileUnder]
    split
    · exact h
    · next hkey =>
      refine List.nodup_append.2 ⟨h, by simp, fun x hx y hy hxy => hkey ?_⟩
      rwa [← List.mem_singleton.1 hy, ← hxy]

/-! ## What registering keeps -/

theorem Sound.mem_group (h : r.Sound) {g : String} : c ∈ r.group g ↔ c ∈ r.checks ∧ g ∈ c.groups := by
  rw [h.filed, List.mem_filter, decide_eq_true_eq]

theorem Sound.add (h : r.Sound) (hname : c.name ≠ "") (hfree : c.name ∉ r.checks.map (·.name)) :
    (r.add c).Sound := by
  have hnew : ∀ g, ∀ d ∈ r.groups.get g, d.name ≠ c.name := by
    rintro g d hd heq
    refine hfree ?_
    rw [← heq]
    exact List.mem_map_of_mem (h.mem_group.1 hd).1
  refine ⟨?_, ?_, fun g => ?_, nodup_keys_foldl_fileUnder h.keys _, fun g => ?_⟩
  · rw [Registry.add, List.map_append, List.nodup_append]
    refine ⟨h.names, by simp, fun x hx y hy hxy => hfree ?_⟩
    have hyc : y = c.name := List.mem_singleton.1 hy
    rwa [← hyc, ← hxy]
  · simpa [Registry.add, or_imp, forall_and] using ⟨h.named, hname⟩
  · rw [group, Registry.add, get_foldl_fileUnder hnew, List.filter_append, ← h.filed, group]
    by_cases hg : g ∈ c.groups <;> simp [hg]
  · rw [groupNames, Registry.add, mem_keys_foldl_fileUnder, ← groupNames, h.occupied]
    simp [or_and_right, exists_or]

/-- **One attempt**, whether it succeeds or not. -/
theorem Sound.offer (h : r.Sound) (c : Check) : (r.offer c).1.Sound := by
  rcases offer_cases r c with ⟨-, heq⟩ | ⟨-, -, heq⟩ | ⟨hname, hfree, heq⟩
  · rwa [heq]
  · rwa [heq]
  · rw [heq]
    exact h.add hname hfree

/-- **A whole sequence of them**, to its end or to the first that is refused. -/
theorem Sound.registerAll (h : r.Sound) (cs : List Check) : (r.registerAll cs).1.Sound := by
  induction cs generalizing r with
  | nil => exact h
  | cons c cs ih =>
    have hone : (r.offer c).1.Sound := h.offer c
    rw [Registry.registerAll]
    split
    · next r' hr => exact ih (by rwa [hr] at hone)
    · next r' e hr => rwa [hr] at hone

/-- Nothing is refused if all names are new. -/
theorem registerAll_of_nodup {cs : List Check} (hnamed : ∀ c ∈ cs, c.name ≠ "")
    (hn : ((r.checks ++ cs).map (·.name)).Nodup) :
    (r.registerAll cs).2 = none ∧ (r.registerAll cs).1.checks = r.checks ++ cs := by
  induction cs generalizing r with
  | nil => simp [registerAll]
  | cons c cs ih =>
    have hfree : c.name ∉ r.checks.map (·.name) := by
      rw [List.map_append, List.nodup_append] at hn
      exact fun hm => hn.2.2 _ hm _ (by simp) rfl
    rw [List.append_cons] at hn ⊢
    rw [registerAll, offer_of_free (hnamed c (by simp)) hfree]
    exact ih (fun d hd => hnamed d (by simp [hd])) hn

/-! ## Selecting -/

theorem eraseDupsBy_sublist {α : Type} (same : α → α → Bool) :
    ∀ l : List α, (l.eraseDupsBy same).Sublist l
  | [] => by simp
  | a :: l => by
    rw [List.eraseDupsBy_cons]
    exact ((eraseDupsBy_sublist same _).trans List.filter_sublist).cons_cons a
termination_by l => l.length
decreasing_by exact Nat.lt_succ_of_le (List.length_filter_le _ _)

theorem nodup_map_eraseDupsBy {α : Type} (name : α → String) :
    ∀ l : List α, ((l.eraseDupsBy fun a b => name a == name b).map name).Nodup
  | [] => by simp
  | a :: l => by
    rw [List.eraseDupsBy_cons, List.map_cons, List.nodup_cons]
    refine ⟨fun hm => ?_, nodup_map_eraseDupsBy name _⟩
    obtain ⟨b, hb, hname⟩ := List.mem_map.1 hm
    have hother := (List.mem_filter.1 ((eraseDupsBy_sublist _ _).subset hb)).2
    simp [hname] at hother
termination_by l => l.length
decreasing_by exact Nat.lt_succ_of_le (List.length_filter_le _ _)

/-- Of elements of one name the first stays. -/
theorem exists_mem_eraseDupsBy {α : Type} (name : α → String) {a : α} :
    ∀ {l : List α}, a ∈ l → ∃ b ∈ l.eraseDupsBy (fun a b => name a == name b), name b = name a
  | b :: l, ha => by
    rw [List.eraseDupsBy_cons]
    by_cases hname : name b = name a
    · exact ⟨b, by simp, hname⟩
    · have ha : a ∈ l.filter fun c => (name c == name b) = false := by
        rcases List.mem_cons.1 ha with rfl | ha
        · exact absurd rfl hname
        · simp [ha, Ne.symm hname]
      obtain ⟨c, hc, hname⟩ := exists_mem_eraseDupsBy name ha
      exact ⟨c, List.mem_cons_of_mem _ hc, hname⟩
termination_by l => l.length
decreasing_by exact Nat.lt_succ_of_le (List.length_filter_le _ _)

theorem nodup_union (names : List String) : ((r.union names).map (·.name)).Nodup :=
  nodup_map_eraseDupsBy Check.name _

theorem Sound.eq_of_name_eq (h : r.Sound) {d : Check} (hc : c ∈ r.checks) (hd : d ∈ r.checks)
    (hname : c.name = d.name) : c = d :=
  List.inj_on_of_nodup_map h.names hc hd hname

theorem Sound.mem_union (h : r.Sound) {names : List String} :
    c ∈ r.union names ↔ c ∈ r.checks ∧ ∃ g ∈ names, g ∈ c.groups := by
  have hall : ∀ {d}, d ∈ names.flatMap r.group ↔ d ∈ r.checks ∧ ∃ g ∈ names, g ∈ d.groups := by
    intro d
    simp only [List.mem_flatMap, h.mem_group]
    exact ⟨fun ⟨g, hg, hd, hgd⟩ => ⟨hd, g, hg, hgd⟩, fun ⟨hd, g, hg, hgd⟩ => ⟨g, hg, hd, hgd⟩⟩
  constructor
  · exact fun hc => hall.1 ((eraseDupsBy_sublist _ _).subset hc)
  · intro hc
    obtain ⟨d, hd, hname⟩ := exists_mem_eraseDupsBy Check.name (hall.2 hc)
    have hdc : d = c := h.eq_of_name_eq (hall.1 ((eraseDupsBy_sublist _ _).subset hd)).1 hc.1 hname
    rwa [hdc] at hd

end Registry

namespace Selection

variable {r : Registry} {c : Check} (s : Selection)

/-- Whether `s` means `c`, by what `c` says of itself. -/
def Means (s : Selection) (c : Check) : Prop :=
  (s.groups.isAll = true ∨ ∃ g ∈ c.groups, s.groups.admits g = true) ∧ s.checks.admits c.name = true

theorem mem_byGroup_iff (h : r.Sound) :
    c ∈ s.byGroup r ↔
      c ∈ r.checks ∧ (s.groups.isAll = true ∨ ∃ g ∈ c.groups, s.groups.admits g = true) := by
  unfold byGroup
  split
  · next hall => simp [hall]
  · next hall =>
    split
    · have hkey : ∀ g ∈ c.groups, c ∈ r.checks → g ∈ r.groupNames := fun g hg hc =>
        (h.occupied g).2 ⟨c, hc, hg⟩
      simp only [h.mem_union, List.mem_filter, hall]
      grind
    · next hsome =>
      have hadmits : ∀ g, s.groups.admits g = true ↔ g ∈ s.groups.included := fun g => by
        simp [Choice.admits, hsome]
      simp only [h.mem_union, hall, hadmits]
      grind

theorem mem_resolve_iff (h : r.Sound) : c ∈ s.resolve r ↔ c ∈ r.checks ∧ s.Means c := by
  rw [resolve, List.mem_filter, s.mem_byGroup_iff h, Means, and_assoc]

/-- **No check is selected twice.** -/
theorem nodup_resolve (h : r.Sound) : ((s.resolve r).map (·.name)).Nodup := by
  have hgroup : ((s.byGroup r).map (·.name)).Nodup := by
    unfold byGroup
    split
    · exact h.names
    · split <;> exact Registry.nodup_union _
  exact hgroup.sublist (List.filter_sublist.map _)

/-- The order in which the checks were registered changes nothing but the order
in which they are selected. -/
theorem perm_resolve {r' : Registry} (h : r.Sound) (h' : r'.Sound) (hp : r'.checks.Perm r.checks) :
    (s.resolve r').Perm (s.resolve r) := by
  refine (List.perm_ext_iff_of_nodup ?_ ?_).2 fun c => ?_
  · exact (s.nodup_resolve h').of_map _
  · exact (s.nodup_resolve h).of_map _
  · rw [s.mem_resolve_iff h, s.mem_resolve_iff h', hp.mem_iff]

end Selection

namespace Checks

variable {checks : List Check}

/-- The registry that the program starts with. -/
def registry : Registry := (Registry.empty.registerAll catalog).1

theorem name_ne_empty_of_mem_catalog {c : Check} (hc : c ∈ catalog) : c.name ≠ "" := by
  obtain ⟨rule, hrule, rfl⟩ := List.mem_map.1 hc
  exact name_ne_empty hrule

theorem nodup_name_catalog : (catalog.map (·.name)).Nodup := by
  rw [name_catalog]
  exact nodup_name_rules

/-- Nothing of the catalog is refused, in whatever order it is registered. -/
theorem registerAll_of_perm (hp : checks.Perm catalog) :
    (Registry.empty.registerAll checks).2 = none ∧
      (Registry.empty.registerAll checks).1.checks = checks := by
  have hnamed : ∀ c ∈ checks, c.name ≠ "" := fun c hc =>
    name_ne_empty_of_mem_catalog (hp.mem_iff.1 hc)
  have hn : (checks.map (·.name)).Nodup := (hp.map _).nodup_iff.2 nodup_name_catalog
  exact Registry.registerAll_of_nodup (r := .empty) hnamed hn

theorem sound_registry : registry.Sound := Registry.sound_empty.registerAll catalog

theorem checks_registry : registry.checks = catalog := (registerAll_of_perm (.refl _)).2

end Checks

end ClusterAudit
