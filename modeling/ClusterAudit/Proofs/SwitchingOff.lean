/-
What it does to a report that one object switches checks off.

Diagnostics are told apart by the places of the objects they are emitted for
(`Attribution`). No check sees the annotation, so with it on one object each check
emits what it emits without, and only what is emitted for that object has changed, in
that the annotation is copied (`Rule.MadeOf.emissions_annotate`). Hence a report loses
what is emitted for that object by the checks that are named, and nothing else
(`switching_off_exact`).
-/
import ClusterAudit.Proofs.Inspection
import ClusterAudit.Proofs.Provenance

namespace ClusterAudit

theorem map_mapIdx {α β γ : Type} (f : Nat → α → β) (g : β → γ) (l : List α) :
    (l.mapIdx f).map g = l.mapIdx fun i a => g (f i a) := by
  refine List.ext_getElem? fun i => ?_
  rw [List.getElem?_map, List.getElem?_mapIdx, List.getElem?_mapIdx, Option.map_map]
  rfl

theorem mapIdx_const {α β : Type} (f : α → β) (l : List α) : l.mapIdx (fun _ a => f a) = l.map f := by
  refine List.ext_getElem? fun i => ?_
  rw [List.getElem?_mapIdx, List.getElem?_map]

/-! ## Annotating one object -/

/-- The place of an object: its kind, and its position among the objects of that kind. -/
structure Site where
  kind : Kind
  index : Nat
  deriving DecidableEq

/-- With the value `v` for the annotation that switches checks off. -/
def Metadata.marked (v : String) (m : Metadata) : Metadata :=
  { m with annotations := m.annotations.insert Suppression.key v }

theorem Metadata.unmarked_marked (v : String) (m : Metadata) : (m.marked v).unmarked = m.unmarked := by
  rw [unmarked, unmarked, marked, StringMap.erase_insert]

/-- The same on the copy that a diagnostic has of the annotations. -/
def Diagnostic.marked (v : String) (d : Diagnostic) : Diagnostic :=
  { d with subject := { d.subject with annotations := d.subject.annotations.insert Suppression.key v } }

namespace Snapshot

def metadataAt? (s : Snapshot) (x : Site) : Option Metadata :=
  (s.items x.kind)[x.index]?.map x.kind.metadata

/-- `s` with the value `v` for the annotation on the object at `x`. -/
def annotate (s : Snapshot) (x : Site) (v : String) : Snapshot :=
  build
    (fun k => (s.items k).mapIdx fun i o =>
      if Site.mk k i = x then k.mapMetadata (Metadata.marked v) o else o)
    s.systemNamespace s.scope

theorem items_annotate (s : Snapshot) (x : Site) (v : String) (k : Kind) :
    (s.annotate x v).items k = (s.items k).mapIdx fun i o =>
      if Site.mk k i = x then k.mapMetadata (Metadata.marked v) o else o :=
  items_build _ _ _ k

end Snapshot

theorem Kind.unmarked_marked {k : Kind} (v : String) (o : k.Item) :
    k.mapMetadata Metadata.unmarked (k.mapMetadata (Metadata.marked v) o) =
      k.mapMetadata Metadata.unmarked o := by
  rw [mapMetadata_mapMetadata]
  exact congrArg (k.mapMetadata · o) (funext (Metadata.unmarked_marked v))

/-- It does not show once the annotations are erased. -/
theorem Snapshot.unmarked_annotate (s : Snapshot) (x : Site) (v : String) :
    (s.annotate x v).unmarked = s.unmarked := by
  refine Snapshot.ext (fun k => ?_) rfl rfl
  rw [items_unmarked, items_unmarked, items_annotate, map_mapIdx, ← mapIdx_const]
  congr 1
  funext i o
  split
  · rw [Kind.unmarked_marked]
  · rfl

theorem Pass.Blind.faults_eq {p : Pass} (h : p.Blind) {s s' : Snapshot} {o o' : p.kind.Item}
    (hs : s'.unmarked = s.unmarked)
    (ho : p.kind.mapMetadata Metadata.unmarked o' = p.kind.mapMetadata Metadata.unmarked o) :
    p.faults s' o' = p.faults s o := by
  rw [← h s' o', ← h s o, hs, ho]

/-! ## Which object a diagnostic is emitted for -/

/-- A diagnostic, and the place of the object it is emitted for. -/
structure Emission where
  site : Site
  diagnostic : Diagnostic

namespace Emission

/-- The diagnostic is about the object at its place. -/
def SourcedIn (s : Snapshot) (e : Emission) : Prop :=
  e.diagnostic.kind = e.site.kind ∧ ∃ m ∈ s.metadataAt? e.site, e.diagnostic.Carries m

/-- What becomes of the diagnostic if the object at `x` is annotated. -/
def after (x : Site) (v : String) (e : Emission) : Diagnostic :=
  if e.site = x then e.diagnostic.marked v else e.diagnostic

end Emission

namespace Rule

variable {r : Rule} {ps : List Pass} {s : Snapshot}

/-- What the passes `ps` emit under the name of `r`. -/
def emissions (r : Rule) (ps : List Pass) (s : Snapshot) : List Emission :=
  ps.flatMap fun p => ((s.items p.kind).mapIdx fun i o => (p.faults s o).map fun message =>
    ⟨⟨p.kind, i⟩, .about r.name r.severity p.kind (p.kind.metadata o) message⟩).flatten

theorem MadeOf.map_emissions (h : r.MadeOf ps) (s : Snapshot) :
    (r.emissions ps s).map (·.diagnostic) = r.diagnostics s := by
  rw [emissions, diagnostics, h.findings, List.map_flatMap, List.map_flatMap]
  refine List.flatMap_congr fun p _ => ?_
  rw [List.map_flatten, map_mapIdx, Pass.findings, Snapshot.findings, List.map_flatMap,
    List.flatMap_def, ← mapIdx_const]
  simp only [List.map_map]
  rfl

theorem sourcedIn_of_mem_emissions {e : Emission} (he : e ∈ r.emissions ps s) : e.SourcedIn s := by
  obtain ⟨p, -, he⟩ := List.mem_flatMap.1 he
  obtain ⟨l, hl, he⟩ := List.mem_flatten.1 he
  obtain ⟨i, hi, rfl⟩ := List.mem_mapIdx.1 hl
  obtain ⟨message, -, rfl⟩ := List.mem_map.1 he
  refine ⟨rfl, p.kind.metadata (s.items p.kind)[i], ?_, Diagnostic.carries_about _ _ _ _ _⟩
  rw [Option.mem_def, Snapshot.metadataAt?, List.getElem?_eq_getElem hi]
  rfl

/-- **The annotation changes nothing but its copies.** -/
theorem MadeOf.emissions_annotate (h : r.MadeOf ps) (s : Snapshot) (x : Site) (v : String) :
    r.emissions ps (s.annotate x v) = (r.emissions ps s).map fun e => ⟨e.site, e.after x v⟩ := by
  rw [emissions, emissions, List.map_flatMap]
  refine List.flatMap_congr fun p hp => ?_
  rw [List.map_flatten, map_mapIdx, Snapshot.items_annotate, List.mapIdx_mapIdx]
  congr 2
  funext i o
  have hs : (s.annotate x v).unmarked = s.unmarked := s.unmarked_annotate x v
  rw [Function.comp_apply, List.map_map]
  split
  · next hx =>
    have hfaults : p.faults (s.annotate x v) (p.kind.mapMetadata (Metadata.marked v) o) = p.faults s o :=
      (h.blind p hp).faults_eq hs (Kind.unmarked_marked v o)
    rw [hfaults, Kind.metadata_mapMetadata]
    refine List.map_congr_left fun message _ => ?_
    simp only [Function.comp_apply, Emission.after, if_pos hx]
    rfl
  · next hx =>
    have hfaults : p.faults (s.annotate x v) o = p.faults s o := (h.blind p hp).faults_eq hs rfl
    rw [hfaults]
    refine List.map_congr_left fun message _ => ?_
    simp only [Function.comp_apply, Emission.after, if_neg hx]

theorem MadeOf.diagnostics_annotate (h : r.MadeOf ps) (s : Snapshot) (x : Site) (v : String) :
    r.diagnostics (s.annotate x v) = (r.emissions ps s).map (·.after x v) := by
  rw [← h.map_emissions, h.emissions_annotate, List.map_map]
  rfl

end Rule

/-! ## What gets into a report -/

/-- Whether the diagnostic is emitted for the object at `x` by a check that `v` names. -/
def Emission.IsSilenced (x : Site) (v : String) (e : Emission) : Prop :=
  e.site = x ∧ e.diagnostic.check ∈ Suppression.names v

instance (x : Site) (v : String) : DecidablePred (Emission.IsSilenced x v) :=
  fun _ => inferInstanceAs (Decidable (_ ∧ _))

theorem Suppression.suppresses_of_get?_eq_none {subject : Subject} {check : String}
    (h : subject.annotations.get? key = none) : suppresses subject check = false := by
  rw [suppresses, h]

theorem Suppression.suppresses_marked (d : Diagnostic) (v check : String) :
    suppresses (d.marked v).subject check = (names v).contains check := by
  rw [suppresses, Diagnostic.marked, StringMap.get?_insert_self]

namespace Screen

variable {s : Snapshot} {x : Site} {m : Metadata} {e : Emission}

theorem letsIn_after (screen : Screen) (hx : s.metadataAt? x = some m)
    (hm : m.annotations.get? Suppression.key = none) (v : String) (he : e.SourcedIn s) :
    screen.LetsIn (e.after x v) ↔ screen.LetsIn e.diagnostic ∧ ¬ e.IsSilenced x v := by
  by_cases hsite : e.site = x
  · -- The diagnostic has the annotations of the object at `x`, so nothing silenced it before.
    obtain ⟨-, m', hm', hcarries⟩ := he
    rw [hsite, hx, Option.mem_def, Option.some_inj] at hm'
    subst hm'
    have hloud : Suppression.suppresses e.diagnostic.subject e.diagnostic.check = false :=
      Suppression.suppresses_of_get?_eq_none (hcarries.annotations ▸ hm)
    have hafter : e.after x v = e.diagnostic.marked v := if_pos hsite
    have hnames : Suppression.suppresses (e.after x v).subject (e.after x v).check = false ↔
        e.diagnostic.check ∉ Suppression.names v := by
      rw [hafter, Suppression.suppresses_marked, List.contains_eq_mem, decide_eq_false_iff_not]
      rfl
    have hseverity : (e.after x v).severity = e.diagnostic.severity := by
      rw [hafter]
      rfl
    simp only [LetsIn, Emission.IsSilenced, hnames, hseverity, hloud, hsite, true_and]
    exact and_comm
  · have hafter : e.after x v = e.diagnostic := if_neg hsite
    simp only [hafter, Emission.IsSilenced, hsite, false_and, not_false_eq_true, and_true]

end Screen

/-- Whose diagnostics those are that the checks of the catalog emit on `s`. -/
structure Attribution (s : Snapshot) where
  emitted : Check → List Emission
  complete : ∀ c ∈ Checks.catalog, c.run s = .reported ((emitted c).map (·.diagnostic))
  sourced : ∀ c ∈ Checks.catalog, ∀ e ∈ emitted c, e.SourcedIn s

namespace Attribution

/-- One attribution will do for whatever object is annotated, and with what value. -/
theorem exists_of_annotate (s : Snapshot) :
    ∃ a : Attribution s, ∀ c ∈ Checks.catalog, ∀ (x : Site) (v : String),
      c.run (s.annotate x v) = .reported ((a.emitted c).map (·.after x v)) := by
  have hall : ∀ c : Check, ∃ es : List Emission, c ∈ Checks.catalog →
      c.run s = .reported (es.map (·.diagnostic)) ∧ (∀ e ∈ es, e.SourcedIn s) ∧
        ∀ (x : Site) (v : String), c.run (s.annotate x v) = .reported (es.map (·.after x v)) := by
    intro c
    by_cases hc : c ∈ Checks.catalog
    · obtain ⟨r, hr, rfl⟩ := List.mem_map.1 hc
      obtain ⟨ps, hps⟩ := Checks.objectwise_of_mem r hr
      refine ⟨r.emissions ps s, fun _ => ⟨?_, fun e he => r.sourcedIn_of_mem_emissions he, fun x v => ?_⟩⟩
      · rw [Rule.run_check, hps.map_emissions]
      · rw [Rule.run_check, hps.diagnostics_annotate]
    · exact ⟨[], fun h => absurd h hc⟩
  choose emitted hemitted using hall
  exact ⟨⟨emitted, fun c hc => (hemitted c hc).1, fun c hc => (hemitted c hc).2.1⟩,
    fun c hc => (hemitted c hc).2.2⟩

end Attribution

namespace Run

variable {t : Schedule} {s : Snapshot} {checks : List Check} {screen : Screen}

theorem inspect_of_emitted {emitted : Check → List Emission} {f : Emission → Diagnostic}
    (hne : checks ≠ []) (h : ∀ c ∈ checks, c.run s = .reported ((emitted c).map f)) :
    inspect t s checks screen =
      .ok ⟨(((t.finishing checks).flatMap emitted).filter fun e => decide (screen.LetsIn (f e))).map f⟩ := by
  have hperm : (t.finishing checks).Perm checks := t.finishing_perm checks
  have hbatch : (t.finishing checks).flatMap (·.batch s) = ((t.finishing checks).flatMap emitted).map f := by
    rw [List.map_flatMap]
    exact List.flatMap_congr fun c hc => Check.batch_of_reported (h c (hperm.mem_iff.1 hc))
  have hpasses : screen.passes = fun d => decide (screen.LetsIn d) := funext screen.passes_eq
  rw [inspect_eq_ok hne fun c hc => ⟨_, h c hc⟩, hbatch, Report.screened, hpasses, List.filter_map]
  rfl

/-- **Switching checks off for an object is exact and local.** The diagnostics of the
catalog's checks can be told apart by the objects they are emitted for, so that
whatever object without the annotation is given one, with whatever value, the checks
emit what they did, with the annotation copied where it is for that object. Of what was
reported that is left which is not for that object or not of a check that the value
names. -/
theorem switching_off_exact (s : Snapshot) :
    ∃ a : Attribution s, ∀ (x : Site) (m : Metadata) (v : String),
      s.metadataAt? x = some m → m.annotations.get? Suppression.key = none →
        (∀ c ∈ Checks.catalog,
          c.run (s.annotate x v) = .reported ((a.emitted c).map (·.after x v))) ∧
        ∀ (t : Schedule) (checks : List Check) (screen : Screen), checks ≠ [] →
          (∀ c ∈ checks, c ∈ Checks.catalog) →
          ∃ kept : List Emission,
            kept.Perm ((checks.flatMap a.emitted).filter fun e => decide (screen.LetsIn e.diagnostic)) ∧
            inspect t s checks screen = .ok ⟨kept.map (·.diagnostic)⟩ ∧
            inspect t (s.annotate x v) checks screen =
              .ok ⟨(kept.filter fun e => decide (¬ e.IsSilenced x v)).map (·.after x v)⟩ := by
  obtain ⟨a, ha⟩ := Attribution.exists_of_annotate s
  refine ⟨a, fun x m v hx hm => ⟨fun c hc => ha c hc x v, fun t checks screen hne hin => ?_⟩⟩
  have hperm : (t.finishing checks).Perm checks := t.finishing_perm checks
  refine ⟨((t.finishing checks).flatMap a.emitted).filter fun e => decide (screen.LetsIn e.diagnostic),
    (hperm.flatMap_right _).filter _, ?_, ?_⟩
  · exact inspect_of_emitted hne fun c hc => a.complete c (hin c hc)
  · rw [inspect_of_emitted hne fun c hc => ha c (hin c hc) x v, List.filter_filter]
    congr 3
    -- The same diagnostics are screened on both sides, one of them after the annotation.
    refine List.filter_congr fun e he => ?_
    obtain ⟨c, hc, he⟩ := List.mem_flatMap.1 he
    have hsourced : e.SourcedIn s := a.sourced c (hin c (hperm.mem_iff.1 hc)) e he
    rw [Bool.eq_iff_iff, Bool.and_eq_true, decide_eq_true_iff, decide_eq_true_iff, decide_eq_true_iff,
      screen.letsIn_after hx hm v hsourced, and_comm]

/-! ## One of two that look alike -/

def twin : Pod where
  metadata := { name? := some "web", ns := some "prod" }
  spec := some { containers := [{ name := "main", image := some "nginx" }] }

/-- Two bare pods that nothing but their places tells apart. -/
def twins : Snapshot where
  pods := [twin, twin]

def podChecks : List Check := [Checks.barePods.check, Checks.latestTag.check]

theorem switching_off_exact_twins :
    twins.metadataAt? ⟨.pod, 1⟩ = some twin.metadata ∧
      twin.metadata.annotations.get? Suppression.key = none ∧
      (∃ a : Attribution twins, ∃ kept : List Emission,
        kept.Perm ((podChecks.flatMap a.emitted).filter fun e =>
          decide (Screen.LetsIn {} e.diagnostic)) ∧
        inspect .inTurn twins podChecks {} = .ok ⟨kept.map (·.diagnostic)⟩ ∧
        inspect .inTurn (twins.annotate ⟨.pod, 1⟩ "nobody, bare-pods ") podChecks {} =
          .ok ⟨(kept.filter fun e => decide (¬ e.IsSilenced ⟨.pod, 1⟩ "nobody, bare-pods ")).map
            (·.after ⟨.pod, 1⟩ "nobody, bare-pods ")⟩) ∧
      ((inspect .inTurn twins podChecks {}).toOption.map fun r => r.diagnostics.map (·.check)) =
        some ["bare-pods", "bare-pods", "latest-tag", "latest-tag"] ∧
      ((inspect .inTurn (twins.annotate ⟨.pod, 1⟩ "nobody, bare-pods ") podChecks {}).toOption.map
        fun r => r.diagnostics.map (·.check)) = some ["bare-pods", "latest-tag", "latest-tag"] := by
  have hin : ∀ c ∈ podChecks, c ∈ Checks.catalog := by
    simp [podChecks, Checks.catalog, Checks.rules]
  obtain ⟨a, ha⟩ := switching_off_exact twins
  have hboth := ha ⟨.pod, 1⟩ twin.metadata "nobody, bare-pods " rfl rfl
  exact ⟨rfl, rfl, ⟨a, hboth.2 .inTurn podChecks {} (List.cons_ne_nil _ _) hin⟩, by decide, by decide⟩

end Run

end ClusterAudit
