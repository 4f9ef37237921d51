/-
What the rules about single containers report: one diagnostic for each container at fault,
in the order of the containers.

A container is told by its place (`ContainerPlace`), so that containers that look alike are
still several. `Snapshot.placed` goes through all places in their order (`pairwise_placed`)
and leaves none out (`mem_placed_iff`). What a rule reports is read off a part of it
(`reports_filter`), and it could be nothing else (`Reports.unique`).
-/
import Mathlib.Data.List.Sort
import ClusterAudit.Checks.Containers

namespace ClusterAudit

/-! ## Places -/

/-- The position of a pod, whether the container prepares the pod or is one of the others,
and its position among these. -/
structure ContainerPlace where
  pod : Nat
  prepares : Bool
  index : Nat

namespace ContainerPlace

/-- The containers of one pod come before those of the next, and in a pod those that prepare
it come first. -/
inductive Before (x y : ContainerPlace) : Prop where
  | pod (h : x.pod < y.pod)
  | group (hpod : x.pod = y.pod) (hx : x.prepares = true) (hy : y.prepares = false)
  | index (hpod : x.pod = y.pod) (hgroup : x.prepares = y.prepares) (h : x.index < y.index)

theorem Before.asymm {x y : ContainerPlace} (h : x.Before y) : ¬ y.Before x := by
  intro h'
  cases h with
  | pod hpod =>
    cases h' with
    | pod hpod' => exact Nat.lt_asymm hpod hpod'
    | group heq => omega
    | index heq => omega
  | group heq hx hy =>
    cases h' with
    | pod hpod' => omega
    | group _ _ hx' => exact absurd (hx.symm.trans hx') (by decide)
    | index _ hgroup => exact absurd (hx.symm.trans (hgroup.symm.trans hy)) (by decide)
  | index heq hgroup hindex =>
    cases h' with
    | pod hpod' => omega
    | group _ hy hx => exact absurd (hy.symm.trans (hgroup.symm.trans hx)) (by decide)
    | index _ _ hindex' => exact Nat.lt_asymm hindex hindex'

end ContainerPlace

/-- A container with what is around it. -/
structure PlacedContainer where
  pod : Pod
  spec : PodSpec
  container : Container

/-- The containers that prepare the pod, or the others. -/
def PodSpec.group (spec : PodSpec) (prepares : Bool) : List Container :=
  if prepares then spec.initContainers else spec.containers

theorem pairwise_zipIdx {α : Type} (l : List α) : l.zipIdx.Pairwise fun a b => a.2 < b.2 := by
  rw [List.pairwise_iff_getElem]
  intro i j hi hj hij
  simpa using hij

namespace Pod

variable {p : Pod} {i : Nat} {spec : PodSpec} {prepares : Bool} {x : ContainerPlace}
  {c : PlacedContainer}

/-- One group of the containers of the pod at the position `i`. -/
def placedGroup (p : Pod) (i : Nat) (spec : PodSpec) (prepares : Bool) :
    List (ContainerPlace × PlacedContainer) :=
  (spec.group prepares).zipIdx.map fun (c, j) => (⟨i, prepares, j⟩, ⟨p, spec, c⟩)

def placed (p : Pod) (i : Nat) : List (ContainerPlace × PlacedContainer) :=
  p.spec.elim [] fun spec => p.placedGroup i spec true ++ p.placedGroup i spec false

theorem mem_placedGroup_iff :
    (x, c) ∈ p.placedGroup i spec prepares ↔
      x.pod = i ∧ x.prepares = prepares ∧ c.pod = p ∧ c.spec = spec ∧
        (spec.group prepares)[x.index]? = some c.container := by
  obtain ⟨xpod, xprepares, j⟩ := x
  obtain ⟨cpod, cspec, container⟩ := c
  simp only [placedGroup, List.mem_map, Prod.exists, List.mem_zipIdx_iff_getElem?, Prod.mk.injEq,
    ContainerPlace.mk.injEq, PlacedContainer.mk.injEq]
  constructor
  · rintro ⟨c, j, hc, ⟨rfl, rfl, rfl⟩, rfl, rfl, rfl⟩
    exact ⟨rfl, rfl, rfl, rfl, hc⟩
  · rintro ⟨rfl, rfl, rfl, rfl, hc⟩
    exact ⟨container, j, hc, ⟨rfl, rfl, rfl⟩, rfl, rfl, rfl⟩

theorem mem_placed_iff :
    (x, c) ∈ p.placed i ↔ x.pod = i ∧ c.pod = p ∧ p.spec = some c.spec ∧
      (c.spec.group x.prepares)[x.index]? = some c.container := by
  cases hspec : p.spec with
  | none => simp [placed, hspec]
  | some spec =>
    simp only [placed, hspec, Option.elim_some, List.mem_append, mem_placedGroup_iff, Option.some.injEq]
    constructor
    · rintro (⟨hi, hgroup, hp, rfl, hc⟩ | ⟨hi, hgroup, hp, rfl, hc⟩)
      · exact ⟨hi, hp, rfl, hgroup ▸ hc⟩
      · exact ⟨hi, hp, rfl, hgroup ▸ hc⟩
    · rintro ⟨hi, hp, rfl, hc⟩
      cases hgroup : x.prepares with
      | true => exact .inl ⟨hi, rfl, hp, rfl, hgroup ▸ hc⟩
      | false => exact .inr ⟨hi, rfl, hp, rfl, hgroup ▸ hc⟩

theorem pairwise_placedGroup (p : Pod) (i : Nat) (spec : PodSpec) (prepares : Bool) :
    (p.placedGroup i spec prepares).Pairwise fun a b => a.1.Before b.1 := by
  rw [placedGroup, List.pairwise_map]
  refine (pairwise_zipIdx _).imp fun h => ?_
  exact .index rfl rfl h

theorem pairwise_placed (p : Pod) (i : Nat) :
    (p.placed i).Pairwise fun a b => a.1.Before b.1 := by
  cases hspec : p.spec with
  | none => simp [placed, hspec]
  | some spec =>
    simp only [placed, hspec, Option.elim_some]
    refine List.pairwise_append.2 ⟨p.pairwise_placedGroup i spec true,
      p.pairwise_placedGroup i spec false, ?_⟩
    rintro ⟨x, c⟩ hx ⟨y, d⟩ hy
    obtain ⟨hxpod, hxgroup, -⟩ := mem_placedGroup_iff.1 hx
    obtain ⟨hypod, hygroup, -⟩ := mem_placedGroup_iff.1 hy
    exact .group (hxpod.trans hypod.symm) hxgroup hygroup

end Pod

namespace Snapshot

variable {s : Snapshot} {x : ContainerPlace} {c : PlacedContainer}

/-- The container at a place, if there is one. -/
def containerAt? (s : Snapshot) (x : ContainerPlace) : Option PlacedContainer := do
  let pod ← s.pods[x.pod]?
  let spec ← pod.spec
  let container ← (spec.group x.prepares)[x.index]?
  return ⟨pod, spec, container⟩

/-- All containers in the order of their places. -/
def placed (s : Snapshot) : List (ContainerPlace × PlacedContainer) :=
  s.pods.zipIdx.flatMap fun (p, i) => p.placed i

/-- **No container is left out.** -/
theorem mem_placed_iff : (x, c) ∈ s.placed ↔ s.containerAt? x = some c := by
  simp only [placed, List.mem_flatMap, Prod.exists, List.mem_zipIdx_iff_getElem?, Pod.mem_placed_iff,
    containerAt?, Option.bind_eq_bind, Option.bind_eq_some_iff, Option.pure_def, Option.some.injEq]
  constructor
  · rintro ⟨p, i, hp, rfl, rfl, hspec, hc⟩
    exact ⟨c.pod, hp, c.spec, hspec, c.container, hc, rfl⟩
  · rintro ⟨p, hp, spec, hspec, container, hc, rfl⟩
    exact ⟨p, x.pod, hp, rfl, rfl, hspec, hc⟩

/-- **No container comes twice.** -/
theorem pairwise_placed (s : Snapshot) : s.placed.Pairwise fun a b => a.1.Before b.1 := by
  refine List.pairwise_flatMap.2 ⟨fun a _ => a.1.pairwise_placed a.2, ?_⟩
  refine (pairwise_zipIdx s.pods).imp fun {a b} hab => ?_
  rintro ⟨x, c⟩ hx ⟨y, d⟩ hy
  have hxpod : x.pod = a.2 := (Pod.mem_placed_iff.1 hx).1
  have hypod : y.pod = b.2 := (Pod.mem_placed_iff.1 hy).1
  refine .pod ?_
  rw [hxpod, hypod]
  exact hab

/-! ## Containers at fault -/

/-- `ds` reports each container at fault once, in the order of their places, and nothing else. -/
def Reports (s : Snapshot) (AtFault : ContainerPlace → PlacedContainer → Prop)
    (report : PlacedContainer → Diagnostic) (ds : List Diagnostic) : Prop :=
  ∃ found : List (ContainerPlace × PlacedContainer),
    found.Pairwise (fun a b => a.1.Before b.1) ∧
    (∀ x c, (x, c) ∈ found ↔ s.containerAt? x = some c ∧ AtFault x c) ∧
    ds = found.map fun a => report a.2

/-- So there is just one list of such reports. -/
theorem Reports.unique {P : ContainerPlace → PlacedContainer → Prop} {f : PlacedContainer → Diagnostic}
    {ds ds' : List Diagnostic} (h : s.Reports P f ds) (h' : s.Reports P f ds') : ds = ds' := by
  obtain ⟨found, hsorted, hmem, rfl⟩ := h
  obtain ⟨found', hsorted', hmem', rfl⟩ := h'
  have hirrefl : Std.Irrefl fun a b : ContainerPlace × PlacedContainer => a.1.Before b.1 :=
    ⟨fun a hab => hab.asymm hab⟩
  have hantisymm : Std.Antisymm fun a b : ContainerPlace × PlacedContainer => a.1.Before b.1 :=
    ⟨fun a b hab hba => absurd hba hab.asymm⟩
  have hfound : found = found' := by
    refine hsorted.eq_of_mem_iff hsorted' ?_
    rintro ⟨x, c⟩
    rw [hmem, hmem']
  rw [hfound]

theorem Reports.congr {P Q : ContainerPlace → PlacedContainer → Prop}
    {f : PlacedContainer → Diagnostic} {ds : List Diagnostic} (h : s.Reports P f ds)
    (hPQ : ∀ x c, P x c ↔ Q x c) : s.Reports Q f ds := by
  obtain ⟨found, hsorted, hmem, hds⟩ := h
  refine ⟨found, hsorted, fun x c => ?_, hds⟩
  rw [hmem, hPQ]

theorem reports_filter (s : Snapshot) (test : Bool → PlacedContainer → Bool)
    (report : PlacedContainer → Diagnostic) :
    s.Reports (fun x c => test x.prepares c = true) report
      ((s.placed.filter fun a => test a.1.prepares a.2).map fun a => report a.2) := by
  refine ⟨s.placed.filter fun a => test a.1.prepares a.2, s.pairwise_placed.filter _, fun x c => ?_, rfl⟩
  rw [List.mem_filter, mem_placed_iff]

end Snapshot

/-! ## What is found in a pod -/

section

variable {α : Type} (test : Bool → PlacedContainer → Bool) (f : PlacedContainer → α)

theorem map_filter_zipIdx {β : Type} (l : List β) (q : β → Bool) (g : β → α) :
    (l.zipIdx.filter fun a => q a.1).map (fun a => g a.1) = (l.filter q).map g := by
  have hl : l.zipIdx.map Prod.fst = l := List.zipIdx_map_fst 0 l
  calc (l.zipIdx.filter fun a => q a.1).map (fun a => g a.1)
      = ((l.zipIdx.map Prod.fst).filter q).map g := by
        rw [List.filter_map, List.map_map]
        rfl
    _ = (l.filter q).map g := by rw [hl]

theorem Pod.map_filter_placedGroup (p : Pod) (i : Nat) (spec : PodSpec) (prepares : Bool) :
    ((p.placedGroup i spec prepares).filter fun a => test a.1.prepares a.2).map (fun a => f a.2) =
      ((spec.group prepares).filter fun c => test prepares ⟨p, spec, c⟩).map fun c => f ⟨p, spec, c⟩ := by
  rw [placedGroup, List.filter_map, List.map_map]
  exact map_filter_zipIdx (spec.group prepares) (fun c => test prepares ⟨p, spec, c⟩)
    fun c => f ⟨p, spec, c⟩

theorem Pod.map_filter_placed (p : Pod) (i : Nat) :
    ((p.placed i).filter fun a => test a.1.prepares a.2).map (fun a => f a.2) =
      p.spec.elim [] fun spec =>
        (spec.initContainers.filter fun c => test true ⟨p, spec, c⟩).map (fun c => f ⟨p, spec, c⟩) ++
          (spec.containers.filter fun c => test false ⟨p, spec, c⟩).map fun c => f ⟨p, spec, c⟩ := by
  cases hspec : p.spec with
  | none => simp [placed, hspec]
  | some spec =>
    simp only [placed, hspec, Option.elim_some, List.filter_append, List.map_append,
      map_filter_placedGroup]
    rfl

theorem Snapshot.map_filter_placed (s : Snapshot) :
    (s.placed.filter fun a => test a.1.prepares a.2).map (fun a => f a.2) =
      s.pods.flatMap fun p => p.spec.elim [] fun spec =>
        (spec.initContainers.filter fun c => test true ⟨p, spec, c⟩).map (fun c => f ⟨p, spec, c⟩) ++
          (spec.containers.filter fun c => test false ⟨p, spec, c⟩).map fun c => f ⟨p, spec, c⟩ := by
  have hpods : s.pods.zipIdx.map Prod.fst = s.pods := List.zipIdx_map_fst 0 s.pods
  rw [placed, List.filter_flatMap, List.map_flatMap]
  simp only [Pod.map_filter_placed]
  conv =>
    rhs
    rw [← hpods, List.flatMap_map]

end

/-! ## Faults -/

namespace PlacedContainer

/-- A diagnostic about the pod that names the container. -/
def report (check : String) (severity : Severity) (message : String → String) (c : PlacedContainer) :
    Diagnostic :=
  .about check severity .pod c.pod.metadata (message c.container.name)

/-- The container states neither what it requests nor what it is limited to. -/
def LacksNeeds (c : PlacedContainer) : Prop :=
  c.container.resources.requests = ∅ ∧ c.container.resources.limits = ∅

def needsReport : PlacedContainer → Diagnostic :=
  report "resource-requirements" .warning fun name =>
    "Set resource requests and limits for container '" ++ name ++ "' to prevent resource contention"

def IsPrivileged (c : PlacedContainer) : Prop := c.container.security.privileged = some true

def privilegeReport : PlacedContainer → Diagnostic :=
  report "privileged-containers" .warning fun name => "Privileged container '" ++ name ++ "' found"

/-- Nothing keeps the container from running as root: what it says itself counts, and if it says
nothing what its pod says. -/
def MayBeRoot (c : PlacedContainer) : Prop :=
  ¬ (c.container.security.runAsNonRoot = some true ∨
    c.container.security.runAsNonRoot = none ∧ c.spec.runAsNonRoot = some true)

def rootReport : PlacedContainer → Diagnostic :=
  report "non-root-user" .warning fun name => "Container '" ++ name ++ "' can run as root user"

def MayEscalate (c : PlacedContainer) : Prop :=
  c.container.security.allowPrivilegeEscalation ≠ some false

def escalationReport : PlacedContainer → Diagnostic :=
  report "privilege-escalation" .suggestion fun name =>
    "Set allowPrivilegeEscalation to false for container '" ++ name ++ "'"

/-- The pod has an owner, and the container has no probe. -/
def LacksProbes (c : PlacedContainer) : Prop :=
  c.pod.metadata.owners ≠ [] ∧ c.container.hasLivenessProbe = false ∧
    c.container.hasReadinessProbe = false

def probesReport : PlacedContainer → Diagnostic :=
  report "missing-probes" .suggestion fun name =>
    "Container '" ++ name ++ "' has no liveness or readiness probe"

end PlacedContainer

namespace Checks

open PlacedContainer (report needsReport privilegeReport rootReport escalationReport probesReport)

variable {s : Snapshot} {r : Rule}

/-! ## The rules -/

/-- A rule that goes through the containers of a pod, group by group. -/
theorem reports_of_groups (test : Bool → PlacedContainer → Bool) (message : String → String)
    {faults : Pod → List String} (hr : r.findings s = s.findings .pod faults)
    (hfaults : ∀ p : Pod, faults p = p.spec.elim [] fun spec =>
      (spec.initContainers.filter fun c => test true ⟨p, spec, c⟩).map (fun c => message c.name) ++
        (spec.containers.filter fun c => test false ⟨p, spec, c⟩).map fun c => message c.name) :
    s.Reports (fun x c => test x.prepares c = true) (report r.name r.severity message)
      (r.diagnostics s) := by
  have hplaced := s.map_filter_placed test (report r.name r.severity message)
  have hdiagnostics : r.diagnostics s =
      (s.placed.filter fun a => test a.1.prepares a.2).map fun a =>
        report r.name r.severity message a.2 := by
    rw [hplaced, Rule.diagnostics, hr, Snapshot.findings, List.map_flatMap]
    refine List.flatMap_congr fun p _ => ?_
    rw [hfaults]
    cases p.spec with
    | none => rfl
    | some spec =>
      simp only [Option.elim_some, List.map_append, List.map_map]
      rfl
  rw [hdiagnostics]
  exact s.reports_filter test (report r.name r.severity message)

/-- A rule that looks at all containers alike. -/
theorem reports_of_containerFindings {atFault : PodSpec → Container → Bool} (message : String → String)
    (hr : r.findings s = containerFindings s atFault fun c => message c.name) :
    s.Reports (fun _ c => atFault c.spec c.container = true) (report r.name r.severity message)
      (r.diagnostics s) := by
  refine reports_of_groups (fun _ c => atFault c.spec c.container) message hr fun p => ?_
  cases p.spec with
  | none => rfl
  | some spec =>
    simp only [Option.elim_some, containerFaults, PodSpec.allContainers, List.filter_append,
      List.map_append]

theorem reports_resourceRequirements (s : Snapshot) :
    s.Reports (fun _ c => c.LacksNeeds) needsReport (resourceRequirements.diagnostics s) := by
  refine (reports_of_containerFindings _ rfl).congr fun x c => ?_
  rw [Bool.and_eq_true, StringMap.isEmpty_iff, StringMap.isEmpty_iff, PlacedContainer.LacksNeeds]

theorem reports_privilegedContainers (s : Snapshot) :
    s.Reports (fun _ c => c.IsPrivileged) privilegeReport (privilegedContainers.diagnostics s) := by
  refine (reports_of_containerFindings _ rfl).congr fun x c => ?_
  rw [beq_iff_eq, PlacedContainer.IsPrivileged]

theorem reports_nonRootUser (s : Snapshot) :
    s.Reports (fun _ c => c.MayBeRoot) rootReport (nonRootUser.diagnostics s) := by
  refine (reports_of_containerFindings _ rfl).congr fun x c => ?_
  rw [Bool.not_eq_true', ← Bool.not_eq_true, PlacedContainer.MayBeRoot, runsAsNonRoot]
  cases c.container.security.runAsNonRoot with
  | none => simp
  | some b => simp

theorem reports_privilegeEscalation (s : Snapshot) :
    s.Reports (fun _ c => c.MayEscalate) escalationReport (privilegeEscalation.diagnostics s) := by
  refine (reports_of_containerFindings _ rfl).congr fun x c => ?_
  rw [bne_iff_ne, PlacedContainer.MayEscalate]

/-- The one rule that passes over pods, and over the containers that prepare them. -/
theorem reports_missingProbes (s : Snapshot) :
    s.Reports (fun x c => x.prepares = false ∧ c.LacksProbes) probesReport
      (missingProbes.diagnostics s) := by
  have hreports := reports_of_groups (s := s) (r := missingProbes)
    (fun prepares c => !prepares && (!c.pod.metadata.owners.isEmpty &&
      (!c.container.hasLivenessProbe && !c.container.hasReadinessProbe)))
    (fun name => "Container '" ++ name ++ "' has no liveness or readiness probe") rfl ?_
  · refine hreports.congr fun x c => ?_
    simp [PlacedContainer.LacksProbes]
  · intro p
    cases p.spec with
    | none => simp
    | some spec =>
      cases howners : p.metadata.owners.isEmpty with
      | true => simp [List.isEmpty_iff.1 howners]
      | false => simp [howners, containerFaults]

/-- **Each container is looked at once.** Every container at fault is reported, the containers
in the order of their pods and in a pod those first that prepare it; no other container is. -/
theorem containers_reported_once (s : Snapshot) :
    s.Reports (fun _ c => c.LacksNeeds) needsReport (resourceRequirements.diagnostics s) ∧
    s.Reports (fun _ c => c.IsPrivileged) privilegeReport (privilegedContainers.diagnostics s) ∧
    s.Reports (fun _ c => c.MayBeRoot) rootReport (nonRootUser.diagnostics s) ∧
    s.Reports (fun _ c => c.MayEscalate) escalationReport (privilegeEscalation.diagnostics s) ∧
    s.Reports (fun x c => x.prepares = false ∧ c.LacksProbes) probesReport
      (missingProbes.diagnostics s) :=
  ⟨reports_resourceRequirements s, reports_privilegedContainers s, reports_nonRootUser s,
    reports_privilegeEscalation s, reports_missingProbes s⟩

/-- The container that says nothing is spoken for by its pod. -/
example :
    (nonRootUser.diagnostics { pods := [{
      spec := some {
        runAsNonRoot := some true
        initContainers := [{ name := "migrate", security := { runAsNonRoot := some false } }]
        containers := [{ name := "web" }] } }] }).map (·.message) =
      ["Container 'migrate' can run as root user"] := by
  decide

end Checks

end ClusterAudit
