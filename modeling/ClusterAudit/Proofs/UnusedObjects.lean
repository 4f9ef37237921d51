/-
Which objects are reported as unused: those that nothing refers to.

`Snapshot.RefersTo` says what a reference is, one way of referring at a time and without
a list of what is used. The rules look objects up in such lists, which hold just what is
referred to (`refersTo_iff`). So what they report is the complement of the relation
(`unused_are_the_unreferenced`).
-/
import ClusterAudit.Proofs.References

namespace ClusterAudit

open Checks (unusedConfigMap unusedSecret unusedClaim)

/-! ## References of pods -/

/-- The pods of the specification refer to an object of the kind, in their own namespace,
by its name. -/
inductive PodSpec.RefersTo (spec : PodSpec) : Kind → String → Prop where
  | configMapVolume {v : Volume} {name : String} (hv : v ∈ spec.volumes)
      (h : v.configMap = some name) : RefersTo spec .configMap name
  | configMapProjection {v : Volume} {p : Projection} {name : String} (hv : v ∈ spec.volumes)
      (hp : p ∈ v.projected) (h : p.configMap = some name) : RefersTo spec .configMap name
  | configMapVariable {c : Container} {e : EnvSource} {name : String}
      (hc : c ∈ spec.initContainers ∨ c ∈ spec.containers) (he : e ∈ c.env)
      (h : e.configMap = some name) : RefersTo spec .configMap name
  | configMapBulk {c : Container} {e : EnvBulk} {name : String}
      (hc : c ∈ spec.initContainers ∨ c ∈ spec.containers) (he : e ∈ c.envFrom)
      (h : e.configMap = some name) : RefersTo spec .configMap name
  | secretVolume {v : Volume} {name : String} (hv : v ∈ spec.volumes)
      (h : v.secret = some name) : RefersTo spec .secret name
  | secretProjection {v : Volume} {p : Projection} {name : String} (hv : v ∈ spec.volumes)
      (hp : p ∈ v.projected) (h : p.secret = some name) : RefersTo spec .secret name
  | pullSecret {name : String} (h : name ∈ spec.imagePullSecrets) : RefersTo spec .secret name
  | secretVariable {c : Container} {e : EnvSource} {name : String}
      (hc : c ∈ spec.initContainers ∨ c ∈ spec.containers) (he : e ∈ c.env)
      (h : e.secret = some name) : RefersTo spec .secret name
  | secretBulk {c : Container} {e : EnvBulk} {name : String}
      (hc : c ∈ spec.initContainers ∨ c ∈ spec.containers) (he : e ∈ c.envFrom)
      (h : e.secret = some name) : RefersTo spec .secret name
  | claimVolume {v : Volume} {name : String} (hv : v ∈ spec.volumes)
      (h : v.claim = some name) : RefersTo spec .persistentVolumeClaim name

namespace PodSpec

variable {spec : PodSpec} {k : Kind} {name : String}

/-- The names that are read off a specification for objects of the kind. -/
def names (k : Kind) (spec : PodSpec) : List String :=
  match k with
  | .configMap => spec.configMapNames
  | .secret => spec.secretNames
  | .persistentVolumeClaim => spec.claimNames
  | _ => []

theorem mem_allContainers {c : Container} :
    c ∈ spec.allContainers ↔ c ∈ spec.initContainers ∨ c ∈ spec.containers :=
  List.mem_append

theorem refersTo_configMap_iff : spec.RefersTo .configMap name ↔ name ∈ spec.configMapNames := by
  simp only [configMapNames, List.mem_append, List.mem_filterMap, List.mem_flatMap,
    mem_allContainers]
  constructor
  · intro h
    cases h with
    | configMapVolume hv h => exact .inl (.inl ⟨_, hv, h⟩)
    | configMapProjection hv hp h => exact .inl (.inr ⟨_, hv, _, hp, h⟩)
    | configMapVariable hc he h => exact .inr ⟨_, hc, .inl ⟨_, he, h⟩⟩
    | configMapBulk hc he h => exact .inr ⟨_, hc, .inr ⟨_, he, h⟩⟩
  · rintro ((⟨v, hv, h⟩ | ⟨v, hv, p, hp, h⟩) | ⟨c, hc, ⟨e, he, h⟩ | ⟨e, he, h⟩⟩)
    · exact .configMapVolume hv h
    · exact .configMapProjection hv hp h
    · exact .configMapVariable hc he h
    · exact .configMapBulk hc he h

theorem refersTo_secret_iff : spec.RefersTo .secret name ↔ name ∈ spec.secretNames := by
  simp only [secretNames, List.mem_append, List.mem_filterMap, List.mem_flatMap,
    mem_allContainers]
  constructor
  · intro h
    cases h with
    | secretVolume hv h => exact .inl (.inl (.inl ⟨_, hv, h⟩))
    | secretProjection hv hp h => exact .inl (.inl (.inr ⟨_, hv, _, hp, h⟩))
    | pullSecret h => exact .inl (.inr h)
    | secretVariable hc he h => exact .inr ⟨_, hc, .inl ⟨_, he, h⟩⟩
    | secretBulk hc he h => exact .inr ⟨_, hc, .inr ⟨_, he, h⟩⟩
  · rintro (((⟨v, hv, h⟩ | ⟨v, hv, p, hp, h⟩) | h) | ⟨c, hc, ⟨e, he, h⟩ | ⟨e, he, h⟩⟩)
    · exact .secretVolume hv h
    · exact .secretProjection hv hp h
    · exact .pullSecret h
    · exact .secretVariable hc he h
    · exact .secretBulk hc he h

theorem refersTo_claim_iff : spec.RefersTo .persistentVolumeClaim name ↔ name ∈ spec.claimNames := by
  simp only [claimNames, List.mem_filterMap]
  constructor
  · intro h
    cases h with
    | claimVolume hv h => exact ⟨_, hv, h⟩
  · rintro ⟨v, hv, h⟩
    exact .claimVolume hv h

/-- **What is read off a specification is what it refers to.** -/
theorem refersTo_iff : spec.RefersTo k name ↔ name ∈ spec.names k := by
  cases k with
  | configMap => exact refersTo_configMap_iff
  | secret => exact refersTo_secret_iff
  | persistentVolumeClaim => exact refersTo_claim_iff
  | _ => exact ⟨nofun, fun h => absurd h List.not_mem_nil⟩

end PodSpec

/-! ## References in a snapshot -/

namespace Snapshot

/-- Something in the snapshot refers to the object of the kind that has this namespace and
this name. What has no namespace counts as being in the empty one. -/
inductive RefersTo (s : Snapshot) : Kind → String → String → Prop where
  | pod {p : Pod} {spec : PodSpec} {k : Kind} {name : String} (hp : p ∈ s.pods)
      (hspec : p.spec = some spec) (h : spec.RefersTo k name) : RefersTo s k p.metadata.home name
  /-- The pods would be in the template's own namespace. -/
  | podTemplate {t : PodTemplate} {spec : PodSpec} {k : Kind} {name : String}
      (ht : t ∈ s.podTemplates) (hspec : t.spec = some spec) (h : spec.RefersTo k name) :
      RefersTo s k t.metadata.home name
  | accountPullSecret {a : ServiceAccount} {name : String} (ha : a ∈ s.serviceAccounts)
      (h : name ∈ a.imagePullSecrets) : RefersTo s .secret a.metadata.home name
  /-- The namespace that the reference gives, or else that of the account. -/
  | accountLink {a : ServiceAccount} {link : ObjectLink} {name : String}
      (ha : a ∈ s.serviceAccounts) (hlink : link ∈ a.secrets) (h : link.name = some name) :
      RefersTo s .secret (link.ns.getD a.metadata.home) name

variable {s : Snapshot} {k : Kind} {ns name : String}

/-- **The lists that objects are looked up in are complete, and hold nothing else.** -/
theorem refersTo_iff :
    s.RefersTo k ns name ↔
      (ns, name) ∈ s.podReferences (PodSpec.names k) ∨
        k = .secret ∧ ∃ a ∈ s.serviceAccounts, (ns, name) ∈ a.secretKeys := by
  simp only [mem_podReferences, mem_podSpecs, ← PodSpec.refersTo_iff, ServiceAccount.mem_secretKeys]
  constructor
  · intro h
    cases h with
    | pod hp hspec h => exact .inl ⟨_, .inl ⟨_, hp, hspec, rfl⟩, h⟩
    | podTemplate ht hspec h => exact .inl ⟨_, .inr ⟨_, ht, hspec, rfl⟩, h⟩
    | accountPullSecret ha h => exact .inr ⟨rfl, _, ha, .inr ⟨h, rfl⟩⟩
    | accountLink ha hlink h => exact .inr ⟨rfl, _, ha, .inl ⟨_, hlink, h, rfl⟩⟩
  · rintro (⟨spec, ⟨p, hp, hspec, rfl⟩ | ⟨t, ht, hspec, rfl⟩, h⟩ |
      ⟨rfl, a, ha, ⟨link, hlink, h, rfl⟩ | ⟨h, rfl⟩⟩)
    · exact .pod hp hspec h
    · exact .podTemplate ht hspec h
    · exact .accountLink ha hlink h
    · exact .accountPullSecret ha h

theorem refersTo_iff_contains :
    s.RefersTo k ns name ↔
      ((s.podReferences (PodSpec.names k)).contains (ns, name) ||
        (k == .secret && s.serviceAccounts.any (·.secretKeys.contains (ns, name)))) = true := by
  simp only [refersTo_iff, Bool.or_eq_true, Bool.and_eq_true, beq_iff_eq, List.any_eq_true,
    List.contains_iff_mem]

instance : Decidable (s.RefersTo k ns name) := decidable_of_iff _ refersTo_iff_contains.symm

theorem refersTo_configMap_iff : s.RefersTo .configMap ns name ↔ (ns, name) ∈ s.usedConfigMaps := by
  rw [refersTo_iff]
  simp only [reduceCtorEq, false_and, or_false]
  rfl

theorem refersTo_claim_iff :
    s.RefersTo .persistentVolumeClaim ns name ↔ (ns, name) ∈ s.usedClaims := by
  rw [refersTo_iff]
  simp only [reduceCtorEq, false_and, or_false]
  rfl

theorem refersTo_secret_iff : s.RefersTo .secret ns name ↔ (ns, name) ∈ s.usedSecrets := by
  rw [refersTo_iff, mem_usedSecrets]
  simp only [true_and]
  rfl

/-! ## What is reported -/

/-- The objects of the kind, in their order, that nothing refers to and that should be
referred to. -/
def unreferenced (s : Snapshot) (k : Kind) (isExempt : k.Item → Prop) [DecidablePred isExempt] :
    List k.Item :=
  (s.items k).filter fun o =>
    decide (¬ isExempt o ∧ ¬ s.RefersTo k (k.metadata o).home (k.metadata o).name)

/-- A rule that lets pass what is exempt or in use, and objects to everything else. -/
theorem diagnostics_eq_unreferenced {r : Rule} {k : Kind} {isFine : Snapshot → k.Item → Bool}
    {message : k.Item → String} {isExempt : k.Item → Prop} [DecidablePred isExempt]
    (hr : ∀ s : Snapshot, r.findings s =
      s.findings k fun o => if isFine s o then [] else [message o])
    (hfine : ∀ (s : Snapshot) (o : k.Item), isFine s o = true ↔
      isExempt o ∨ s.RefersTo k (k.metadata o).home (k.metadata o).name) (s : Snapshot) :
    r.diagnostics s = (s.unreferenced k isExempt).map fun o =>
      .about r.name r.severity k (k.metadata o) (message o) := by
  have hleft : ∀ o : k.Item, (!isFine s o) =
      decide (¬ isExempt o ∧ ¬ s.RefersTo k (k.metadata o).home (k.metadata o).name) := by
    intro o
    rw [Bool.eq_iff_iff, decide_eq_true_iff, ← not_or, ← hfine, Bool.not_eq_true', Bool.not_eq_true]
  rw [Rule.diagnostics, hr, findings_ite, List.map_map, unreferenced]
  simp only [hleft]
  rfl

/-- **What is reported as unused is the complement of what is referred to.** -/
theorem unused_are_the_unreferenced (s : Snapshot) :
    unusedConfigMap.diagnostics s =
      (s.unreferenced .configMap fun (c : ConfigMap) => c.metadata.name = "kube-root-ca.crt").map
        (fun c => .about "unused-config-map" .warning .configMap c.metadata
          ("Unused config map '" ++ c.metadata.name ++ "'")) ∧
    unusedClaim.diagnostics s =
      (s.unreferenced .persistentVolumeClaim fun _ => False).map
        (fun c => .about "unused-pvc" .warning .persistentVolumeClaim c.metadata
          ("Unused persistent volume claim '" ++ c.metadata.name ++ "'")) ∧
    unusedSecret.diagnostics s =
      (s.unreferenced .secret fun (x : Secret) => x.type = some "kubernetes.io/service-account-token").map
        (fun x => .about "unused-secret" .warning .secret x.metadata
          ("Unused secret '" ++ x.metadata.name ++ "'")) := by
  refine ⟨?_, ?_, ?_⟩
  · refine diagnostics_eq_unreferenced (k := .configMap) (fun _ => rfl) (fun s c => ?_) s
    rw [Bool.or_eq_true, beq_iff_eq, List.contains_iff_mem, refersTo_configMap_iff]
    rfl
  · refine diagnostics_eq_unreferenced (k := .persistentVolumeClaim) (fun _ => rfl) (fun s c => ?_) s
    rw [List.contains_iff_mem, refersTo_claim_iff, false_or]
    rfl
  · refine diagnostics_eq_unreferenced (k := .secret) (fun _ => rfl) (fun s x => ?_) s
    rw [Bool.or_eq_true, beq_iff_eq, List.contains_iff_mem, refersTo_secret_iff]
    rfl

/-- The same names in two namespaces. The pod means the config map in its own namespace, and
the account the secret in the namespace that it gives. -/
def homonyms : Snapshot where
  pods := [{
    metadata := { name? := some "web", ns := some "prod" }
    spec := some { volumes := [{ configMap := some "settings" }] } }]
  configMaps := ["prod", "dev"].map fun ns => { metadata := { name? := some "settings", ns := some ns } }
  secrets := ["prod", "dev"].map fun ns => { metadata := { name? := some "tls", ns := some ns } }
  serviceAccounts := [{
    metadata := { name? := some "renewer", ns := some "ops" }
    secrets := [{ name := some "tls", ns := some "dev" }] }]

example : (unusedConfigMap.diagnostics homonyms).map (·.subject.ns) = [some "dev"] ∧
    (unusedSecret.diagnostics homonyms).map (·.subject.ns) = [some "prod"] := by decide

end Snapshot

end ClusterAudit
