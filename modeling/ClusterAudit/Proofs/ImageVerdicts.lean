/-
What is said of an image hangs on the parts of its reference, so a tag or a digest behind a
bare reference changes whether it floats, and never whether it is fully qualified.

The domain and the path stay what they were (`parse_append_tag`, `parse_append_digest`).
`verdicts_of_extends` follows this from references through containers and pods to what the
two rules report of a whole snapshot.
-/
import ClusterAudit.Checks.Containers
import ClusterAudit.Proofs.CanonicalImages
import ClusterAudit.Proofs.Correspondence

namespace ClusterAudit

namespace Image

/-! ## Bare references -/

/-- The reference says neither a tag nor a digest. -/
def IsBare (s : String) : Prop := '@' ∉ s.toList ∧ (parse s).tag = none

instance : DecidablePred IsBare := fun _ => inferInstanceAs (Decidable (_ ∧ _))

theorem IsBare.tag {s : String} (h : IsBare s) : (parse s).tag = none := h.2

theorem at_mem_text {i : Image} {d : String} (h : i.digest = some d) : '@' ∈ i.text.toList := by
  rw [toList_text, h]
  simp [suffix]

theorem IsBare.digest {s : String} (h : IsBare s) : (parse s).digest = none := by
  cases hdigest : (parse s).digest with
  | none => rfl
  | some d =>
    have hat : '@' ∈ s.toList := by
      rw [← text_parse s]
      exact at_mem_text hdigest
    exact absurd hat h.1

theorem text_tag {i : Image} (htag : i.tag = none) (hdigest : i.digest = none) (t : String) :
    text { i with tag := some t } = i.text ++ ":" ++ t := by
  simp [text, htag, hdigest, String.append_assoc]

theorem text_digest {i : Image} (hdigest : i.digest = none) (d : String) :
    text { i with digest := some d } = i.text ++ "@" ++ d := by
  simp [text, hdigest, String.append_assoc]

theorem parse_append_tag {s t : String} (h : IsBare s)
    (ht : '/' ∉ t.toList ∧ ':' ∉ t.toList ∧ '@' ∉ t.toList) :
    parse (s ++ ":" ++ t) = { parse s with tag := some t } := by
  have hi : (parse s).Canonical := canonical_parse s
  refine parse_eq_iff.2 ⟨⟨hi.domain, hi.path, ?_, nofun, hi.noDomain⟩, ?_⟩
  · rintro _ ⟨⟩
    exact ht
  · rw [text_tag h.tag h.digest, text_parse]

theorem parse_append_digest {s : String} (h : IsBare s) (d : String) :
    parse (s ++ "@" ++ d) = { parse s with digest := some d } := by
  have hi : (parse s).Canonical := canonical_parse s
  refine parse_eq_iff.2 ⟨⟨hi.domain, hi.path, hi.tag, hi.noTag, hi.noDomain⟩, ?_⟩
  rw [text_digest h.digest, text_parse]

/-! ## Verdicts on references -/

/-- The ways to go on from a bare reference; it may be left as it is, too. -/
inductive Extends (s : String) : String → Prop where
  | unchanged : Extends s s
  | latest : Extends s (s ++ ":latest")
  | tag {t : String} (fits : '/' ∉ t.toList ∧ ':' ∉ t.toList ∧ '@' ∉ t.toList)
      (other : t ≠ "latest") : Extends s (s ++ ":" ++ t)
  | digest (d : String) : Extends s (s ++ "@" ++ d)

/-- Whether `s'` floats as `s` does: nothing has been added to it but the tag that it
stands for anyway. -/
def Floats (s s' : String) : Prop := s' = s ∨ s' = s ++ ":latest"

instance (s s' : String) : Decidable (Floats s s') := inferInstanceAs (Decidable (_ ∨ _))

variable {s s' : String}

theorem parse_append_latest (h : IsBare s) :
    parse (s ++ ":latest") = { parse s with tag := some "latest" } := by
  have hsplit : s ++ ":latest" = s ++ ":" ++ "latest" := by rw [String.append_assoc]; rfl
  rw [hsplit, parse_append_tag h (by decide)]

/-- Neither of the two parts that the verdict is on has changed. -/
theorem isFullyQualified_of_extends (hs : IsBare s) (h : Extends s s') :
    (parse s').isFullyQualified = (parse s).isFullyQualified := by
  cases h with
  | unchanged => rfl
  | latest => rw [parse_append_latest hs]; rfl
  | tag fits => rw [parse_append_tag hs fits]; rfl
  | digest d => rw [parse_append_digest hs]; rfl

theorem isLatest_of_isBare (hs : IsBare s) : (parse s).isLatest = true := by
  rw [isLatest, hs.tag, hs.digest]
  rfl

theorem isLatest_append_latest (hs : IsBare s) : (parse (s ++ ":latest")).isLatest = true := by
  rw [parse_append_latest hs]
  rfl

theorem isLatest_append_tag {t : String} (hs : IsBare s)
    (fits : '/' ∉ t.toList ∧ ':' ∉ t.toList ∧ '@' ∉ t.toList) (other : t ≠ "latest") :
    (parse (s ++ ":" ++ t)).isLatest = false := by
  rw [parse_append_tag hs fits]
  exact beq_false_of_ne other

theorem isLatest_append_digest (hs : IsBare s) (d : String) :
    (parse (s ++ "@" ++ d)).isLatest = false := by
  rw [parse_append_digest hs, isLatest, hs.tag]
  rfl

/-- The text alone tells those ways to go on that leave the build open. -/
theorem isLatest_iff (hs : IsBare s) (h : Extends s s') :
    (parse s').isLatest = true ↔ Floats s s' := by
  constructor
  · intro hlatest
    cases h with
    | unchanged => exact .inl rfl
    | latest => exact .inr rfl
    | tag fits other => exact absurd hlatest (by simp [isLatest_append_tag hs fits other])
    | digest d => exact absurd hlatest (by simp [isLatest_append_digest hs])
  · rintro (rfl | rfl)
    · exact isLatest_of_isBare hs
    · exact isLatest_append_latest hs

end Image

/-! ## Containers, pods and snapshots -/

namespace Container

def IsBare (c : Container) : Prop := ∀ i ∈ c.image, Image.IsBare i

instance : DecidablePred IsBare := fun c =>
  inferInstanceAs (Decidable (∀ i ∈ c.image, Image.IsBare i))

/-- `c'` is `c` but for what may have been put behind its image. -/
def Extends (c c' : Container) : Prop :=
  ∃ image, Option.Rel Image.Extends c.image image ∧ c' = { c with image }

/-- Both have images, and that of `c'` floats as that of `c` does. -/
def Floats (c c' : Container) : Prop := ∃ i ∈ c.image, ∃ i' ∈ c'.image, Image.Floats i i'

instance (c c' : Container) : Decidable (c.Floats c') :=
  inferInstanceAs (Decidable (∃ i ∈ c.image, ∃ i' ∈ c'.image, Image.Floats i i'))

variable {c c' : Container}

theorem Extends.name_eq (h : c.Extends c') : c'.name = c.name := by
  obtain ⟨image, -, rfl⟩ := h
  rfl

/-- A container without an image stays without one. -/
theorem Extends.image_cases (h : c.Extends c') :
    (c.image = none ∧ c'.image = none) ∨
      ∃ i i', c.image = some i ∧ c'.image = some i' ∧ Image.Extends i i' := by
  obtain ⟨image, himage, rfl⟩ := h
  cases hi : c.image with
  | none =>
    rw [hi] at himage
    cases himage
    exact .inl ⟨rfl, rfl⟩
  | some i =>
    rw [hi] at himage
    obtain ⟨hext⟩ := himage
    exact .inr ⟨i, _, rfl, rfl, hext⟩

theorem any_isFullyQualified_of_extends (hc : c.IsBare) (h : c.Extends c') :
    (c'.image.any fun i => !(Image.parse i).isFullyQualified) =
      c.image.any fun i => !(Image.parse i).isFullyQualified := by
  rcases h.image_cases with ⟨hnone, hnone'⟩ | ⟨i, i', hi, hi', hext⟩
  · rw [hnone, hnone']
  · simp [hi, hi', Image.isFullyQualified_of_extends (hc i hi) hext]

theorem any_isLatest_of_extends (hc : c.IsBare) (h : c.Extends c') :
    (c'.image.any fun i => (Image.parse i).isLatest) = decide (c.Floats c') := by
  rw [Bool.eq_iff_iff, decide_eq_true_iff]
  rcases h.image_cases with ⟨hnone, hnone'⟩ | ⟨i, i', hi, hi', hext⟩
  · simp [Floats, hnone, hnone']
  · simp [Floats, hi, hi', Image.isLatest_iff (hc i hi) hext]

end Container

def PodSpec.Extends (spec spec' : PodSpec) : Prop :=
  ∃ initContainers containers,
    List.Forall₂ Container.Extends spec.initContainers initContainers ∧
    List.Forall₂ Container.Extends spec.containers containers ∧
    spec' = { spec with initContainers, containers }

def Pod.Extends (p p' : Pod) : Prop :=
  ∃ spec, Option.Rel PodSpec.Extends p.spec spec ∧ p' = { p with spec }

theorem Pod.Extends.metadata_eq {p p' : Pod} (h : p.Extends p') : p'.metadata = p.metadata := by
  obtain ⟨spec, -, rfl⟩ := h
  rfl

theorem Pod.Extends.containers {p p' : Pod} (h : p.Extends p') :
    List.Forall₂ Container.Extends p.containers p'.containers := by
  obtain ⟨spec, hspec, rfl⟩ := h
  cases hp : p.spec with
  | none =>
    rw [hp] at hspec
    cases hspec
    simp [Pod.containers, hp]
  | some spec =>
    rw [hp] at hspec
    obtain ⟨initContainers, containers, hinit, hcontainers, rfl⟩ := hspec
    simpa [Pod.containers, hp, PodSpec.allContainers] using List.rel_append hinit hcontainers

namespace Snapshot

/-- `s'` is `s` but for what has been put behind some of the images. -/
def Extends (s s' : Snapshot) : Prop :=
  ∃ pods, List.Forall₂ Pod.Extends s.pods pods ∧ s' = { s with pods }

/-- The containers pod by pod, each with its pod; those that prepare a pod come first. -/
def podContainers (s : Snapshot) : List (Pod × Container) :=
  s.pods.flatMap fun p => p.containers.map fun c => (p, c)

def HasBareImages (s : Snapshot) : Prop := ∀ x ∈ s.podContainers, x.2.IsBare

instance : DecidablePred HasBareImages := fun s =>
  inferInstanceAs (Decidable (∀ x ∈ s.podContainers, x.2.IsBare))

/-- The containers of an extended snapshot are those of the snapshot, one by one. -/
theorem Extends.podContainers {s s' : Snapshot} (h : s.Extends s') :
    List.Forall₂ (fun x x' => x'.1.metadata = x.1.metadata ∧ x.2.Extends x'.2)
      s.podContainers s'.podContainers := by
  obtain ⟨pods, hpods, rfl⟩ := h
  refine List.rel_flatMap hpods fun p p' hp => ?_
  exact List.rel_map (fun c c' hc => ⟨hp.metadata_eq, hc⟩) hp.containers

end Snapshot

/-! ## What the two rules report -/

namespace Checks

open Snapshot (podContainers)

theorem containerFindings_eq (s : Snapshot) (atFault : Container → Bool)
    (message : Container → String) :
    containerFindings s (fun _ => atFault) message =
      (s.podContainers.filter fun x => atFault x.2).map fun x =>
        ⟨.pod, x.1.metadata, message x.2⟩ := by
  rw [podContainers, List.filter_flatMap, List.map_flatMap]
  refine List.flatMap_congr fun p _ => ?_
  cases hspec : p.spec with
  | none => simp [Pod.containers, hspec]
  | some spec =>
    simp only [Option.elim_some, containerFaults, Pod.containers, hspec, List.filter_map,
      List.map_map]
    rfl

variable {s s' : Snapshot}

/-- What is known of each container and the one that has come of it. -/
theorem forall₂_podContainers (hs : s.HasBareImages) (h : s.Extends s') :
    List.Forall₂ (fun x x' => x.2.IsBare ∧ x'.1.metadata = x.1.metadata ∧ x.2.Extends x'.2)
      s.podContainers s'.podContainers :=
  (List.forall₂_and_left _ _).2 ⟨hs, h.podContainers⟩

theorem fullyQualifiedImage_of_extends (hs : s.HasBareImages) (h : s.Extends s') :
    fullyQualifiedImage.diagnostics s' = fullyQualifiedImage.diagnostics s := by
  refine congrArg (List.map _) ?_
  simp only [fullyQualifiedImage, containerFindings_eq]
  refine map_filter_eq_of_forall₂ (forall₂_podContainers hs h) ?_ ?_
  · rintro x x' ⟨hbare, -, hext⟩
    exact Container.any_isFullyQualified_of_extends hbare hext
  · rintro x x' ⟨-, hmetadata, hext⟩
    rw [hmetadata, hext.name_eq]

theorem latestTag_of_extends (hs : s.HasBareImages) (h : s.Extends s') :
    latestTag.diagnostics s' =
      ((s.podContainers.zip s'.podContainers).filter fun x => x.1.2.Floats x.2.2).map fun x =>
        .about "latest-tag" .warning .pod x.1.1.metadata
          ("Avoid latest tag for container '" ++ x.1.2.name ++ "'") := by
  rw [Rule.diagnostics]
  simp only [latestTag, containerFindings_eq, List.map_map]
  refine map_filter_eq_zip (forall₂_podContainers hs h)
    (f := fun x => Diagnostic.about "latest-tag" .warning .pod x.1.metadata
      ("Avoid latest tag for container '" ++ x.2.name ++ "'")) ?_ ?_
  · rintro x x' ⟨hbare, -, hext⟩
    exact Container.any_isLatest_of_extends hbare hext
  · rintro x x' ⟨-, hmetadata, hext⟩
    simp only [Function.comp, hmetadata, hext.name_eq]

/-- **What verdicts on images depend on.** A tag or a digest behind a bare reference settles
whether it floats, and never whether it is fully qualified; the rules report accordingly. -/
theorem verdicts_of_extends :
    (∀ s : String, Image.IsBare s →
      ((Image.parse s).isLatest = true ∧ (Image.parse (s ++ ":latest")).isLatest = true ∧
        (Image.parse (s ++ ":latest")).isFullyQualified = (Image.parse s).isFullyQualified) ∧
      (∀ t : String, '/' ∉ t.toList ∧ ':' ∉ t.toList ∧ '@' ∉ t.toList → t ≠ "latest" →
        (Image.parse (s ++ ":" ++ t)).isLatest = false ∧
        (Image.parse (s ++ ":" ++ t)).isFullyQualified = (Image.parse s).isFullyQualified) ∧
      ∀ d : String, (Image.parse (s ++ "@" ++ d)).isLatest = false ∧
        (Image.parse (s ++ "@" ++ d)).isFullyQualified = (Image.parse s).isFullyQualified) ∧
    ∀ s s' : Snapshot, s.HasBareImages → s.Extends s' →
      fullyQualifiedImage.diagnostics s' = fullyQualifiedImage.diagnostics s ∧
      latestTag.diagnostics s' =
        ((s.podContainers.zip s'.podContainers).filter fun x => x.1.2.Floats x.2.2).map fun x =>
          .about "latest-tag" .warning .pod x.1.1.metadata
            ("Avoid latest tag for container '" ++ x.1.2.name ++ "'") := by
  refine ⟨fun s hs => ⟨⟨?_, ?_, ?_⟩, fun t fits other => ⟨?_, ?_⟩, fun d => ⟨?_, ?_⟩⟩,
    fun s s' hs h => ⟨fullyQualifiedImage_of_extends hs h, latestTag_of_extends hs h⟩⟩
  · exact Image.isLatest_of_isBare hs
  · exact Image.isLatest_append_latest hs
  · exact Image.isFullyQualified_of_extends hs .latest
  · exact Image.isLatest_append_tag hs fits other
  · exact Image.isFullyQualified_of_extends hs (.tag fits other)
  · exact Image.isLatest_append_digest hs d
  · exact Image.isFullyQualified_of_extends hs (.digest d)

/-- A pod with a port in one reference and a colon in the path of another, and one container
without an image. The parameters come behind three of the references. -/
def pipeline (fetch build serve : String) : Snapshot where
  pods := [
    { metadata := { name? := some "pipeline", ns := some "prod" }
      spec := some {
        initContainers := [{ name := "fetch", image := some ("localhost:5000/a:b/Fetch" ++ fetch) }]
        containers := [
          { name := "build", image := some ("build/x:y/" ++ build) },
          { name := "serve", image := some ("quay.io/serve" ++ serve) },
          { name := "watch", image := some "watch" },
          { name := "debug" }] } },
    { metadata := { name? := some "pending" } }]

theorem extends_pipeline :
    (pipeline "" "" "").Extends (pipeline ":latest" ":1.0" "@sha256:1:2@3") := by
  have hfetch : Image.Extends "localhost:5000/a:b/Fetch" _ := .latest
  have hbuild : Image.Extends "build/x:y/" _ := .tag (t := "1.0") (by decide) (by decide)
  have hserve : Image.Extends "quay.io/serve" _ := .digest "sha256:1:2@3"
  refine ⟨_, .cons ⟨_, .some ⟨_, _, ?_, ?_, rfl⟩, rfl⟩ (.cons ⟨_, .none, rfl⟩ .nil), rfl⟩
  · exact .cons ⟨_, .some hfetch, rfl⟩ .nil
  · exact .cons ⟨_, .some hbuild, rfl⟩ (.cons ⟨_, .some hserve, rfl⟩
      (.cons ⟨_, .some .unchanged, rfl⟩ (.cons ⟨_, .none, rfl⟩ .nil)))

theorem verdicts_of_extends_pipeline :
    Image.IsBare "a:5/b" ∧ (Image.parse "a:5/b:1").isLatest = false ∧
      (pipeline "" "" "").HasBareImages ∧
      (fullyQualifiedImage.diagnostics (pipeline ":latest" ":1.0" "@sha256:1:2@3")).map (·.message) =
        ["Use fully qualified image for container 'fetch'",
          "Use fully qualified image for container 'build'",
          "Use fully qualified image for container 'watch'"] ∧
      (latestTag.diagnostics (pipeline ":latest" ":1.0" "@sha256:1:2@3")).map (·.message) =
        ["Avoid latest tag for container 'fetch'", "Avoid latest tag for container 'watch'"] := by
  have hbare : Image.IsBare "a:5/b" := by decide
  have himages : (pipeline "" "" "").HasBareImages := by decide
  obtain ⟨hfq, hlatest⟩ := verdicts_of_extends.2 _ _ himages extends_pipeline
  refine ⟨hbare, ?_, himages, ?_, ?_⟩
  · exact ((verdicts_of_extends.1 "a:5/b" hbare).2.1 "1" (by decide) (by decide)).1
  · rw [hfq]
    decide
  · rw [hlatest]
    decide

end Checks

end ClusterAudit
