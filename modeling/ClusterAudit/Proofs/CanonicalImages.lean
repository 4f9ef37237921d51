/-
References to images and their components determine each other.

Each of the three splits is told by what it puts together again and by what may stand in
its parts (`splitDigest_eq_iff`, `splitTag_eq_iff`, `splitDomain_eq_iff`). Put together,
parsing yields the canonical components that are written as the text, and there are no
others (`parse_eq_iff`).
-/
import Mathlib.Data.List.DropRight
import ClusterAudit.Proofs.ImageOffsets

namespace ClusterAudit.Image

open Text

/-! ## Segments -/

/-- What is before the first slash; everything if there is none. -/
def firstSegment (path : List Char) : List Char := path.takeWhile (· ≠ '/')

/-- What is behind the last slash; everything if there is none. -/
def lastSegment (path : List Char) : List Char := path.rtakeWhile (· ≠ '/')

theorem takeWhile_append_slash (a b : List Char) :
    (a ++ '/' :: b).takeWhile (· ≠ '/') = a.takeWhile (· ≠ '/') := by
  induction a with
  | nil => simp
  | cons c a ih => rw [List.cons_append, List.takeWhile_cons, List.takeWhile_cons, ih]

theorem takeWhile_of_notMem {cs : List Char} (h : '/' ∉ cs) : cs.takeWhile (· ≠ '/') = cs := by
  rw [List.takeWhile_eq_self_iff]
  intro c hc
  rw [decide_eq_true_iff]
  rintro rfl
  exact h hc

theorem firstSegment_append {a : List Char} (h : '/' ∉ a) (b : List Char) :
    firstSegment (a ++ '/' :: b) = a := by
  rw [firstSegment, takeWhile_append_slash, takeWhile_of_notMem h]

theorem lastSegment_append (a b : List Char) : lastSegment (a ++ '/' :: b) = lastSegment b := by
  have hreverse : (a ++ '/' :: b).reverse = b.reverse ++ '/' :: a.reverse := by simp
  rw [lastSegment, List.rtakeWhile, hreverse, takeWhile_append_slash]
  rfl

theorem mem_of_mem_lastSegment {c : Char} {cs : List Char} (h : c ∈ lastSegment cs) : c ∈ cs :=
  (List.rtakeWhile_suffix _ _).mem h

/-- The last segment begins behind the last slash, whatever is before it. -/
theorem lastSegment_append_of_mem {b : List Char} (h : '/' ∈ b) (a : List Char) :
    lastSegment (a ++ b) = lastSegment b := by
  obtain ⟨x, y, rfl⟩ := List.append_of_mem h
  rw [← List.append_assoc, lastSegment_append, lastSegment_append]

/-- What no slash is behind is in the last segment. -/
theorem mem_lastSegment_append {c : Char} (hc : c ≠ '/') (a : List Char) {b : List Char}
    (h : '/' ∉ b) : c ∈ lastSegment (a ++ c :: b) := by
  have hreverse : (a ++ c :: b).reverse = b.reverse ++ c :: a.reverse := by simp
  have hb : ∀ x ∈ b.reverse, decide (x ≠ '/') = true := by
    intro x hx
    rw [decide_eq_true_iff]
    rintro rfl
    exact h (List.mem_reverse.1 hx)
  rw [lastSegment, List.rtakeWhile, hreverse, List.mem_reverse, List.takeWhile_append_of_pos hb,
    List.takeWhile_cons]
  simp [hc]

/-! ## The three splits -/

/-- The first segment of a text that names a host: it has a dot or a colon, or is one
particular word. -/
def IsHost (segment : List Char) : Prop :=
  '.' ∈ segment ∨ ':' ∈ segment ∨ segment = "localhost".toList

instance : DecidablePred IsHost := fun _ => inferInstanceAs (Decidable (_ ∨ _))

theorem namesHost_iff {segment : List Char} : namesHost segment = true ↔ IsHost segment := by
  simp [namesHost, IsHost, or_assoc]

/-- What is added to a text for a part that comes behind `sep`. -/
def suffix (sep : Char) (part : Option (List Char)) : List Char := part.elim [] (sep :: ·)

/-- What is put in front of a text for a domain. -/
def hostPart (domain : Option (List Char)) : List Char := domain.elim [] (· ++ ['/'])

theorem splitDigest_eq_iff {cs rest : List Char} {digest : Option (List Char)} :
    splitDigest cs = (rest, digest) ↔ cs = rest ++ suffix '@' digest ∧ '@' ∉ rest := by
  constructor
  · intro h
    rw [splitDigest] at h
    cases hcut : cutFirst '@' cs with
    | none =>
      simp only [hcut, Prod.mk.injEq] at h
      obtain ⟨rfl, rfl⟩ := h
      exact ⟨(List.append_nil _).symm, cutFirst_eq_none_iff.1 hcut⟩
    | some p =>
      simp only [hcut, Prod.mk.injEq] at h
      obtain ⟨rfl, rfl⟩ := h
      exact cutFirst_eq_some_iff.1 hcut
  · rintro ⟨rfl, hrest⟩
    cases digest with
    | none =>
      have hcs : rest ++ suffix '@' none = rest := List.append_nil rest
      rw [hcs, splitDigest, cutFirst_eq_none_iff.2 hrest]
    | some d =>
      have hcut : cutFirst '@' (rest ++ suffix '@' (some d)) = some (rest, d) :=
        cutFirst_eq_some_iff.2 ⟨rfl, hrest⟩
      simp [splitDigest, hcut]

/-- The last colon is in the last segment just if no slash is behind it. -/
theorem colon_mem_lastSegment_iff {cs before behind : List Char}
    (h : cutLast ':' cs = some (before, behind)) : ':' ∈ lastSegment cs ↔ '/' ∉ behind := by
  obtain ⟨rfl, hbehind⟩ := cutLast_eq_some_iff.1 h
  constructor
  · intro hmem hslash
    rw [← List.singleton_append, ← List.append_assoc, lastSegment_append_of_mem hslash] at hmem
    exact hbehind (mem_of_mem_lastSegment hmem)
  · exact mem_lastSegment_append (by decide) before

theorem splitTag_eq_iff {cs rest : List Char} {tag : Option (List Char)} :
    splitTag cs = (rest, tag) ↔
      cs = rest ++ suffix ':' tag ∧ (∀ t ∈ tag, '/' ∉ t ∧ ':' ∉ t) ∧
        (tag = none → ':' ∉ lastSegment cs) := by
  constructor
  · intro h
    rw [splitTag] at h
    cases hcut : cutLast ':' cs with
    | none =>
      simp only [hcut, Prod.mk.injEq] at h
      obtain ⟨rfl, rfl⟩ := h
      refine ⟨(List.append_nil _).symm, by simp, fun _ hmem => ?_⟩
      exact cutLast_eq_none_iff.1 hcut (mem_of_mem_lastSegment hmem)
    | some p =>
      obtain ⟨before, behind⟩ := p
      obtain ⟨hcs, hbehind⟩ := cutLast_eq_some_iff.1 hcut
      by_cases hslash : '/' ∈ behind
      · simp only [hcut, List.contains_eq_mem, hslash, decide_true, if_true, Prod.mk.injEq] at h
        obtain ⟨rfl, rfl⟩ := h
        refine ⟨(List.append_nil _).symm, by simp, fun _ hmem => ?_⟩
        exact (colon_mem_lastSegment_iff hcut).1 hmem hslash
      · simp only [hcut, List.contains_eq_mem, hslash, decide_false, Bool.false_eq_true, if_false,
          Prod.mk.injEq] at h
        obtain ⟨rfl, rfl⟩ := h
        exact ⟨hcs, by simpa using ⟨hslash, hbehind⟩, by simp⟩
  · rintro ⟨hcs, htag, hnone⟩
    cases tag with
    | some t =>
      obtain ⟨hslash, hcolon⟩ := htag t rfl
      have hcut : cutLast ':' cs = some (rest, t) := cutLast_eq_some_iff.2 ⟨hcs, hcolon⟩
      simp [splitTag, hcut, hslash]
    | none =>
      obtain rfl : cs = rest := hcs.trans (List.append_nil _)
      cases hcut : cutLast ':' cs with
      | none => simp [splitTag, hcut]
      | some p =>
        obtain ⟨before, behind⟩ := p
        have hslash : '/' ∈ behind := by
          by_contra hslash
          exact hnone rfl ((colon_mem_lastSegment_iff hcut).2 hslash)
        simp [splitTag, hcut, hslash]

theorem splitDomain_eq_iff {cs path : List Char} {domain : Option (List Char)} :
    splitDomain cs = (domain, path) ↔
      cs = hostPart domain ++ path ∧ (∀ d ∈ domain, '/' ∉ d ∧ IsHost d) ∧
        (domain = none → '/' ∉ path ∨ ¬ IsHost (firstSegment path)) := by
  constructor
  · intro h
    rw [splitDomain] at h
    cases hcut : cutFirst '/' cs with
    | none =>
      simp only [hcut, Prod.mk.injEq] at h
      obtain ⟨rfl, rfl⟩ := h
      exact ⟨rfl, by simp, fun _ => .inl (cutFirst_eq_none_iff.1 hcut)⟩
    | some p =>
      obtain ⟨first, behind⟩ := p
      obtain ⟨hcs, hfirst⟩ := cutFirst_eq_some_iff.1 hcut
      by_cases hhost : IsHost first
      · simp only [hcut, namesHost_iff.2 hhost, if_true, Prod.mk.injEq] at h
        obtain ⟨rfl, rfl⟩ := h
        exact ⟨by simpa [hostPart] using hcs, by simpa using ⟨hfirst, hhost⟩, by simp⟩
      · simp only [hcut, namesHost_iff, hhost, if_false, Prod.mk.injEq] at h
        obtain ⟨rfl, rfl⟩ := h
        refine ⟨rfl, by simp, fun _ => .inr ?_⟩
        rwa [hcs, firstSegment_append hfirst]
  · rintro ⟨rfl, hdomain, hnone⟩
    cases domain with
    | some d =>
      obtain ⟨hslash, hhost⟩ := hdomain d rfl
      have hcut : cutFirst '/' (hostPart (some d) ++ path) = some (d, path) :=
        cutFirst_eq_some_iff.2 ⟨by simp [hostPart], hslash⟩
      simp [splitDomain, hcut, namesHost_iff.2 hhost]
    | none =>
      have hcs : hostPart none ++ path = path := rfl
      rw [hcs]
      cases hcut : cutFirst '/' path with
      | none => simp [splitDomain, hcut]
      | some p =>
        obtain ⟨first, behind⟩ := p
        obtain ⟨rfl, hfirst⟩ := cutFirst_eq_some_iff.1 hcut
        have hhost : ¬ IsHost first := by
          rw [← firstSegment_append hfirst behind]
          exact (hnone rfl).resolve_left (by simp)
        simp [splitDomain, hcut, namesHost_iff, hhost]

/-! ## Canonical components -/

/-- Components that can be told apart again once they are written. -/
structure Canonical (i : Image) : Prop where
  domain : ∀ d ∈ i.domain, '/' ∉ d.toList ∧ '@' ∉ d.toList ∧ IsHost d.toList
  path : '@' ∉ i.path.toList
  tag : ∀ t ∈ i.tag, '/' ∉ t.toList ∧ ':' ∉ t.toList ∧ '@' ∉ t.toList
  noTag : i.tag = none → ':' ∉ lastSegment i.path.toList
  noDomain : i.domain = none → '/' ∉ i.path.toList ∨ ¬ IsHost (firstSegment i.path.toList)

theorem canonical_iff {i : Image} :
    i.Canonical ↔
      (∀ d ∈ i.domain, '/' ∉ d.toList ∧ '@' ∉ d.toList ∧ IsHost d.toList) ∧
      '@' ∉ i.path.toList ∧
      (∀ t ∈ i.tag, '/' ∉ t.toList ∧ ':' ∉ t.toList ∧ '@' ∉ t.toList) ∧
      (i.tag = none → ':' ∉ lastSegment i.path.toList) ∧
      (i.domain = none → '/' ∉ i.path.toList ∨ ¬ IsHost (firstSegment i.path.toList)) :=
  ⟨fun h => ⟨h.domain, h.path, h.tag, h.noTag, h.noDomain⟩,
    fun ⟨hdomain, hpath, htag, hnoTag, hnoDomain⟩ => ⟨hdomain, hpath, htag, hnoTag, hnoDomain⟩⟩

instance : DecidablePred Canonical := fun _ => decidable_of_iff _ canonical_iff.symm

/-- A domain and the path below it. -/
def name (i : Image) : List Char := hostPart (i.domain.map String.toList) ++ i.path.toList

theorem toList_text (i : Image) :
    i.text.toList = i.name ++ suffix ':' (i.tag.map String.toList) ++
      suffix '@' (i.digest.map String.toList) := by
  obtain ⟨domain, path, tag, digest⟩ := i
  cases domain <;> cases tag <;> cases digest <;> simp [text, name, hostPart, suffix]

theorem lastSegment_name (i : Image) : lastSegment i.name = lastSegment i.path.toList := by
  cases h : i.domain with
  | none => simp [name, hostPart, h]
  | some d => simp [name, hostPart, h, lastSegment_append]

theorem at_notMem_name_iff {i : Image} :
    '@' ∉ i.name ↔ (∀ d ∈ i.domain, '@' ∉ d.toList) ∧ '@' ∉ i.path.toList := by
  cases h : i.domain <;> simp [name, hostPart, h]

theorem at_notMem_suffix_iff {tag : Option String} :
    '@' ∉ suffix ':' (tag.map String.toList) ↔ ∀ t ∈ tag, '@' ∉ t.toList := by
  cases tag <;> simp [suffix]

theorem forall_mem_map_toList {P : List Char → Prop} {text : Option String} :
    (∀ cs ∈ text.map String.toList, P cs) ↔ ∀ t ∈ text, P t.toList := by
  cases text <;> simp

theorem map_ofList_eq_iff {part : Option (List Char)} {text : Option String} :
    part.map String.ofList = text ↔ part = text.map String.toList := by
  constructor
  · rintro rfl
    simp [Function.comp_def]
  · rintro rfl
    simp [Function.comp_def]

/-- What is parsed, said of the three splits. -/
theorem parse_eq_iff_splits {s : String} {i : Image} :
    parse s = i ↔ ∃ tagged name,
      splitDigest s.toList = (tagged, i.digest.map String.toList) ∧
      splitTag tagged = (name, i.tag.map String.toList) ∧
      splitDomain name = (i.domain.map String.toList, i.path.toList) := by
  obtain ⟨domain, path, tag, digest⟩ := i
  have hpath : ∀ cs : List Char, String.ofList cs = path ↔ cs = path.toList := fun cs =>
    ⟨fun h => by rw [← h, String.toList_ofList], fun h => by rw [h, String.ofList_toList]⟩
  simp only [parse, mk.injEq, map_ofList_eq_iff, hpath]
  constructor
  · rintro ⟨hdomain, hpath, htag, hdigest⟩
    exact ⟨_, _, Prod.ext rfl hdigest, Prod.ext rfl htag, Prod.ext hdomain hpath⟩
  · rintro ⟨tagged, name, hdigest, htag, hdomain⟩
    simp only [hdigest, htag, hdomain, and_self]

/-- Canonical components, said as the splits say it of the texts that they are taken from. -/
theorem canonical_iff_parts {i : Image} :
    i.Canonical ↔
      '@' ∉ i.name ++ suffix ':' (i.tag.map String.toList) ∧
      (∀ t ∈ i.tag.map String.toList, '/' ∉ t ∧ ':' ∉ t) ∧
      (i.tag.map String.toList = none →
        ':' ∉ lastSegment (i.name ++ suffix ':' (i.tag.map String.toList))) ∧
      (∀ d ∈ i.domain.map String.toList, '/' ∉ d ∧ IsHost d) ∧
      (i.domain.map String.toList = none →
        '/' ∉ i.path.toList ∨ ¬ IsHost (firstSegment i.path.toList)) := by
  have hnoTag : (i.tag.map String.toList = none →
      ':' ∉ lastSegment (i.name ++ suffix ':' (i.tag.map String.toList))) ↔
      (i.tag = none → ':' ∉ lastSegment i.path.toList) := by
    rw [Option.map_eq_none_iff]
    refine imp_congr_right fun hnone => ?_
    rw [hnone, Option.map_none, suffix, Option.elim_none, List.append_nil, lastSegment_name]
  rw [hnoTag, List.mem_append, not_or, at_notMem_name_iff, at_notMem_suffix_iff, canonical_iff,
    Option.map_eq_none_iff]
  simp only [forall_mem_map_toList]
  constructor
  · rintro ⟨hdomain, hpath, htag, hnoTag, hnoDomain⟩
    exact ⟨⟨⟨fun d hd => (hdomain d hd).2.1, hpath⟩, fun t ht => (htag t ht).2.2⟩,
      fun t ht => ⟨(htag t ht).1, (htag t ht).2.1⟩, hnoTag,
      fun d hd => ⟨(hdomain d hd).1, (hdomain d hd).2.2⟩, hnoDomain⟩
  · rintro ⟨⟨⟨hdomainAt, hpath⟩, htagAt⟩, htag, hnoTag, hdomain, hnoDomain⟩
    exact ⟨fun d hd => ⟨(hdomain d hd).1, hdomainAt d hd, (hdomain d hd).2⟩, hpath,
      fun t ht => ⟨(htag t ht).1, (htag t ht).2, htagAt t ht⟩, hnoTag, hnoDomain⟩

/-- **The components of a text** are the canonical ones that are written as it. -/
theorem parse_eq_iff {s : String} {i : Image} : parse s = i ↔ i.Canonical ∧ i.text = s := by
  rw [parse_eq_iff_splits, canonical_iff_parts]
  simp only [splitDigest_eq_iff, splitTag_eq_iff, splitDomain_eq_iff]
  constructor
  · rintro ⟨_, _, ⟨hs, hat⟩, ⟨rfl, htag, hnoTag⟩, rfl, hdomain, hnoDomain⟩
    exact ⟨⟨hat, htag, hnoTag, hdomain, hnoDomain⟩, String.toList_inj.1 ((toList_text i).trans hs.symm)⟩
  · rintro ⟨⟨hat, htag, hnoTag, hdomain, hnoDomain⟩, rfl⟩
    exact ⟨_, _, ⟨toList_text i, hat⟩, ⟨rfl, htag, hnoTag⟩, rfl, hdomain, hnoDomain⟩

theorem canonical_parse (s : String) : (parse s).Canonical := (parse_eq_iff.1 rfl).1

theorem text_parse (s : String) : (parse s).text = s := (parse_eq_iff.1 rfl).2

/-- **Texts and canonical components correspond one to one.** What is read is written as it was,
by cuts between characters, and what is written is read as it was. -/
theorem parse_text_inverse :
    (∀ s : String, (parse s).text = s ∧ (parse s).Canonical ∧ parseAt? s = some (parse s)) ∧
      ∀ i : Image, i.Canonical → parse i.text = i := by
  refine ⟨fun s => ⟨text_parse s, canonical_parse s, parseAt?_eq s⟩, fun i h => ?_⟩
  exact parse_eq_iff.2 ⟨h, rfl⟩

/-- A port, a colon inside of the path, and a digest with all of the separators. -/
def intricate : Image where
  domain := some "localhost:5000"
  path := "a:b/ü"
  tag := some "1.0"
  digest := some "sha256:c/d@e"

theorem parse_text_inverse_intricate :
    intricate.text = "localhost:5000/a:b/ü:1.0@sha256:c/d@e" ∧ intricate.Canonical ∧
      parse intricate.text = intricate := by
  have h : intricate.Canonical := by decide
  exact ⟨by decide, h, parse_text_inverse.2 intricate h⟩

end ClusterAudit.Image
