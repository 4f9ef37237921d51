/-
What the API server makes of the field selector of a scope: a list of
conditions between commas, each of which says that the namespace of an object
is, or is not, a certain one.

`readSelector?_fieldSelector`: the conditions are read back as they were meant,
unless a name holds a character that selectors are built of.
`holds_of_covers`: they never turn away what the scope covers. The converse
fails where several namespaces are included, and then nothing is asked at all.
-/
import ClusterAudit.Proofs.Correspondence
import ClusterAudit.Scope
import ClusterAudit.Text.Cut

namespace ClusterAudit.Scope

namespace Term

/-- The characters that selectors are built of. In a value none of them stands
for itself. -/
def isSpecial (c : Char) : Bool := [',', '=', '!', '\\'].contains c

/-- One condition as the API server reads it; none if it is about another field,
or has a special character in its value. -/
def read? (s : String) : Option Term :=
  match Text.cutFirst '=' s.toList with
  | none => none
  | some (field, value) =>
    if value.any isSpecial then none
    else
      match String.ofList field with
      | "metadata.namespace" => some (.is (String.ofList value))
      | "metadata.namespace!" => some (.isNot (String.ofList value))
      | _ => none

/-- Whether an object in the namespace `ns` meets the condition. -/
def holds (ns : String) : Term → Bool
  | .is x => ns == x
  | .isNot x => ns != x

/-- The namespace that a condition speaks of. -/
def subject : Term → String
  | .is x => x
  | .isNot x => x

/-- What stands before the first equals sign of a condition. -/
def head : Term → String
  | .is _ => "metadata.namespace"
  | .isNot _ => "metadata.namespace!"

/-- A name that stands for itself in a selector. -/
def Plain (ns : String) : Prop := ∀ c ∈ ns.toList, isSpecial c = false

instance (ns : String) : Decidable (Plain ns) := List.decidableBAll _ ns.toList

theorem text_eq (t : Term) : t.text = t.head ++ "=" ++ t.subject := by
  have his : "metadata.namespace=" = "metadata.namespace" ++ "=" := by decide
  have hisNot : "metadata.namespace!=" = "metadata.namespace!" ++ "=" := by decide
  cases t with
  | is x => exact congrArg (· ++ x) his
  | isNot x => exact congrArg (· ++ x) hisNot

theorem toList_text (t : Term) : t.text.toList = t.head.toList ++ '=' :: t.subject.toList := by
  simp [text_eq]

theorem equals_notMem_head : ∀ t : Term, '=' ∉ t.head.toList
  | .is _ => (by decide : '=' ∉ "metadata.namespace".toList)
  | .isNot _ => (by decide : '=' ∉ "metadata.namespace!".toList)

theorem comma_notMem_head : ∀ t : Term, ',' ∉ t.head.toList
  | .is _ => (by decide : ',' ∉ "metadata.namespace".toList)
  | .isNot _ => (by decide : ',' ∉ "metadata.namespace!".toList)

theorem read?_text {t : Term} (h : Plain t.subject) : read? t.text = some t := by
  have hcut : Text.cutFirst '=' t.text.toList = some (t.head.toList, t.subject.toList) :=
    Text.cutFirst_eq_some_iff.2 ⟨t.toList_text, t.equals_notMem_head⟩
  have hplain : t.subject.toList.any isSpecial = false := by simpa [Plain] using h
  simp only [read?, hcut, hplain]
  cases t <;> simp [head, subject]

theorem comma_notMem_text {t : Term} (h : Plain t.subject) : ',' ∉ t.text.toList := by
  have hx : ',' ∉ t.subject.toList := fun hm => by simpa [isSpecial] using h _ hm
  simp [toList_text, comma_notMem_head, hx]

end Term

/-- All conditions of a selector; none if there is one that cannot be read. -/
def readSelector? (s : String) : Option (List Term) := (Text.pieces ',' s).mapM Term.read?

theorem subject_mem_of_mem_terms {s : Scope} {t : Term} (h : t ∈ s.terms) :
    t.subject ∈ s.included ++ s.excluded := by
  unfold terms at h
  split at h
  · next hi =>
    simp only [List.mem_map] at h
    obtain ⟨x, hx, rfl⟩ := h
    exact List.mem_append_right _ hx
  · next x hi =>
    simp only [List.mem_singleton] at h
    subst h
    simp [hi, Term.subject]
  · simp at h

theorem mapM_read?_text {ts : List Term} (h : ∀ t ∈ ts, Term.Plain t.subject) :
    (ts.map Term.text).mapM Term.read? = some ts := by
  refine mapM_eq_some_of_forall₂ ?_
  rw [List.forall₂_map_right_iff, List.forall₂_same]
  exact fun t ht => Term.read?_text (h t ht)

/-- **The server reads the conditions that were meant.** -/
theorem readSelector?_fieldSelector {s : Scope} (h : ∀ ns ∈ s.included ++ s.excluded, Term.Plain ns)
    {selector : String} (hs : s.fieldSelector = some selector) :
    readSelector? selector = some s.terms := by
  have hplain : ∀ t ∈ s.terms, Term.Plain t.subject := fun t ht => h _ (subject_mem_of_mem_terms ht)
  unfold fieldSelector at hs
  split at hs
  · cases hs
  · next hne =>
    have hpieces : Text.pieces ',' (",".intercalate (s.terms.map Term.text)) = s.terms.map Term.text :=
      Text.pieces_intercalate (by simpa using fun t ht => Term.comma_notMem_text (hplain t ht))
        (by simpa using hne)
    cases hs
    rw [readSelector?, hpieces]
    exact mapM_read?_text hplain

/-- What a scope covers meets all of its conditions. -/
theorem holds_of_covers {s : Scope} {ns : String} (h : s.covers (some ns) = true) {t : Term}
    (ht : t ∈ s.terms) : t.holds ns = true := by
  obtain ⟨hin, hout⟩ := Choice.admits_iff.1 h
  unfold terms at ht
  split at ht
  · simp only [List.mem_map] at ht
    obtain ⟨x, hx, rfl⟩ := ht
    have hne : ns ≠ x := fun he => hout (he ▸ hx)
    simpa [Term.holds] using hne
  · next x hi =>
    simp only [List.mem_singleton] at ht
    subst ht
    rw [hi] at hin
    simpa [Term.holds] using hin
  · simp at ht

theorem terms_eq_nil_of_fieldSelector {s : Scope} (h : s.fieldSelector = none) : s.terms = [] := by
  unfold fieldSelector at h
  split at h
  · next hnil => simpa using hnil
  · cases h

end ClusterAudit.Scope
