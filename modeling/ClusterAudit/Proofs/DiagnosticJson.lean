/-
Diagnostics come back from JSON: `Report.diagnostics_survive_json`.

What is left out when a diagnostic is written is what reading puts there again. Nothing is
asked of the strings in it: an empty namespace is written and read like any other.
-/
import ClusterAudit.Proofs.PrintedJson
import ClusterAudit.Proofs.ReorderedJson
import ClusterAudit.Report

namespace ClusterAudit

open Json (Restores)

/-! ## Reading back -/

theorem Severity.restores (s : Severity) : Restores decode? s.encode s :=
  Json.restores_str s.decode?_encode

theorem Kind.restores (k : Kind) : Restores decode? k.encode k :=
  Json.restores_str k.decode?_encode

theorem Json.restores_string (s : String) : Restores string? (.str s) s := restores_str rfl

namespace Owner

/-- The fields that an owner is written with. -/
def fields (o : Owner) : List (String × Json) :=
  [("apiVersion", .str o.apiVersion)] ++
  (o.blockOwnerDeletion.map fun b => ("blockOwnerDeletion", Json.bool b)).toList ++
  (o.controller.map fun b => ("controller", Json.bool b)).toList ++
  [("kind", .str o.kind), ("name", .str o.name), ("uid", .str o.uid)]

/-- No name is written twice. -/
theorem names_sublist (o : Owner) : (o.fields.map (·.1)).Sublist
    ["apiVersion", "blockOwnerDeletion", "controller", "kind", "name", "uid"] := by
  obtain ⟨_, _ | _, _ | _, _, _, _⟩ := o <;> simp [fields]

/-- Each field is found under its name, whichever flags are left out. -/
theorem field?_fields (o : Owner) :
    Json.field? o.fields "apiVersion" = some (.str o.apiVersion) ∧
      Json.field? o.fields "blockOwnerDeletion" = o.blockOwnerDeletion.map .bool ∧
      Json.field? o.fields "controller" = o.controller.map .bool ∧
      Json.field? o.fields "kind" = some (.str o.kind) ∧
      Json.field? o.fields "name" = some (.str o.name) ∧
      Json.field? o.fields "uid" = some (.str o.uid) := by
  obtain ⟨_, _ | _, _ | _, _, _, _⟩ := o <;> exact ⟨rfl, rfl, rfl, rfl, rfl, rfl⟩

theorem restores (o : Owner) : Restores decode? o.encode o := by
  intro j (hj : Json.Reordered (.obj o.fields) j)
  have hn : (o.fields.map (·.1)).Nodup := o.names_sublist.nodup (by decide)
  obtain ⟨fields', rfl, h⟩ := hj.exists_holds hn
  have hstring : ∀ {name s}, Json.field? o.fields name = some (.str s) →
      Json.Fields.defaulted fields' Json.string? "" name = some s :=
    fun hf => h.defaulted hf (Json.restores_string _) rfl
  have hflag : ∀ {name flag}, Json.field? o.fields name = flag.map Json.bool →
      Json.Fields.optional fields' Json.bool? name = some flag :=
    fun hf => h.optional hf Json.restores_bool rfl
  obtain ⟨hversion, hblock, hcontroller, hkind, hname, huid⟩ := o.field?_fields
  simp [decode?, Json.object?, hstring hversion, hflag hblock, hflag hcontroller, hstring hkind,
    hstring hname, hstring huid]

end Owner

namespace Subject

/-- The fields that a subject is written with. -/
def fields (s : Subject) : List (String × Json) :=
  [("name", .str s.name)] ++
  (s.ns.map fun ns => ("namespace", Json.str ns)).toList ++
  (if s.annotations.isEmpty then [] else [("annotations", s.annotations.encode)])

theorem names_sublist (s : Subject) :
    (s.fields.map (·.1)).Sublist ["name", "namespace", "annotations"] := by
  obtain ⟨_, _ | _, m⟩ := s <;> cases hm : m.isEmpty <;> simp [fields, hm]

theorem field?_annotations (s : Subject) : Json.field? s.fields "annotations" =
    if s.annotations.isEmpty then none else some s.annotations.encode := by
  obtain ⟨_, _ | _, m⟩ := s <;> cases hm : m.isEmpty <;> simp [fields, hm, Json.field?]

theorem field?_namespace (s : Subject) : Json.field? s.fields "namespace" = s.ns.map .str := by
  obtain ⟨_, _ | _, m⟩ := s <;> cases hm : m.isEmpty <;> simp [fields, hm, Json.field?]

/-- An empty namespace is a string like any other, so it is neither left out nor taken for
none. -/
theorem restores (s : Subject) : Restores decode? s.encode s := by
  intro j (hj : Json.Reordered (.obj s.fields) j)
  have hn : (s.fields.map (·.1)).Nodup := s.names_sublist.nodup (by decide)
  obtain ⟨fields', rfl, h⟩ := hj.exists_holds hn
  have hname : Json.Fields.required fields' Json.string? "name" = some s.name :=
    h.required rfl (Json.restores_string s.name)
  have hns : Json.Fields.optional fields' Json.string? "namespace" = some s.ns :=
    h.optional s.field?_namespace Json.restores_string rfl
  have hannotations :
      Json.Fields.presentOr fields' Json.stringMap? {} "annotations" = some s.annotations :=
    h.presentOr s.field?_annotations StringMap.isEmpty_iff.1 (Json.restores_stringMap s.annotations)
  simp [decode?, h.record?_eq, hname, hns, hannotations]

end Subject

namespace Diagnostic

/-- The fields that a diagnostic is written with. -/
def fields (d : Diagnostic) : List (String × Json) :=
  [("check", .str d.check), ("severity", d.severity.encode), ("message", .str d.message),
   ("kind", d.kind.encode), ("object", d.subject.encode)] ++
  (if d.owners.isEmpty then [] else [("owners", .arr (d.owners.map Owner.encode))])

theorem names_sublist (d : Diagnostic) : (d.fields.map (·.1)).Sublist
    ["check", "severity", "message", "kind", "object", "owners"] := by
  cases hempty : d.owners.isEmpty <;> simp [fields, hempty]

theorem field?_owners (d : Diagnostic) : Json.field? d.fields "owners" =
    if d.owners.isEmpty then none else some (.arr (d.owners.map Owner.encode)) := by
  cases hempty : d.owners.isEmpty <;> simp [fields, hempty, Json.field?]

theorem restores (d : Diagnostic) : Restores decode? d.encode d := by
  intro j (hj : Json.Reordered (.obj d.fields) j)
  have hn : (d.fields.map (·.1)).Nodup := d.names_sublist.nodup (by decide)
  obtain ⟨fields', rfl, h⟩ := hj.exists_holds hn
  have hcheck : Json.Fields.required fields' Json.string? "check" = some d.check :=
    h.required rfl (Json.restores_string d.check)
  have hseverity : Json.Fields.required fields' Severity.decode? "severity" = some d.severity :=
    h.required rfl d.severity.restores
  have hmessage : Json.Fields.required fields' Json.string? "message" = some d.message :=
    h.required rfl (Json.restores_string d.message)
  have hkind : Json.Fields.required fields' Kind.decode? "kind" = some d.kind :=
    h.required rfl d.kind.restores
  have hsubject : Json.Fields.required fields' Subject.decode? "object" = some d.subject :=
    h.required rfl d.subject.restores
  have howners :
      Json.Fields.presentOr fields' (Json.list? Owner.decode?) [] "owners" = some d.owners :=
    h.presentOr d.field?_owners List.isEmpty_iff.1 (Json.restores_list Owner.restores d.owners)
  simp [decode?, h.record?_eq, hcheck, hseverity, hmessage, hkind, hsubject, howners]

end Diagnostic

/-! ## As text -/

namespace Json

theorem areNumberless_iff {items : List Json} :
    areNumberless items = true ↔ ∀ j ∈ items, j.isNumberless = true := by
  induction items with
  | nil => simp [areNumberless]
  | cons j items ih => simp [areNumberless, ih]

theorem fieldsNumberless_iff {fields : List (String × Json)} :
    fieldsNumberless fields = true ↔ ∀ f ∈ fields, f.2.isNumberless = true := by
  induction fields with
  | nil => simp [fieldsNumberless]
  | cons f fields ih => simp [fieldsNumberless, ih]

end Json

theorem StringMap.isNumberless_encode (m : StringMap) : m.encode.isNumberless = true := by
  refine Json.fieldsNumberless_iff.2 fun f hf => ?_
  obtain ⟨p, _, rfl⟩ := List.mem_map.1 hf
  rfl

theorem Owner.isNumberless_encode (o : Owner) : o.encode.isNumberless = true := by
  obtain ⟨_, _ | _, _ | _, _, _, _⟩ := o <;> rfl

theorem Subject.isNumberless_encode (s : Subject) : s.encode.isNumberless = true := by
  obtain ⟨name, ns, m⟩ := s
  have hannotations : m.encode.isNumberless = true := m.isNumberless_encode
  cases ns <;> cases hempty : m.isEmpty <;>
    simp [encode, hempty, Json.isNumberless, Json.fieldsNumberless, hannotations]

theorem Diagnostic.isNumberless_encode (d : Diagnostic) : d.encode.isNumberless = true := by
  have hseverity : d.severity.encode.isNumberless = true := rfl
  have hkind : d.kind.encode.isNumberless = true := rfl
  have hsubject : d.subject.encode.isNumberless = true := d.subject.isNumberless_encode
  have howners : Json.areNumberless (d.owners.map Owner.encode) = true := by
    simpa [Json.areNumberless_iff] using fun o _ => Owner.isNumberless_encode o
  cases hempty : d.owners.isEmpty <;>
    simp [encode, hempty, Json.isNumberless, Json.fieldsNumberless, hseverity, hkind, hsubject,
      howners]

theorem Report.isNumberless_encode (r : Report) : r.encode.isNumberless = true := by
  have hdiagnostics : Json.areNumberless (r.diagnostics.map Diagnostic.encode) = true := by
    simpa [Json.areNumberless_iff] using fun d _ => Diagnostic.isNumberless_encode d
  exact Bool.and_eq_true_iff.2 ⟨hdiagnostics, rfl⟩

/-! ## There and back -/

namespace Diagnostic

/-- `fields` is what `d` is written with, and `object` what its subject is. Of what `d` does
not have there is no field. -/
structure Writes (d : Diagnostic) (fields object : List (String × Json)) : Prop where
  whole : d.encode = .obj fields
  subject : Json.field? fields "object" = some (.obj object)
  ns : "namespace" ∉ object.map (·.1) ↔ d.subject.ns = none
  annotations : "annotations" ∉ object.map (·.1) ↔ d.subject.annotations = ∅
  owners : "owners" ∉ fields.map (·.1) ↔ d.owners = []

/-- `d` comes back from the JSON it is written as. -/
structure SurvivesJson (d : Diagnostic) : Prop where
  /-- Whatever order fields come in, also those of the subject, its annotations and the owners. -/
  decoded : Restores decode? d.encode d
  /-- The value itself comes back from its text. -/
  parsed : Json.parse? d.encode.compact = some d.encode
  written : ∃ fields object, d.Writes fields object

theorem writes (d : Diagnostic) : d.Writes d.fields d.subject.fields where
  whole := rfl
  subject := rfl
  ns := by
    rw [← Json.field?_eq_none_iff, Subject.field?_namespace, Option.map_eq_none_iff]
  annotations := by
    rw [← Json.field?_eq_none_iff, Subject.field?_annotations, ← StringMap.isEmpty_iff]
    cases d.subject.annotations.isEmpty <;> simp
  owners := by
    rw [← Json.field?_eq_none_iff, field?_owners, ← List.isEmpty_iff]
    cases d.owners.isEmpty <;> simp

theorem survivesJson (d : Diagnostic) : d.SurvivesJson where
  decoded := d.restores
  parsed := Json.parse?_compact d.isNumberless_encode
  written := ⟨_, _, d.writes⟩

theorem encode_injective : Function.Injective encode := by
  intro d d' h
  have hd : decode? d.encode = some d := d.restores.eq
  have hd' : decode? d'.encode = some d' := d'.restores.eq
  rw [h, hd'] at hd
  exact (Option.some.inj hd).symm

theorem compact_encode_injective : Function.Injective fun d : Diagnostic => d.encode.compact := by
  intro d d' h
  have htext : d.encode.compact = d'.encode.compact := h
  have hd : Json.parse? d.encode.compact = some d.encode := d.survivesJson.parsed
  have hd' : Json.parse? d'.encode.compact = some d'.encode := d'.survivesJson.parsed
  rw [htext, hd'] at hd
  exact encode_injective (Option.some.inj hd).symm

end Diagnostic

namespace Report

/-- The diagnostics of `r` come back from its document, in the same order. -/
structure SurvivesJson (r : Report) : Prop where
  parsed : Json.parse? r.document = some r.encode
  decoded : ∀ j, Json.Reordered r.encode j → ∃ fields, j = .obj fields ∧
    Json.Fields.required fields (Json.list? Diagnostic.decode?) "diagnostics" = some r.diagnostics

theorem survivesJson (r : Report) : r.SurvivesJson where
  parsed := Json.parse?_pretty r.isNumberless_encode
  decoded := by
    intro j hj
    obtain ⟨fields, rfl, h⟩ := Json.Reordered.exists_holds hj (List.nodup_singleton _)
    exact ⟨fields, rfl, h.required rfl (Json.restores_list Diagnostic.restores r.diagnostics)⟩

end Report

/-- **Diagnostics come back from JSON**, those of a report in their order. -/
theorem Report.diagnostics_survive_json :
    (∀ d : Diagnostic, d.SurvivesJson) ∧
      Function.Injective Diagnostic.encode ∧
      Function.Injective (fun d : Diagnostic => d.encode.compact) ∧
      ∀ r : Report, r.SurvivesJson :=
  ⟨Diagnostic.survivesJson, Diagnostic.encode_injective, Diagnostic.compact_encode_injective,
    survivesJson⟩

end ClusterAudit
