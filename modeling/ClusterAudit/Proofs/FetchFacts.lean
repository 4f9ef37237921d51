/-
When a fetch succeeds, and what it brings then.

`conclude_eq_ok_iff`: a round of requests ends well just if every answer is a
good one that is there in time. `fetch_eq_ok`: then each collection of the
snapshot is what its own request was answered with.
-/
import ClusterAudit.Cluster.Fetch

namespace ClusterAudit.Cluster

namespace Answer

variable {α : Type} {limit : Option Duration}

/-- The answer is there in time and holds `a`. -/
def Brings (limit : Option Duration) (x : Answer α) (a : α) : Prop :=
  ∃ t, x = .after t (.ok a) ∧ x.isInTime limit = true

theorem Brings.contentOr_eq {x : Answer α} {a : α} (h : x.Brings limit a) (d : α) :
    x.contentOr d = a := by
  obtain ⟨t, rfl, -⟩ := h
  rfl

theorem isInTime_ending (x : Answer α) : x.ending.isInTime limit = x.isInTime limit := by
  cases x <;> rfl

theorem brings_ending_iff {x : Answer α} : x.ending.Brings limit () ↔ ∃ a, x.Brings limit a := by
  constructor
  · rintro ⟨t, he, hin⟩
    rw [isInTime_ending] at hin
    cases x with
    | never => simp [ending] at he
    | after t' content =>
      cases content with
      | error e => simp [ending, Except.map] at he
      | ok a => exact ⟨a, t', rfl, hin⟩
  · rintro ⟨a, t, rfl, hin⟩
    exact ⟨t, rfl, hin⟩

/-! ## How a round ends -/

theorem earlier_eq_none_iff {a : Option (Nat × ClusterError)} {x : Answer Unit} :
    earlier a x = none ↔ a = none ∧ ∀ t e, x ≠ .after t (.error e) := by
  unfold earlier
  split
  · simp
  · split <;> simp
  · next hnone hsome =>
    cases a with
    | none => simpa using fun t e he => hnone t e rfl he
    | some p => simp

theorem foldl_earlier_eq_none_iff {answers : List (Answer Unit)} {a : Option (Nat × ClusterError)} :
    answers.foldl earlier a = none ↔ a = none ∧ ∀ x ∈ answers, ∀ t e, x ≠ .after t (.error e) := by
  induction answers generalizing a with
  | nil => simp
  | cons x answers ih => simp [ih, earlier_eq_none_iff, and_assoc]

theorem earliestFailure?_eq_none_iff {answers : List (Answer Unit)} :
    earliestFailure? answers = none ↔ ∀ x ∈ answers, ∀ t e, x ≠ .after t (.error e) := by
  simp [earliestFailure?, foldl_earlier_eq_none_iff]

theorem brings_of_isInTime {x : Answer Unit} (hin : x.isInTime limit = true)
    (hgood : ∀ t e, x ≠ .after t (.error e)) : x.Brings limit () := by
  cases x with
  | never => simp [isInTime] at hin
  | after t content =>
    cases content with
    | error e => exact absurd rfl (hgood t e)
    | ok a => exact ⟨t, rfl, hin⟩

/-- **A round ends well just if all of its answers are good and in time.** -/
theorem conclude_eq_ok_iff {answers : List (Answer Unit)} :
    conclude limit answers = some (.ok ()) ↔ ∀ x ∈ answers, x.Brings limit () := by
  constructor
  · intro h
    unfold conclude at h
    dsimp only at h
    split at h
    · simp at h
    · next hnone =>
      split at h
      · next hlen =>
        intro x hx
        have hin : ∀ x ∈ answers, x.isInTime limit = true := List.length_filter_eq_length_iff.1 hlen
        have hmem : x ∈ answers.filter (isInTime limit) := List.mem_filter.2 ⟨hx, hin x hx⟩
        exact brings_of_isInTime (hin x hx) (earliestFailure?_eq_none_iff.1 hnone x hmem)
      · cases limit <;> simp at h
  · intro h
    have hin : answers.filter (isInTime limit) = answers :=
      List.filter_eq_self.2 fun x hx => (h x hx).choose_spec.2
    have hnone : earliestFailure? answers = none := by
      rw [earliestFailure?_eq_none_iff]
      intro x hx t e he
      obtain ⟨t', he', -⟩ := h x hx
      simp [he] at he'
    simp [conclude, hin, hnone]

end Answer

/-! ## The fetch -/

namespace Client

variable {c : Client} {api : Api} {scope : Scope}

theorem conclude_requests_iff :
    Answer.conclude c.timeout ((Request.all scope).map fun r => (api.ask r).ending) = some (.ok ()) ↔
      ∀ r ∈ Request.all scope, ∃ a, (api.ask r).Brings c.timeout a := by
  simp [Answer.conclude_eq_ok_iff, Answer.brings_ending_iff]

/-- **A fetch whose requests are all answered well brings these answers**, each
in its own place. -/
theorem fetch_eq_ok (reply : (r : Request) → r.Reply)
    (h : ∀ r ∈ Request.all scope, (api.ask r).Brings c.timeout (reply r)) :
    c.fetch api scope = some (.ok (.build (fun k => reply (.ofKind scope k))
      (reply .systemNamespace) scope)) := by
  have hend := conclude_requests_iff.2 fun r hr => ⟨reply r, h r hr⟩
  have hkind : ∀ k, (api.ask (.ofKind scope k)).contentOr [] = reply (.ofKind scope k) := fun k =>
    (h _ (List.mem_append_left _ (List.mem_map_of_mem (Kind.mem_all k)))).contentOr_eq []
  have hsystem : (api.ask .systemNamespace).contentOr none = reply .systemNamespace :=
    (h _ (List.mem_append_right _ (List.mem_singleton_self _))).contentOr_eq none
  simp only [fetch, hend, hkind, hsystem]

theorem fetchForRun_eq_ok {s : Snapshot} (h : c.fetch api scope = some (.ok s)) :
    c.fetchForRun api scope = some (.ok s) := by
  rw [fetchForRun, h]
  rfl

end Client

end ClusterAudit.Cluster
