/-
A fetch brings the whole of a cluster or nothing.

It succeeds just if each of its requests is answered with content, or with one of the two
errors that only say that there is nothing (`Api.Complete`). Each collection is then what
its own request was answered with (`Snapshot.Records`). In any other case one of the errors
is all that is told.

Nothing is said here of a fetch that runs out of time: all answers are taken to be there
before its end (`Api.InTime`).
-/
import Mathlib.Data.List.Nodup
import ClusterAudit.Proofs.FetchFacts

namespace ClusterAudit

namespace Cluster

/-! ## Rounds in which every answer is in time -/

namespace Answer

variable {α : Type} {limit : Option Duration}

/-- What the answer says, whenever it comes. -/
def Says (x : Answer α) (content : Except ClusterError α) : Prop := ∃ t, x = .after t content

theorem Says.unique {x : Answer α} {content content' : Except ClusterError α} (h : x.Says content)
    (h' : x.Says content') : content = content' := by
  obtain ⟨t, rfl⟩ := h
  obtain ⟨t', h'⟩ := h'
  exact (Answer.after.inj h').2

theorem Brings.contentOr {x : Answer α} {a : α} (h : x.Brings limit a) (d : α) :
    x.Brings limit (x.contentOr d) := by
  rwa [h.contentOr_eq]

theorem says_ending_error_iff {x : Answer α} {e : ClusterError} :
    x.ending.Says (.error e) ↔ x.Says (.error e) := by
  cases x with
  | never => simp [Says, ending]
  | after t content => cases content <;> simp [Says, ending, Except.map]

theorem earlier_eq_some {a : Option (Nat × ClusterError)} {x : Answer Unit} {t : Nat} {e : ClusterError}
    (h : earlier a x = some (t, e)) : a = some (t, e) ∨ x.Says (.error e) := by
  unfold earlier at h
  split at h
  · simp only [Option.some.injEq, Prod.mk.injEq] at h
    obtain ⟨rfl, rfl⟩ := h
    exact .inr ⟨_, rfl⟩
  · split at h
    · simp only [Option.some.injEq, Prod.mk.injEq] at h
      obtain ⟨rfl, rfl⟩ := h
      exact .inr ⟨_, rfl⟩
    · exact .inl h
  · exact .inl h

/-- A failure that is told is one of those that there were. -/
theorem foldl_earlier_eq_some {answers : List (Answer Unit)} {a : Option (Nat × ClusterError)} {t : Nat}
    {e : ClusterError} (h : answers.foldl earlier a = some (t, e)) :
    a = some (t, e) ∨ ∃ x ∈ answers, x.Says (.error e) := by
  induction answers generalizing a with
  | nil => exact .inl h
  | cons x answers ih =>
    rcases ih h with h | ⟨y, hy, he⟩
    · exact (earlier_eq_some h).imp_right fun he => ⟨x, List.mem_cons_self, he⟩
    · exact .inr ⟨y, List.mem_cons_of_mem _ hy, he⟩

/-- **If all answers are in time, a round ends well or with one of their errors.** -/
theorem conclude_of_isInTime {answers : List (Answer Unit)} (hin : ∀ x ∈ answers, x.isInTime limit = true) :
    conclude limit answers = some (.ok ()) ∨
      ∃ x ∈ answers, ∃ e, x.Says (.error e) ∧ conclude limit answers = some (.error e) := by
  have hall : answers.filter (isInTime limit) = answers := List.filter_eq_self.2 hin
  unfold conclude earliestFailure?
  simp only [hall, if_true]
  cases hfold : answers.foldl earlier none with
  | none => exact .inl rfl
  | some failure =>
    obtain ⟨t, e⟩ := failure
    rcases foldl_earlier_eq_some hfold with h | ⟨x, hx, he⟩
    · cases h
    · exact .inr ⟨x, hx, e, he, rfl⟩

end Answer

/-! ## Requests -/

namespace Request

variable {scope : Scope}

theorem mem_all_iff {r : Request} : r ∈ all scope ↔ (∃ k, r = ofKind scope k) ∨ r = .systemNamespace := by
  simp only [all, List.mem_append, List.mem_map, List.mem_singleton]
  refine or_congr_left ⟨?_, ?_⟩
  · rintro ⟨k, -, rfl⟩
    exact ⟨k, rfl⟩
  · rintro ⟨k, rfl⟩
    exact ⟨k, k.mem_all, rfl⟩

theorem ofKind_of_clusterWide {k : Kind} (hk : k.isNamespaced = false) : ofKind scope k = .list k none := by
  simp [ofKind, hk]

theorem ofKind_of_isNamespaced {k : Kind} (hk : k.isNamespaced = true) :
    ofKind scope k = .list k scope.fieldSelector := by
  simp [ofKind, hk]

theorem saysNothing_list {k : Kind} (hk : k ≠ .volumeSnapshot) (selector : Option String) (e : ClusterError) :
    (list k selector).saysNothing e = false := by
  cases k <;> first | rfl | exact absurd rfl hk

theorem saysNothing_volumeSnapshot {selector : Option String} {e : ClusterError} :
    (list .volumeSnapshot selector).saysNothing e = true ↔ ∃ a : ApiError, e = .api a ∧ a.code = 404 := by
  cases e <;> simp [saysNothing]

theorem saysNothing_systemNamespace {e : ClusterError} :
    systemNamespace.saysNothing e = true ↔ ∃ a : ApiError, e = .api a ∧ a.reason = "NotFound" := by
  cases e <;> simp [saysNothing]

/-- The characters of a path: a root, the version of the group, and the collection in small
letters. -/
theorem toList_path (r : Request) :
    r.path.toList =
      match r with
      | .list k _ =>
        (match k with
          | .storageClass | .cronJob | .volumeSnapshot | .validatingWebhookConfiguration
          | .mutatingWebhookConfiguration => "/apis/".toList
          | _ => "/api/".toList) ++ k.apiVersion.toList ++ ['/'] ++ k.collection.toList.map Char.toLower
      | .systemNamespace => "/api/v1/namespaces/kube-system".toList := by
  cases r with
  | list k selector => cases k <;> simp [path, Kind.path]
  | systemNamespace =>
    simp [path, Kind.path, Kind.apiVersion, Kind.collection, Snapshot.systemNamespaceName]

/-- **No two requests of a fetch go to one path**, so whatever is replied at a path is a reply
to one of them only. -/
theorem nodup_path_all (scope : Scope) : ((all scope).map path).Nodup := by
  have hchars : String.toList ∘ path = _ := funext toList_path
  refine List.Nodup.of_map String.toList ?_
  rw [List.map_map, hchars]
  simp only [all, Kind.all, List.map_cons, List.map_nil, ofKind, List.cons_append,
    List.nil_append]
  decide

end Request

/-! ## Asking -/

namespace Api

variable {api : Api} {limit : Option Duration} {scope : Scope}

/-- Every request of a fetch is answered, one way or the other, before the time is up. -/
def InTime (api : Api) (limit : Option Duration) (scope : Scope) : Prop :=
  ∀ r ∈ Request.all scope, (api r).isInTime limit = true

theorem isInTime_ask (r : Request) : (api.ask r).isInTime limit = (api r).isInTime limit := by
  unfold ask
  split
  · next h => rw [h]; rfl
  · rfl

/-- What an answer is taken for: content for what it is, and an error for nothing if that is
all it says. -/
theorem says_ask_ok_iff {r : Request} {a : r.Reply} :
    (api.ask r).Says (.ok a) ↔
      (api r).Says (.ok a) ∨ (∃ e, (api r).Says (.error e) ∧ r.saysNothing e = true) ∧ a = r.nothing := by
  unfold ask
  cases h : api r with
  | never => simp [Answer.Says]
  | after t content =>
    cases content with
    | ok b => simp [Answer.Says]
    | error e =>
      cases hnothing : r.saysNothing e with
      | false => simp [Answer.Says, hnothing]
      | true => simp [Answer.Says, hnothing, @eq_comm _ r.nothing a]

theorem says_ask_error_iff {r : Request} {e : ClusterError} :
    (api.ask r).Says (.error e) ↔ (api r).Says (.error e) ∧ r.saysNothing e = false := by
  unfold ask
  cases h : api r with
  | never => simp [Answer.Says]
  | after t content =>
    cases content with
    | ok b => simp [Answer.Says]
    | error e' =>
      simp only [Answer.Says, Answer.after.injEq, exists_eq_left', Except.error.injEq]
      by_cases he : e' = e
      · subst he
        cases r.saysNothing e' <;> simp
      · cases r.saysNothing e' <;> simp [he]

theorem brings_ask_iff {r : Request} (hin : (api r).isInTime limit = true) {a : r.Reply} :
    (api.ask r).Brings limit a ↔
      (api r).Says (.ok a) ∨ (∃ e, (api r).Says (.error e) ∧ r.saysNothing e = true) ∧ a = r.nothing := by
  rw [← says_ask_ok_iff]
  exact exists_congr fun t => and_iff_left ((isInTime_ask r).trans hin)

end Api

/-! ## What a fetch needs, and what it brings -/

namespace Api

/-- Every list is there, and the system namespace; but the cluster may do without volume
snapshots and without the system namespace, and say so. -/
structure Complete (api : Api) (scope : Scope) : Prop where
  clusterWide : ∀ k : Kind, k.isNamespaced = false → ∃ items, (api (.list k none)).Says (.ok items)
  namespaced : ∀ k : Kind, k.isNamespaced = true → k ≠ .volumeSnapshot →
    ∃ items, (api (.list k scope.fieldSelector)).Says (.ok items)
  volumeSnapshots : (∃ items, (api (.list .volumeSnapshot scope.fieldSelector)).Says (.ok items)) ∨
    ∃ e : ApiError, (api (.list .volumeSnapshot scope.fieldSelector)).Says (.error (.api e)) ∧ e.code = 404
  systemNamespace : (∃ n, (api .systemNamespace).Says (.ok n)) ∨
    ∃ e : ApiError, (api .systemNamespace).Says (.error (.api e)) ∧ e.reason = "NotFound"

end Api

end Cluster

open Cluster

/-- The snapshot holds what the requests of a fetch were answered with, each in its own place. -/
structure Snapshot.Records (s : Snapshot) (api : Api) (scope : Scope) : Prop where
  clusterWide : ∀ k : Kind, k.isNamespaced = false → (api (.list k none)).Says (.ok (s.items k))
  namespaced : ∀ k : Kind, k.isNamespaced = true → k ≠ .volumeSnapshot →
    (api (.list k scope.fieldSelector)).Says (.ok (s.items k))
  volumeSnapshots : (api (.list .volumeSnapshot scope.fieldSelector)).Says (.ok s.volumeSnapshots) ∨
    (∃ e : ApiError, (api (.list .volumeSnapshot scope.fieldSelector)).Says (.error (.api e)) ∧
      e.code = 404) ∧ s.volumeSnapshots = []
  systemNamespace : (api .systemNamespace).Says (.ok s.systemNamespace) ∨
    (∃ e : ApiError, (api .systemNamespace).Says (.error (.api e)) ∧ e.reason = "NotFound") ∧
      s.systemNamespace = none
  scope : s.scope = scope

namespace Cluster.Client

variable {c : Client} {api : Api} {scope : Scope} {s : Snapshot}

theorem fetchForRun_eq_ok_iff :
    c.fetchForRun api scope = some (.ok s) ↔ c.fetch api scope = some (.ok s) := by
  refine ⟨fun h => ?_, fetchForRun_eq_ok⟩
  unfold fetchForRun at h
  rcases hfetch : c.fetch api scope with _ | e | s'
  · simp [hfetch] at h
  · simp [hfetch, Except.mapError] at h
  · simpa [hfetch, Except.mapError] using h

/-- A fetch succeeds just if each of its requests brings something. -/
theorem exists_fetch_eq_ok_iff :
    (∃ s, c.fetch api scope = some (.ok s)) ↔
      ∀ r ∈ Request.all scope, ∃ a, (api.ask r).Brings c.timeout a := by
  rw [← conclude_requests_iff]
  unfold fetch
  rcases Answer.conclude c.timeout ((Request.all scope).map fun r => (api.ask r).ending) with _ | e | _
  · simp
  · simp
  · simp

theorem brings_of_fetch_eq_ok (h : c.fetch api scope = some (.ok s)) :
    (∀ k selector, Request.ofKind scope k = .list k selector →
        (api.ask (.list k selector)).Brings c.timeout (s.items k)) ∧
      (api.ask .systemNamespace).Brings c.timeout s.systemNamespace ∧ s.scope = scope := by
  have hall := exists_fetch_eq_ok_iff.1 ⟨s, h⟩
  have hend := conclude_requests_iff.2 hall
  simp only [fetch, hend, Option.some.injEq, Except.ok.injEq] at h
  subst h
  refine ⟨fun k selector hk => ?_, ?_, rfl⟩
  · obtain ⟨items, hitems⟩ := hall (.list k selector) (Request.mem_all_iff.2 (.inl ⟨k, hk.symm⟩))
    rw [Snapshot.items_build]
    cases hk
    exact hitems.contentOr []
  · obtain ⟨n, hn⟩ := hall _ (Request.mem_all_iff.2 (.inr rfl))
    exact hn.contentOr none

section InTime

variable (hin : api.InTime c.timeout scope)
include hin

/-- All lists but that of volume snapshots have to be there. -/
theorem brings_list_iff {k : Kind} (hk : k ≠ .volumeSnapshot) {selector : Option String}
    (hsel : Request.ofKind scope k = .list k selector) {items : List k.Item} :
    (api.ask (.list k selector)).Brings c.timeout items ↔ (api (.list k selector)).Says (.ok items) := by
  have hr := hin (.list k selector) (Request.mem_all_iff.2 (.inl ⟨k, hsel.symm⟩))
  simp [Api.brings_ask_iff hr, Request.saysNothing_list hk]

theorem brings_volumeSnapshots_iff {items : List VolumeSnapshot} :
    (api.ask (.list .volumeSnapshot scope.fieldSelector)).Brings c.timeout items ↔
      (api (.list .volumeSnapshot scope.fieldSelector)).Says (.ok items) ∨
        (∃ e : ApiError, (api (.list .volumeSnapshot scope.fieldSelector)).Says (.error (.api e)) ∧
          e.code = 404) ∧ items = [] := by
  have hr := hin (.list .volumeSnapshot scope.fieldSelector)
    (Request.mem_all_iff.2 (.inl ⟨.volumeSnapshot, rfl⟩))
  rw [Api.brings_ask_iff hr]
  refine or_congr_right (and_congr_left' ⟨?_, ?_⟩)
  · rintro ⟨e, he, hnothing⟩
    obtain ⟨a, rfl, ha⟩ := Request.saysNothing_volumeSnapshot.1 hnothing
    exact ⟨a, he, ha⟩
  · rintro ⟨a, he, ha⟩
    exact ⟨_, he, Request.saysNothing_volumeSnapshot.2 ⟨a, rfl, ha⟩⟩

theorem brings_systemNamespace_iff {n : Option Namespace} :
    (api.ask .systemNamespace).Brings c.timeout n ↔
      (api .systemNamespace).Says (.ok n) ∨
        (∃ e : ApiError, (api .systemNamespace).Says (.error (.api e)) ∧ e.reason = "NotFound") ∧
          n = none := by
  rw [Api.brings_ask_iff (hin .systemNamespace (Request.mem_all_iff.2 (.inr rfl)))]
  refine or_congr_right (and_congr_left' ⟨?_, ?_⟩)
  · rintro ⟨e, he, hnothing⟩
    obtain ⟨a, rfl, ha⟩ := Request.saysNothing_systemNamespace.1 hnothing
    exact ⟨a, he, ha⟩
  · rintro ⟨a, he, ha⟩
    exact ⟨_, he, Request.saysNothing_systemNamespace.2 ⟨a, rfl, ha⟩⟩

theorem records_of_fetch_eq_ok (h : c.fetch api scope = some (.ok s)) : s.Records api scope := by
  obtain ⟨hlists, hsystem, hscope⟩ := brings_of_fetch_eq_ok h
  have hplain : ∀ k ≠ .volumeSnapshot, ∀ selector, Request.ofKind scope k = .list k selector →
      (api (.list k selector)).Says (.ok (s.items k)) := fun k hk selector hsel =>
    (brings_list_iff hin hk hsel).1 (hlists k selector hsel)
  refine ⟨fun k hk => ?_, fun k hk hne => ?_, ?_, (brings_systemNamespace_iff hin).1 hsystem, hscope⟩
  · have hne : k ≠ .volumeSnapshot := fun he => by simp [he, Kind.isNamespaced] at hk
    exact hplain k hne none (Request.ofKind_of_clusterWide hk)
  · exact hplain k hne _ (Request.ofKind_of_isNamespaced hk)
  · exact (brings_volumeSnapshots_iff hin).1 (hlists .volumeSnapshot _ rfl)

theorem complete_iff : api.Complete scope ↔ ∀ r ∈ Request.all scope, ∃ a, (api.ask r).Brings c.timeout a := by
  constructor
  · intro h r hr
    rcases Request.mem_all_iff.1 hr with ⟨k, rfl⟩ | rfl
    · by_cases hk : k = .volumeSnapshot
      · subst hk
        rcases h.volumeSnapshots with ⟨items, hitems⟩ | he
        · exact ⟨items, (brings_volumeSnapshots_iff hin).2 (.inl hitems)⟩
        · exact ⟨[], (brings_volumeSnapshots_iff hin).2 (.inr ⟨he, rfl⟩)⟩
      · cases hns : k.isNamespaced with
        | false =>
          obtain ⟨items, hitems⟩ := h.clusterWide k hns
          have hsel : Request.ofKind scope k = .list k none := Request.ofKind_of_clusterWide hns
          rw [hsel]
          exact ⟨items, (brings_list_iff hin hk hsel).2 hitems⟩
        | true =>
          obtain ⟨items, hitems⟩ := h.namespaced k hns hk
          have hsel : Request.ofKind scope k = .list k scope.fieldSelector :=
            Request.ofKind_of_isNamespaced hns
          rw [hsel]
          exact ⟨items, (brings_list_iff hin hk hsel).2 hitems⟩
    · rcases h.systemNamespace with ⟨n, hn⟩ | he
      · exact ⟨n, (brings_systemNamespace_iff hin).2 (.inl hn)⟩
      · exact ⟨none, (brings_systemNamespace_iff hin).2 (.inr ⟨he, rfl⟩)⟩
  · intro h
    obtain ⟨s, hs⟩ := exists_fetch_eq_ok_iff.2 h
    have hrecords := records_of_fetch_eq_ok hin hs
    exact ⟨fun k hk => ⟨_, hrecords.clusterWide k hk⟩, fun k hk hne => ⟨_, hrecords.namespaced k hk hne⟩,
      hrecords.volumeSnapshots.imp (fun h => ⟨_, h⟩) And.left,
      hrecords.systemNamespace.imp (fun h => ⟨_, h⟩) And.left⟩

/-- An incomplete fetch fails with an error that one of its requests was answered with. -/
theorem fetch_eq_error (h : ¬ api.Complete scope) :
    ∃ r ∈ Request.all scope, ∃ e, (api r).Says (.error e) ∧ r.saysNothing e = false ∧
      c.fetch api scope = some (.error e) := by
  have hin' : ∀ x ∈ (Request.all scope).map fun r => (api.ask r).ending, x.isInTime c.timeout = true := by
    intro x hx
    obtain ⟨r, hr, rfl⟩ := List.mem_map.1 hx
    rw [Answer.isInTime_ending, Api.isInTime_ask]
    exact hin r hr
  rcases Answer.conclude_of_isInTime hin' with hok | ⟨x, hx, e, he, herror⟩
  · exact absurd ((complete_iff hin).2 (conclude_requests_iff.1 hok)) h
  · obtain ⟨r, hr, rfl⟩ := List.mem_map.1 hx
    obtain ⟨hsaid, hnothing⟩ := Api.says_ask_error_iff.1 (Answer.says_ending_error_iff.1 he)
    exact ⟨r, hr, e, hsaid, hnothing, by simp only [fetch, herror]⟩

/-- **A fetch is complete or fails.** With all answers in time it succeeds just if every list
is there, where volume snapshots may be unknown to the server, and the system namespace is
there or not found. Then the snapshot holds for each kind what the request for that kind was
answered with, with the scope's selector for what lives in namespaces and none for the rest.
Otherwise it fails with the error that some request was answered with, and not finding any
list but that of volume snapshots is such an error. No two requests go to one path. -/
theorem fetch_whole_or_fails :
    ((∃ s, c.fetchForRun api scope = some (.ok s)) ↔ api.Complete scope) ∧
    (∀ s, c.fetchForRun api scope = some (.ok s) → s.Records api scope) ∧
    (¬ api.Complete scope → ∃ r ∈ Request.all scope, ∃ e, (api r).Says (.error e) ∧
      r.saysNothing e = false ∧ c.fetchForRun api scope = some (.error (.fetch e.message))) ∧
    (∀ k ≠ .volumeSnapshot, ∀ e : ApiError, e.code = 404 →
      (api (.list k (if k.isNamespaced then scope.fieldSelector else none))).Says (.error (.api e)) →
        ∃ message, c.fetchForRun api scope = some (.error (.fetch message))) ∧
    ((Request.all scope).map Request.path).Nodup := by
  have hfails : ¬ api.Complete scope → ∃ r ∈ Request.all scope, ∃ e, (api r).Says (.error e) ∧
      r.saysNothing e = false ∧ c.fetchForRun api scope = some (.error (.fetch e.message)) := by
    intro h
    obtain ⟨r, hr, e, he, hnothing, hfetch⟩ := fetch_eq_error hin h
    exact ⟨r, hr, e, he, hnothing, by rw [fetchForRun, hfetch]; rfl⟩
  refine ⟨?_, fun s hs => ?_, hfails, fun k hk e _ he => ?_, Request.nodup_path_all scope⟩
  · simp only [fetchForRun_eq_ok_iff, exists_fetch_eq_ok_iff, complete_iff hin]
  · exact records_of_fetch_eq_ok hin (fetchForRun_eq_ok_iff.1 hs)
  · have hincomplete : ¬ api.Complete scope := by
      intro h
      obtain ⟨items, hitems⟩ := (complete_iff hin).1 h _ (Request.mem_all_iff.2 (.inl ⟨k, rfl⟩))
      have hsaid := (brings_list_iff hin hk rfl).1 hitems
      cases hsaid.unique he
    obtain ⟨_, _, e, _, _, hfetch⟩ := hfails hincomplete
    exact ⟨e.message, hfetch⟩

end InTime

/-! ## Servers that lack something -/

/-- What a server says of something that it does not know. -/
def notFound : ClusterError := .api { status := "Failure", reason := "NotFound", code := 404 }

/-- A server with a node and a pod, and neither volume snapshots nor a system namespace. -/
def sparse : Api
  | .list .node _ => .after 20 (.ok [{ metadata := { name? := some "node-1" } }])
  | .list .pod _ => .after 30 (.ok [{ metadata := { name? := some "web", ns := some "prod" } }])
  | .list .volumeSnapshot _ => .after 10 (.error notFound)
  | .list _ _ => .after 0 (.ok [])
  | .systemNamespace => .after 5 (.error notFound)

/-- The same server, which does not know secrets either. -/
def sparser : Api
  | .list .secret _ => .after 15 (.error notFound)
  | r => sparse r

/-- All namespaces but that of the system. -/
def ofUsers : Scope := ⟨{ excluded := ["kube-system"] }⟩

/-- A client that waits for half a minute. -/
def patient : Client := { timeout := some (.ofSeconds 30) }

theorem complete_sparse : sparse.Complete ofUsers where
  clusterWide := fun k hk => by
    cases k <;> first | contradiction | exact ⟨_, _, rfl⟩
  namespaced := fun k hk hne => by
    cases k <;> first | contradiction | exact ⟨_, _, rfl⟩
  volumeSnapshots := .inr ⟨_, ⟨_, rfl⟩, rfl⟩
  systemNamespace := .inr ⟨_, ⟨_, rfl⟩, rfl⟩

theorem not_complete_sparser : ¬ sparser.Complete ofUsers := by
  intro h
  obtain ⟨items, t, hitems⟩ := h.namespaced .secret rfl (by decide)
  cases hitems

theorem fetch_whole_or_fails_sparse :
    sparse.InTime patient.timeout ofUsers ∧ sparser.InTime patient.timeout ofUsers ∧
      (∃ s, patient.fetchForRun sparse ofUsers = some (.ok s) ∧ s.Records sparse ofUsers ∧
        s.pods.length = 1) ∧
      ¬ sparser.Complete ofUsers ∧
      ∃ message, patient.fetchForRun sparser ofUsers = some (.error (.fetch message)) := by
  have hin : sparse.InTime patient.timeout ofUsers := by
    intro r hr
    rcases Request.mem_all_iff.1 hr with ⟨k, rfl⟩ | rfl
    · cases k <;> decide
    · decide
  have hin' : sparser.InTime patient.timeout ofUsers := by
    intro r hr
    rcases Request.mem_all_iff.1 hr with ⟨k, rfl⟩ | rfl
    · cases k <;> decide
    · decide
  refine ⟨hin, hin', ?_, not_complete_sparser, ?_⟩
  · obtain ⟨s, hs⟩ := (fetch_whole_or_fails hin).1.2 complete_sparse
    have hrecords : s.Records sparse ofUsers := (fetch_whole_or_fails hin).2.1 s hs
    obtain ⟨t, ht⟩ := hrecords.namespaced .pod rfl (by decide)
    refine ⟨s, hs, hrecords, ?_⟩
    rw [show s.pods = s.items .pod from rfl, ← Except.ok.inj (Answer.after.inj ht).2]
    rfl
  · exact (fetch_whole_or_fails hin').2.2.2.1 .secret (by decide)
      { status := "Failure", reason := "NotFound", code := 404 } rfl ⟨_, rfl⟩

end Cluster.Client

end ClusterAudit
