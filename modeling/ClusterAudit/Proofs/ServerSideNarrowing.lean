/-
Asking the API server for less does not change what is seen. A fetch in a scope
sends the scope's conditions along with its list requests; narrowed to the
scope, its snapshot is the one that a fetch of everything gives.

The server is any `Api` that `Serves` the contents of a cluster. Nothing is
assumed of when it answers, but for being in time, and nothing of selectors that
cannot be read or that come with objects outside of namespaces.
-/
import ClusterAudit.Proofs.FetchFacts
import ClusterAudit.Proofs.FieldSelector
import ClusterAudit.Proofs.Narrowing

namespace ClusterAudit

open Scope (Term)

/-! ## The contents of a server -/

namespace Snapshot

/-- The objects of a kind whose namespaces meet all conditions. -/
def selected (s : Snapshot) (k : Kind) (terms : List Term) : List k.Item :=
  (s.items k).filter fun o => terms.all (·.holds (k.metadata o).home)

/-- What a server that holds `s` replies to a request. -/
def reply? (s : Snapshot) : (r : Cluster.Request) → Option r.Reply
  | .list k none => some (s.items k)
  | .list k (some selector) =>
    if k.isNamespaced then (Scope.readSelector? selector).map (s.selected k) else none
  | .systemNamespace => some s.systemNamespace

/-- What a fetch in a scope gets from such a server. -/
def fetched (s : Snapshot) (scope : Scope) : Snapshot :=
  build (fun k => if k.isNamespaced then s.selected k scope.terms else s.items k)
    s.systemNamespace scope

@[simp] theorem selected_nil (s : Snapshot) (k : Kind) : s.selected k [] = s.items k := by
  simp [selected]

/-- Conditions that everything in a scope meets leave all that the scope covers. -/
theorem filter_covers_selected {s : Snapshot} (hs : s.Housed) {k : Kind} (hk : k.isNamespaced = true)
    {scope : Scope} {terms : List Term}
    (h : ∀ ns, scope.covers (some ns) = true → ∀ t ∈ terms, t.holds ns = true) :
    (s.selected k terms).filter (fun o => scope.covers (k.metadata o).ns) =
      (s.items k).filter fun o => scope.covers (k.metadata o).ns := by
  rw [selected, List.filter_filter]
  refine List.filter_congr fun o ho => ?_
  obtain ⟨ns, hns⟩ := Option.ne_none_iff_exists'.1 (hs k hk o ho)
  have hhome : (k.metadata o).home = ns := by simp [Metadata.home, hns]
  rw [hhome, hns, Bool.eq_iff_iff, Bool.and_eq_true, List.all_eq_true]
  exact ⟨And.left, fun hc => ⟨hc, h ns hc⟩⟩

theorem narrow_fetched {s : Snapshot} (hs : s.Housed) {asked scope : Scope}
    (h : ∀ ns, scope.covers (some ns) = true → ∀ t ∈ asked.terms, t.holds ns = true) :
    (s.fetched asked).narrow scope = s.narrow scope := by
  refine ext (fun k => ?_) rfl rfl
  rw [items_narrow, items_narrow, fetched, items_build]
  cases hk : k.isNamespaced with
  | false => simp
  | true => simpa using filter_covers_selected hs hk h

end Snapshot

/-! ## Fetching from it -/

namespace Cluster

/-- Whatever the server is asked, it replies from `s`, and in time. An error that
only says that there is nothing counts as a reply. -/
def Api.Serves (api : Api) (limit : Option Duration) (s : Snapshot) : Prop :=
  ∀ r reply, s.reply? r = some reply → (api.ask r).Brings limit reply

/-- A server that holds `s` and takes no time. It refuses selectors that it cannot
read, and says so if there is no system namespace. -/
def Api.holding (s : Snapshot) : Api
  | .list k selector =>
    match s.reply? (.list k selector) with
    | some items => .after 0 (.ok items)
    | none => .after 0 (.error (.api { status := "Failure", reason := "BadRequest", code := 400 }))
  | .systemNamespace =>
    match s.systemNamespace with
    | some n => .after 0 (.ok (some n))
    | none => .after 0 (.error (.api { status := "Failure", reason := "NotFound", code := 404 }))

theorem Answer.isInTime_now {α : Type} (limit : Option Duration) (x : Except ClusterError α) :
    (Answer.after 0 x).isInTime limit = true := by
  cases limit <;> simp [isInTime, Duration.ofMilliseconds]

theorem Api.serves_holding (limit : Option Duration) (s : Snapshot) : (holding s).Serves limit s := by
  intro r reply hr
  have hask : (holding s).ask r = .after 0 (.ok reply) := by
    cases r with
    | list k selector => simp [ask, holding, hr]
    | systemNamespace =>
      cases hr
      cases hn : s.systemNamespace with
      | none => simp [ask, holding, hn, Request.saysNothing, Request.nothing]
      | some n => simp [ask, holding, hn]
  exact ⟨0, hask, hask ▸ Answer.isInTime_now limit _⟩

variable {c : Client} {api : Api} {s : Snapshot} {scope : Scope}

theorem reply?_list (h : ∀ ns ∈ scope.included ++ scope.excluded, Term.Plain ns) {k : Kind}
    {selector : Option String} (hsel : (if k.isNamespaced then scope.fieldSelector else none) = selector) :
    s.reply? (.list k selector) = some ((s.fetched scope).items k) := by
  rw [Snapshot.fetched, Snapshot.items_build]
  cases hk : k.isNamespaced with
  | false =>
    simp only [hk, Bool.false_eq_true, if_false] at hsel ⊢
    subst hsel
    rfl
  | true =>
    simp only [hk, if_true] at hsel ⊢
    cases selector with
    | none => simp [Snapshot.reply?, Scope.terms_eq_nil_of_fieldSelector hsel]
    | some selector => simp [Snapshot.reply?, hk, Scope.readSelector?_fieldSelector h hsel]

/-- A fetch from such a server brings what the conditions of its scope leave. -/
theorem Api.Serves.fetch_eq (hserves : api.Serves c.timeout s)
    (h : ∀ ns ∈ scope.included ++ scope.excluded, Term.Plain ns) :
    c.fetchForRun api scope = some (.ok (s.fetched scope)) := by
  let reply : (r : Request) → r.Reply
    | .list k _ => (s.fetched scope).items k
    | .systemNamespace => s.systemNamespace
  refine Client.fetchForRun_eq_ok (Client.fetch_eq_ok reply fun r hr => ?_)
  simp only [Request.all, List.mem_append, List.mem_map, List.mem_singleton] at hr
  rcases hr with ⟨k, -, rfl⟩ | rfl
  · exact hserves _ _ (reply?_list h rfl)
  · exact hserves _ _ rfl

/-- **Narrowing on the server's side only saves work.** Fetched in a scope or
fetched in full, a cluster comes to the same snapshot once it is narrowed to the
scope, and that is the snapshot of all that the scope covers. -/
theorem narrow_fetch_eq_narrow_fetch_all (hserves : api.Serves c.timeout s) (hs : s.Housed)
    (h : ∀ ns ∈ scope.included ++ scope.excluded, Term.Plain ns) :
    ∃ part whole, c.fetchForRun api scope = some (.ok part) ∧
      c.fetchForRun api .all = some (.ok whole) ∧
      part.narrow scope = whole.narrow scope ∧ whole.narrow scope = s.narrow scope := by
  have hall : ∀ ns ∈ Scope.all.included ++ Scope.all.excluded, Term.Plain ns := fun _ hns => by cases hns
  have hpart : (s.fetched scope).narrow scope = s.narrow scope :=
    Snapshot.narrow_fetched hs fun _ hc _ ht => Scope.holds_of_covers hc ht
  have hwhole : (s.fetched .all).narrow scope = s.narrow scope :=
    Snapshot.narrow_fetched hs fun _ _ _ ht => by cases ht
  exact ⟨_, _, hserves.fetch_eq h, hserves.fetch_eq hall, hpart.trans hwhole.symm, hwhole⟩

/-- A pod and a secret in each of three namespaces, and a node. -/
def threeNamespaces : Snapshot where
  nodes := [{ metadata := { name? := some "node-1" } }]
  pods := ["prod", "dev", "kube-system"].map fun ns =>
    { metadata := { name? := some "web", ns := some ns } }
  secrets := ["prod", "dev", "kube-system"].map fun ns =>
    { metadata := { name? := some "token", ns := some ns } }

theorem housed_threeNamespaces : threeNamespaces.Housed := by
  intro k _ o ho
  cases k <;> simp [Snapshot.items, threeNamespaces] at ho
  case pod => rcases ho with rfl | rfl | rfl <;> simp [Kind.metadata]
  case secret => rcases ho with rfl | rfl | rfl <;> simp [Kind.metadata]
  case node => subst ho; contradiction

/-- All but two of the namespaces. -/
def butTwo : Scope := ⟨{ excluded := ["dev", "kube-system"] }⟩

theorem narrow_fetch_eq_narrow_fetch_all_butTwo :
    (Api.holding threeNamespaces).Serves (some (.ofSeconds 30)) threeNamespaces ∧
      threeNamespaces.Housed ∧
      (∀ ns ∈ butTwo.included ++ butTwo.excluded, Term.Plain ns) ∧
      ∃ part whole,
        Client.fetchForRun { timeout := some (.ofSeconds 30) } (.holding threeNamespaces) butTwo =
          some (.ok part) ∧
        Client.fetchForRun { timeout := some (.ofSeconds 30) } (.holding threeNamespaces) .all =
          some (.ok whole) ∧
        part.narrow butTwo = whole.narrow butTwo ∧
        whole.narrow butTwo = threeNamespaces.narrow butTwo := by
  have hserves := Api.serves_holding (some (.ofSeconds 30)) threeNamespaces
  have hplain : ∀ ns ∈ butTwo.included ++ butTwo.excluded, Term.Plain ns := by
    intro ns hns
    have hns : ns = "dev" ∨ ns = "kube-system" := by simpa [butTwo] using hns
    rcases hns with rfl | rfl <;> decide
  exact ⟨hserves, housed_threeNamespaces, hplain,
    narrow_fetch_eq_narrow_fetch_all hserves housed_threeNamespaces hplain⟩

end Cluster

end ClusterAudit
