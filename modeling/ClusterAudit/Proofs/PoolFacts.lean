/-
What has become of a pool of workers once some of them are through, whichever
they are and whenever they finished.

`Pool.After.finish` is one step: a worker that is still running finishes.
`Schedule.after_play` is a whole run. `exists_schedule_of_steps` says that a
`Schedule` leaves out no run: any sequence of steps to an end is one.
-/
import Mathlib.Logic.Relation
import ClusterAudit.Workers

namespace ClusterAudit

namespace Check

/-- What a run that has `c` among its checks fails with, if it is for `c`. -/
def failure? (c : Check) (s : Snapshot) : Option Failure :=
  (c.run s).complaint?.map (.checkFailed c.name)

/-- What `c` hands in. -/
def batch (c : Check) (s : Snapshot) : List Diagnostic := (c.run s).diagnostics

end Check

/-- The checks numbered by `order`, in that order. -/
def picked (checks : List Check) (order : List Nat) : List Check := order.filterMap (checks[·]?)

theorem picked_range (checks : List Check) : picked checks (List.range checks.length) = checks := by
  induction checks with
  | nil => rfl
  | cons c checks ih =>
    rw [List.length_cons, List.range_succ_eq_map, picked, List.filterMap_cons, List.filterMap_map]
    exact congrArg (c :: ·) ih

namespace Pool

variable {s : Snapshot} {checks : List Check} {done : List Nat} {p : Pool}

/-- The pool of `checks` after the workers numbered by `done` have finished, in
that order. -/
structure After (s : Snapshot) (checks : List Check) (done : List Nat) (p : Pool) : Prop where
  worker : ∀ i, p.workers[i]? =
    checks[i]?.map fun c => if i ∈ done then .finished (c.failure? s) else .running c
  collected : p.collected = (picked checks done).flatMap (·.batch s)

theorem after_start : After s checks [] (start checks) :=
  ⟨fun i => by simp [start], rfl⟩

/-- **One step.** -/
theorem After.finish (h : After s checks done p) {i : Nat} (hi : i ∉ done) (hlt : i < checks.length) :
    After s checks (done ++ [i]) (p.finish s i) := by
  have hcheck : checks[i]? = some checks[i] := List.getElem?_eq_getElem hlt
  have hrunning : p.workers[i]? = some (.running checks[i]) := by simp [h.worker, hcheck, hi]
  have hlen : i < p.workers.length := (List.getElem?_eq_some_iff.1 hrunning).1
  refine ⟨fun j => ?_, ?_⟩
  · simp only [Pool.finish, hrunning, List.getElem?_set, hlen]
    by_cases hij : i = j
    · subst hij
      simp [hcheck, Check.failure?]
    · have hmem : j ∈ done ++ [i] ↔ j ∈ done := by simp [Ne.symm hij]
      simp only [hij, if_false, h.worker, hmem]
  · simp [Pool.finish, hrunning, h.collected, picked, hcheck, Check.batch]

/-- **A run**, one step after the other. -/
theorem After.foldl_finish (h : After s checks done p) {order : List Nat} (hn : (done ++ order).Nodup)
    (hlt : ∀ i ∈ order, i < checks.length) :
    After s checks (done ++ order) (order.foldl (Pool.finish s) p) := by
  induction order generalizing done p with
  | nil => simpa using h
  | cons i order ih =>
    rw [List.append_cons] at hn ⊢
    have hi : i ∉ done := fun hm => by
      have := (List.nodup_append.1 (List.nodup_append.1 hn).1).2.2 i hm i (by simp)
      exact this rfl
    exact ih (h.finish hi (hlt i (by simp))) hn fun j hj => hlt j (by simp [hj])

/-- Once all are through, what each check has come to no longer depends on the
order. -/
theorem After.workers_eq (h : After s checks done p) (hall : ∀ i < checks.length, i ∈ done) :
    p.workers = checks.map fun c => .finished (c.failure? s) := by
  refine List.ext_getElem? fun i => ?_
  rw [h.worker, List.getElem?_map]
  by_cases hi : i < checks.length
  · simp [hall i hi]
  · simp [List.getElem?_eq_none (Nat.le_of_not_lt hi)]

theorem After.failure?_eq (h : After s checks done p) (hall : ∀ i < checks.length, i ∈ done) :
    p.failure? = checks.findSome? (·.failure? s) := by
  simp only [Pool.failure?, h.workers_eq hall, List.findSome?_map]
  rfl

end Pool

namespace Schedule

/-- The last one first. -/
def inReverse : Schedule := ⟨fun n => (List.range n).reverse, fun _ => List.reverse_perm _⟩

variable (t : Schedule) (s : Snapshot) (checks : List Check)

/-- The checks in the order in which their workers finish. -/
def finishing : List Check := picked checks (t.order checks.length)

theorem finishing_perm : (t.finishing checks).Perm checks := by
  have h : (t.finishing checks).Perm (picked checks (List.range checks.length)) :=
    (t.perm checks.length).filterMap _
  rwa [picked_range] at h

theorem mem_order {n i : Nat} : i ∈ t.order n ↔ i < n := by
  rw [(t.perm n).mem_iff, List.mem_range]

theorem after_play : Pool.After s checks (t.order checks.length) (t.play s checks) := by
  have hn : (t.order checks.length).Nodup := (t.perm _).nodup_iff.2 List.nodup_range
  exact Pool.after_start.foldl_finish (by simpa using hn) fun i hi => t.mem_order.1 hi

theorem collected_play :
    (t.play s checks).collected = (t.finishing checks).flatMap (·.batch s) :=
  (t.after_play s checks).collected

theorem failure?_play : (t.play s checks).failure? = checks.findSome? (·.failure? s) :=
  (t.after_play s checks).failure?_eq fun _ hi => t.mem_order.2 hi

end Schedule

/-! ## Runs as sequences of steps -/

namespace Pool

/-- Some worker that is still running finishes. -/
inductive Step (s : Snapshot) : Pool → Pool → Prop where
  | finish {p : Pool} {i : Nat} {c : Check} (h : p.workers[i]? = some (.running c)) :
    Step s p (p.finish s i)

/-- No worker is running any more. -/
def Done (p : Pool) : Prop := ∀ c, Worker.running c ∉ p.workers

variable {s : Snapshot} {checks : List Check} {p : Pool}

theorem exists_order_of_steps (h : Relation.ReflTransGen (Step s) (start checks) p) :
    ∃ order : List Nat, order.Nodup ∧ (∀ i ∈ order, i < checks.length) ∧
      p = order.foldl (finish s) (start checks) := by
  induction h with
  | refl => exact ⟨[], by simp, by simp, rfl⟩
  | tail _ hstep ih =>
    obtain ⟨order, hn, hlt, rfl⟩ := ih
    cases hstep with
    | @finish i c hrunning =>
      have hafter := after_start.foldl_finish (s := s) (by simpa using hn) hlt
      rw [hafter.worker, Option.map_eq_some_iff] at hrunning
      obtain ⟨c', hc', hrunning⟩ := hrunning
      have hi : i ∉ order := fun hm => by simp [hm] at hrunning
      refine ⟨order ++ [i], ?_, ?_, by simp⟩
      · refine List.nodup_append.2 ⟨hn, by simp, fun a ha b hb he => hi ?_⟩
        rwa [he, List.mem_singleton.1 hb] at ha
      · simpa [or_imp, forall_and] using ⟨hlt, (List.getElem?_eq_some_iff.1 hc').1⟩

/-- **Every run is one of a schedule.** -/
theorem exists_schedule_of_steps (h : Relation.ReflTransGen (Step s) (start checks) p) (hd : p.Done) :
    ∃ t : Schedule, p = t.play s checks := by
  obtain ⟨order, hn, hlt, rfl⟩ := exists_order_of_steps h
  have hafter := after_start.foldl_finish (s := s) (by simpa using hn) hlt
  have hall : ∀ i, i ∈ order ↔ i < checks.length := by
    refine fun i => ⟨hlt i, fun hi => ?_⟩
    refine Decidable.byContradiction fun hni => ?_
    refine hd checks[i] (List.mem_of_getElem? (?_ : _[i]? = _))
    simp [hafter.worker, hi, hni]
  have hperm : order.Perm (List.range checks.length) :=
    (List.perm_ext_iff_of_nodup hn List.nodup_range).2 fun i => by rw [hall, List.mem_range]
  refine ⟨⟨fun n => if n = checks.length then order else List.range n, fun n => ?_⟩, ?_⟩
  · by_cases hlen : n = checks.length
    · subst hlen
      simpa using hperm
    · simp [hlen]
  · simp [Schedule.play]

end Pool

end ClusterAudit
