import GuardedWork.Proofs.Pool.Places

namespace GuardedWork

variable {α ρ : Type}

namespace WorkerPool

-- How far the counter of an outcome has grown under the name of the pool.
def growth (p : WorkerPool) (s : PoolState α ρ) (kind : OutcomeKind) : Nat :=
  (p.counts s).countP (Count.same (.jobHandled p.name kind.text))

theorem same_kind (name : String) (kind other : OutcomeKind) :
    Count.same (.jobHandled name kind.text) (.jobHandled name other.text) = (kind == other) := by
  have apart : name ++ kind.text = name ++ other.text ↔ kind = other := by
    rw [String.append_right_inj]
    cases kind <;> cases other <;> decide
  rw [Count.same, Bool.eq_iff_iff, Bool.and_eq_true_iff, beq_iff_eq, beq_iff_eq, beq_iff_eq]
  exact (and_iff_right rfl).trans apart

theorem growth_eq (p : WorkerPool) (s : PoolState α ρ) (kind : OutcomeKind) : p.growth s kind = s.counted.count kind := by
  rw [growth, counts, List.countP_map, List.countP_reverse, List.count]
  congr 1
  funext other
  rw [Function.comp, same_kind, BEq.comm]

theorem growth_inAll (p : WorkerPool) (s : PoolState α ρ) :
    p.growth s .completed + p.growth s .failed + p.growth s .cancelled = s.counted.length := by
  rw [growth_eq, growth_eq, growth_eq]
  induction s.counted with
  | nil => rfl
  | cons kind rest ih => cases kind <;> simp <;> omega

end WorkerPool

namespace PoolState

variable {plan : PoolPlan α ρ} {a : Assignment α ρ} {size i : Nat} {first s t : PoolState α ρ} {action : PoolAction}
  {path : List PoolAction} {w : Worker α ρ}

theorem results_same (same : t.parcels = s.parcels) : t.everyResult.Perm s.everyResult := by
  rw [← Multiset.coe_eq_coe, ← everyResult_parcels, same, everyResult_parcels]

theorem results_other {p q : Parcel α ρ} {rest : Multiset (Parcel α ρ)} (before : s.parcels = p ::ₘ rest)
    (after : t.parcels = q ::ₘ rest) (none : p.result? = none) :
    t.everyResult.Perm (q.result?.toList ++ s.everyResult) := by
  have others : (↑s.everyResult : Multiset (JobResult ρ)) = rest.filterMap Parcel.result? := by
    rw [← everyResult_parcels, before, Multiset.filterMap_cons_none _ _ none]
  rw [← Multiset.coe_eq_coe, ← Multiset.coe_add, others, ← everyResult_parcels, after]
  cases result : q.result? with
  | none => simp [Multiset.filterMap_cons_none _ _ result]
  | some r => simp [Multiset.filterMap_cons_some _ _ _ result]

structure Booked (s : PoolState α ρ) : Prop where
  counted : s.counted.Perm (s.everyResult.map fun r => r.outcome.kind)
  handled : ∀ i n, (s.workers.map Worker.handled)[i]? = some n → n = s.everyResult.countP fun r => r.worker == i
  workers : ∀ r ∈ s.everyResult, r.worker < s.workers.length

theorem booked_same (booked : Booked s) (same : t.everyResult.Perm s.everyResult) (unwritten : t.books = s.books) :
    Booked t := by
  obtain ⟨counted, handled⟩ := Prod.mk.inj unwritten
  refine ⟨?_, ?_, ?_⟩
  · rw [counted]
    exact booked.counted.trans (same.map _).symm
  · intro i n found
    rw [handled] at found
    rw [same.countP_eq]
    exact booked.handled i n found
  · intro r member
    have size := congrArg List.length handled
    rw [List.length_map, List.length_map] at size
    rw [size]
    exact booked.workers r (same.mem_iff.mp member)

theorem move_booked (booked : Booked s) (move : Move plan s action t) : Booked t := by
  cases move_shift move with
  | kept count same unwritten => exact booked_same booked (results_same same) unwritten
  | lost job rest count before after panics unwritten =>
    exact booked_same booked (results_other before after rfl) unwritten
  | accepted offers count after unwritten =>
    refine booked_same booked ?_ unwritten
    rw [← Multiset.coe_eq_coe, ← everyResult_parcels, after, Multiset.filterMap_cons_none _ _ rfl, everyResult_parcels]
  | answered job worker outcome rest count before after turn written =>
    have results : t.everyResult.Perm (⟨job.id, worker, outcome⟩ :: s.everyResult) := results_other before after rfl
    obtain ⟨counted, handled⟩ := Prod.mk.inj written
    have inside : worker < s.workers.length := by
      cases turn with
      | carriedOut found | skipped found => exact (List.getElem?_eq_some_iff.mp found).1
    refine ⟨?_, ?_, ?_⟩
    · rw [counted]
      have kinds := results.map fun r : JobResult ρ => r.outcome.kind
      exact (booked.counted.cons outcome.kind).trans kinds.symm
    · intro i n found
      rw [handled, List.getElem?_modify] at found
      obtain ⟨old, was, now⟩ := Option.map_eq_some_iff.mp found
      rw [results.countP_eq]
      have before := booked.handled i old was
      by_cases here : worker = i
      · simp [here] at now ⊢
        omega
      · simp [here] at now ⊢
        omega
    · intro r member
      rw [move_size move]
      rcases List.mem_cons.mp (results.mem_iff.mp member) with rfl | old
      · exact inside
      · exact booked.workers r old

theorem opening_booked (opened : a.opening? size = some s) : Booked s := by
  have fresh : s.everyResult = [] ∧ s.counted = [] ∧ s.workers = List.replicate size .idle := by
    have idle : (List.replicate size (Worker.idle : Worker α ρ)).flatMap Worker.results = [] := by
      simp [List.flatMap_eq_nil_iff, Worker.idle, Worker.results]
    rcases opening_cases opened with rfl | ⟨d, _, _, _, rfl⟩ <;> simp [everyResult, start, idle]
  obtain ⟨none, uncounted, idle⟩ := fresh
  refine ⟨by simp [none, uncounted], ?_, by simp [none]⟩
  intro i n found
  rw [idle, List.map_replicate] at found
  rw [none, List.eq_of_mem_replicate (List.mem_of_getElem? found)]
  rfl

theorem opened_booked (opened : a.opening? size = some first) (run : Runs a.plan first path s) : Booked s :=
  runs_keep move_booked run (opening_booked opened)

theorem booked_worker (booked : Booked s) (found : s.workers[i]? = some w) :
    w.handled = s.everyResult.countP fun r => r.worker == i :=
  booked.handled i w.handled (by simp [found])

theorem report_worker (booked : Booked s) (found : s.workers[i]? = some w) : s.report.handled[i]? =
    some (if w.hasPanicked then 0 else s.everyResult.countP fun r => r.worker == i) := by
  rw [← booked_worker booked found]
  simp [report, found]

theorem range_once (k n : Nat) : ((List.range n).map fun i => if k == i then 1 else 0).sum = if k < n then 1 else 0 := by
  induction n with
  | zero => rfl
  | succ n ih =>
    rw [List.range_succ, List.map_append, List.sum_append, ih]
    grind

theorem sum_by_worker {n : Nat} {results : List (JobResult ρ)} (inside : ∀ r ∈ results, r.worker < n) :
    ((List.range n).map fun i => results.countP fun r => r.worker == i).sum = results.length := by
  induction results with
  | nil => simp
  | cons r rest ih =>
    have here := inside r List.mem_cons_self
    have others := ih fun x member => inside x (List.mem_cons_of_mem r member)
    simp only [List.countP_cons, List.sum_map_add, others, range_once, here, if_true, List.length_cons]

theorem report_inAll (booked : Booked s) (unpanicked : s.report.panicked = 0) :
    s.report.handledInAll = s.everyResult.length := by
  have byWorker : s.report.handled =
      (List.range s.workers.length).map fun i => s.everyResult.countP fun r => r.worker == i := by
    refine List.ext_getElem (by simp [report]) ?_
    intro i left right
    have inside : i < s.workers.length := by simpa using right
    have found := List.getElem?_eq_getElem inside
    have unpanicked : s.workers[i].hasPanicked = false := by
      simpa using List.countP_eq_zero.mp unpanicked _ (List.getElem_mem inside)
    have here := report_worker booked found
    rw [unpanicked, List.getElem?_eq_getElem left, Option.some.injEq] at here
    simpa using here
  rw [PoolReport.handledInAll, byWorker]
  exact sum_by_worker booked.workers

-- With the close seen every result has come to the consumer.
theorem finished_results (held : Handles s) (exits : Exits s) (finished : s.consumer = .finished) :
    s.everyResult = s.taken := by
  have none : s.workers.flatMap Worker.results = [] := by
    rw [List.flatMap_eq_nil_iff]
    intro w member
    rcases finished_phases held exits finished member with exited | ⟨job, panicked⟩
    · simp [Worker.results, exited]
    · simp [Worker.results, panicked]
  rw [everyResult, none, (exits.finished finished).1]
  rfl

end PoolState
end GuardedWork
