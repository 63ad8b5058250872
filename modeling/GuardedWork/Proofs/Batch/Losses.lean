import GuardedWork.Proofs.Batch.Moves
import GuardedWork.Proofs.Pool.Places

namespace GuardedWork

variable {α ρ : Type}

theorem Worker.inHand_gone {w : Worker α ρ} (gone : w.isGone = true) : w.inHand = [] := by
  obtain ⟨phase, handled⟩ := w
  cases phase with
  | exited | refused | panicked => rfl
  | waiting | holding | running | offering => cases gone

theorem Worker.panickedOn_length (w : Worker α ρ) : w.panickedOn.length = if w.hasPanicked then 1 else 0 := by
  obtain ⟨phase, handled⟩ := w
  cases phase <;> rfl

namespace PoolState

variable {plan : PoolPlan α ρ} {s : PoolState α ρ} {workers : List (Worker α ρ)}

theorem panickedOn_count (workers : List (Worker α ρ)) :
    (workers.flatMap Worker.panickedOn).length = workers.countP Worker.hasPanicked := by
  induction workers with
  | nil => rfl
  | cons w others ih =>
    rw [List.flatMap_cons, List.length_append, ih, Worker.panickedOn_length, List.countP_cons, Nat.add_comm]

theorem finished_heard (held : Handles s) (exits : Exits s) (finished : s.consumer = .finished) :
    s.workers.flatMap Worker.unheard = [] := by
  rw [List.flatMap_eq_nil_iff]
  intro w member
  rcases finished_phases held exits finished member with exited | ⟨job, panicked⟩
  · simp [Worker.unheard, exited]
  · simp [Worker.unheard, panicked]

-- Nobody has a job in hand any more, and no result waits.
theorem finished_ids (held : Handles s) (exits : Exits s) (numbered : Numbered plan s)
    (finished : s.consumer = .finished) :
    (s.taken.map JobResult.jobId ++ s.workers.flatMap Worker.panickedOn ++ s.jobs.items.map Job.id).Perm
      (List.range' 1 s.dispatched) := by
  have gone := (finished_gone held exits finished).1
  have idle : s.workers.flatMap Worker.inHand = [] := by
    rw [List.flatMap_eq_nil_iff]
    intro w member
    exact Worker.inHand_gone (gone w member)
  have ids := numbered.ids
  rw [parcels, Multiset.map_add, Multiset.map_add, Multiset.map_add, ids_carried, ids_ofJobs, ids_ofResults,
    ids_ofResults, idle, finished_heard held exits finished, (exits.finished finished).1] at ids
  rw [← Multiset.coe_eq_coe, ← ids, ← Multiset.coe_add, ← Multiset.coe_add]
  simp only [List.map_nil, Multiset.coe_nil]
  abel

-- Whoever survives has seen the end of the jobs.
theorem finished_drained (held : Handles s) (exits : Exits s) (finished : s.consumer = .finished)
    (survived : s.report.panicked < s.workers.length) : s.jobs.items = [] := by
  obtain ⟨w, member, unpanicked⟩ := survivor survived
  exact (exits.drained w member (finished_exited held exits finished member unpanicked)).1

end PoolState

namespace Batch

variable {b : Batch} {source : Source α} {transform : Transform α ρ} {cancelled : Bool} {s : BatchState α ρ}
  {path : List BatchAction} {o : BatchOutput ρ}

-- Jobs are left behind only where no worker survives.
theorem answered_lost_or_left
    (run : BatchState.Runs b (b.plan source transform) (b.opening cancelled) path s)
    (returned : s.caller = .returned (.ok o)) :
    (o.results.map JobResult.jobId ++ s.pool.workers.flatMap Worker.panickedOn ++ s.pool.jobs.items.map Job.id).Perm
        (List.range' 1 o.dispatched) ∧
      (s.pool.workers.flatMap Worker.panickedOn).length = o.report.panicked ∧
      o.results.length + o.report.panicked + s.pool.jobs.items.length = o.dispatched ∧
      (o.report.panicked < b.workerCount →
        s.pool.jobs.items = [] ∧ o.results.length + o.report.panicked = o.dispatched) := by
  have underway := opened_underway run
  have knows := underway.knows
  rw [returned] at knows
  obtain ⟨finished, closed, results, report⟩ := knows
  have ends := underway.numbered.dispatching
  simp only [PoolState.Dispatching, closed] at ends
  have ids := PoolState.finished_ids underway.handles underway.exits underway.numbered finished
  rw [← results, ← ends.1] at ids
  have lost : (s.pool.workers.flatMap Worker.panickedOn).length = o.report.panicked := by
    rw [report]
    exact PoolState.panickedOn_count _
  have counts : o.results.length + o.report.panicked + s.pool.jobs.items.length = o.dispatched := by
    simpa [lost, Nat.add_assoc] using ids.length_eq
  refine ⟨ids, lost, counts, ?_⟩
  intro survived
  rw [report, ← underway.size] at survived
  have drained := PoolState.finished_drained underway.handles underway.exits finished survived
  rw [drained] at counts
  exact ⟨drained, counts⟩

def panicOn (bad : Nat) : Transform Nat Nat := fun x => ⟨if x = bad then .panic else .value x, false⟩

-- Of two workers one is lost, and the other goes on.
def halved : Batch := ⟨"halved", 2, 1, false⟩

def halvedPath : List BatchAction :=
  [.work .pull, .work .check, .work .enqueue, .work (.take 0), .work .pull, .work .check, .work .enqueue,
    .work (.take 1), .work (.start 1), .work (.finish 1), .work (.start 0), .work (.finish 0), .work (.give 0),
    .work .consume, .work .pull, .work .check, .work .enqueue, .work (.take 0), .work (.start 0), .work (.finish 0),
    .work (.give 0), .work .consume, .work .pull, .work .closeJobs, .work (.exit 0), .work .join, .work .join,
    .work .release, .work .seeClose, .joinDispatcher, .awaitPool]

theorem halved_answered_or_lost : ∃ (s : BatchState Nat Nat) (o : BatchOutput Nat),
    BatchState.Runs halved (halved.plan (.ofList [3, 4, 5]) (panicOn 4)) (halved.opening false) halvedPath s ∧
      s.caller = .returned (.ok o) ∧ o.results.map JobResult.jobId = [1, 3] ∧ o.report.panicked = 1 ∧
      o.results.length + o.report.panicked = o.dispatched := by
  have run : BatchState.Runs halved (halved.plan (.ofList [3, 4, 5]) (panicOn 4))
      (halved.opening false : BatchState Nat Nat) halvedPath _ := BatchState.runs_of_replay rfl
  have all := answered_lost_or_left run rfl
  exact ⟨_, _, run, rfl, rfl, rfl, (all.2.2.2 (by decide)).2⟩

-- One worker, and a place for each of two jobs, the first of which panics.
def bereft : Batch := ⟨"bereft", 1, 2, false⟩

-- Both jobs are in the queue before the worker is lost.
def bereftPath : List BatchAction :=
  [.work .pull, .work .check, .work .enqueue, .work .pull, .work .check, .work .enqueue, .work .pull, .work .closeJobs,
    .work (.take 0), .work (.start 0), .work (.finish 0), .work .join, .work .release, .work .seeClose,
    .joinDispatcher, .awaitPool]

-- The worker is lost before the second job is offered.
def refusedPath : List BatchAction :=
  [.work .pull, .work .check, .work .enqueue, .work (.take 0), .work (.start 0), .work (.finish 0), .work .pull,
    .work .check, .work .enqueue, .work .closeJobs, .work .join, .work .release, .work .seeClose, .joinDispatcher]

-- Left behind without a word, though in another order the same batch fails.
theorem bereft_leaves_job_behind :
    (∃ (s : BatchState Nat Nat) (o : BatchOutput Nat),
      BatchState.Runs bereft (bereft.plan (.ofList [1, 2]) (panicOn 1)) (bereft.opening false) bereftPath s ∧
        s.caller = .returned (.ok o) ∧ o.results = [] ∧ o.report.panicked = 1 ∧ o.dispatched = 2 ∧
        o.results.length + o.report.panicked ≠ o.dispatched) ∧
      ∃ s : BatchState Nat Nat,
        BatchState.Runs bereft (bereft.plan (.ofList [1, 2]) (panicOn 1)) (bereft.opening false) refusedPath s ∧
          s.caller = .returned (.error .noConsumer) :=
  ⟨⟨_, _, BatchState.runs_of_replay rfl, rfl, rfl, rfl, rfl, by decide⟩, ⟨_, BatchState.runs_of_replay rfl, rfl⟩⟩

end Batch
end GuardedWork
