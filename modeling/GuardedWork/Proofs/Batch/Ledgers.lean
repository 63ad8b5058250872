import GuardedWork.Proofs.Batch.Moves
import GuardedWork.Proofs.Pool.Ledgers

namespace GuardedWork

variable {α β ρ : Type}

namespace Batch

variable {b : Batch} {source : Source α} {transform : Transform α ρ} {cancelled : Bool} {s : BatchState α ρ}
  {path : List BatchAction} {o : BatchOutput ρ}

theorem opened_booked (run : BatchState.Runs b (b.plan source transform) (b.opening cancelled) path s) :
    s.pool.Booked := by
  have opened : (b.assignment source transform cancelled).opening? b.workerCount = _ := assignment_opening
  exact PoolState.opened_booked opened (BatchState.runs_pool run)

-- The counters, the counts of the workers and the results are written by different hands.
theorem ledgers_agree (run : BatchState.Runs b (b.plan source transform) (b.opening cancelled) path s)
    (returned : s.caller = .returned (.ok o)) :
    (∀ kind, b.pool.growth s.pool kind = Summary.countOf kind o.results) ∧
      o.report.handled.length = b.workerCount ∧
      (∀ i < b.workerCount, ∃ w : Worker α ρ, s.pool.workers[i]? = some w ∧ o.report.handled[i]? =
        some (if w.hasPanicked then 0 else o.results.countP fun r => r.worker == i)) ∧
      (o.report.panicked = 0 → o.report.handledInAll = o.results.length ∧
        (o.results.length < UInt64.size → o.report.total? = some o.results.length)) ∧
      ∀ (f : β → ρ → Option β) (init : β) (summary : Summary β), Summary.ofResults? f init o.results = some summary →
        summary.completed = b.pool.growth s.pool .completed ∧ summary.failed = b.pool.growth s.pool .failed ∧
          summary.cancelled = b.pool.growth s.pool .cancelled := by
  have underway := opened_underway run
  have booked := opened_booked run
  have knows := underway.knows
  rw [returned] at knows
  obtain ⟨finished, _, results, report⟩ := knows
  have all : s.pool.everyResult = o.results :=
    (PoolState.finished_results underway.handles underway.exits finished).trans results.symm
  have growths : ∀ kind, b.pool.growth s.pool kind = Summary.countOf kind o.results := by
    intro kind
    rw [WorkerPool.growth_eq, booked.counted.count_eq, all, List.count, List.countP_map]
    rfl
  refine ⟨growths, ?_, ?_, ?_, ?_⟩
  · rw [report, ← underway.size]
    exact List.length_map _
  · intro i inside
    have found := List.getElem?_eq_getElem (underway.size.symm ▸ inside)
    exact ⟨_, found, by rw [report, PoolState.report_worker booked found, all]⟩
  · intro unpanicked
    rw [report] at unpanicked
    have whole := PoolState.report_inAll booked unpanicked
    rw [all, ← report] at whole
    exact ⟨whole, fun fits => by rw [PoolReport.total?, whole, if_pos fits]⟩
  · intro f init summary folded
    obtain ⟨completed, failed, cancelled⟩ := Summary.ofResults?_counts folded
    exact ⟨completed.trans (growths _).symm, failed.trans (growths _).symm, cancelled.trans (growths _).symm⟩

-- Of two workers the first is lost, the second meets a failure, a value and the cancelled token.
def mixed : Batch := ⟨"mixed", 2, 1, true⟩

def mixedTransform : Transform Nat Nat := fun x =>
  ⟨if x = 3 then .panic else if x = 4 then .failure (.ofText "four") else .value (x * x), false⟩

def mixedPath : List BatchAction :=
  [.work .pull, .work .check, .work .enqueue, .work (.take 0), .work .pull, .work .check, .work .enqueue,
    .work (.take 1), .work (.start 1), .work (.finish 1), .work (.give 1), .work .consume, .work (.start 0),
    .work (.finish 0), .work .pull, .work .check, .work .enqueue, .work (.take 1), .work (.start 1), .work (.finish 1),
    .work (.give 1), .work .consume, .work .pull, .work .check, .work .enqueue, .work .cancel, .work (.take 1),
    .work (.start 1), .work (.give 1), .work .consume, .work .pull, .work .closeJobs, .work (.exit 1), .work .join,
    .work .join, .work .release, .work .seeClose, .joinDispatcher, .awaitPool]

theorem mixed_ledgers_agree : ∃ (s : BatchState Nat Nat) (o : BatchOutput Nat),
    BatchState.Runs mixed (mixed.plan (.ofList [3, 4, 5, 6]) mixedTransform) (mixed.opening false) mixedPath s ∧
      s.caller = .returned (.ok o) ∧ o.results.map (fun r => r.outcome.kind) = [.failed, .completed, .cancelled] ∧
      (∀ kind, mixed.pool.growth s.pool kind = 1) ∧ o.report.handled = [0, 3] := by
  have run : BatchState.Runs mixed (mixed.plan (.ofList [3, 4, 5, 6]) mixedTransform)
      (mixed.opening false : BatchState Nat Nat) mixedPath _ := BatchState.runs_of_replay rfl
  have all := ledgers_agree (β := Nat) run rfl
  refine ⟨_, _, run, rfl, rfl, ?_, rfl⟩
  intro kind
  rw [all.1 kind]
  cases kind <;> rfl

end Batch
end GuardedWork
