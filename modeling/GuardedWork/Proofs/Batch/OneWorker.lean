import GuardedWork.Proofs.Batch.Cancel
import GuardedWork.Proofs.Batch.Fold
import GuardedWork.Proofs.Pool.Shares

namespace GuardedWork

variable {α ρ : Type}

namespace PoolState

variable {plan : PoolPlan α ρ} {s : PoolState α ρ} {payloads : List α}

-- What is taken in the order of its numbers is what the payloads come to, one by one.
theorem taken_payloads (listed : plan.source = .ofList payloads) (numbered : Numbered plan s)
    (uncancelled : (plan.workersWatch && s.cancelled) = false)
    (inTurn : s.taken.map JobResult.jobId = List.range' 1 payloads.length) :
    s.taken.map Entry.ofResult = Entry.ofPayloads plan.transform payloads := by
  rw [Entry.ofPayloads_range, ← inTurn, List.map_map]
  refine List.map_congr_left fun r inside => ?_
  obtain ⟨job, supplied, same, answers⟩ := numbered.sound _ (taken_parcel inside)
  rw [listed] at supplied
  obtain ⟨k, id, payload⟩ := Source.ofList_supplies supplied
  have outcome : (plan.transform job.payload).ending.outcome? = some r.outcome := by
    rcases answers with ended | ⟨watched, cancelled, _⟩
    · exact ended
    · simp [watched, cancelled] at uncancelled
  have place : r.jobId - 1 = k := by omega
  simp [Entry.ofResult, place, payload, outcome]

end PoolState

namespace Batch

variable {b : Batch} {transform : Transform α ρ} {payloads : List α} {cancelled : Bool} {s : BatchState α ρ}
  {path : List BatchAction} {result : Except WorkError (BatchOutput ρ)}

theorem returned_in_turn (alone : b.workerCount = 1) (endings : ∀ a ∈ payloads, (transform a).ending ≠ .panic)
    (run : BatchState.Runs b (b.plan (.ofList payloads) transform) (b.opening cancelled) path s)
    (returned : s.caller = .returned result) (uncancelled : (b.watched && s.pool.cancelled) = false) :
    ∃ o, result = .ok o ∧ o.results.map JobResult.jobId = List.range' 1 payloads.length ∧
      o.results.map Entry.ofResult = Entry.ofPayloads transform payloads := by
  have underway := opened_underway run
  have unbroken : ∀ k, (Source.ofList payloads k).pulled ≠ .panicked := by
    intro k
    unfold Source.ofList
    split <;> simp
  have supplied : ∀ job, (Source.ofList payloads).Supplies job → (transform job.payload).ending ≠ .panic := by
    intro job supplied
    obtain ⟨k, _, found⟩ := Source.ofList_supplies supplied
    exact endings job.payload (List.mem_of_getElem? found)
  obtain ⟨o, rfl, results, ids⟩ := returned_answered (by omega) unbroken supplied run returned
  have knows := underway.knows
  rw [returned] at knows
  have ends := underway.numbered.dispatching
  simp only [PoolState.Dispatching, knows.2.1] at ends
  obtain ⟨count, ended | ⟨watched, set⟩⟩ := ends
  · have opened : (b.assignment (.ofList payloads) transform cancelled).opening? b.workerCount = _ := assignment_opening
    have inTurn := (PoolState.opened_in_turn opened (BatchState.runs_pool run)).alone alone
    have whole : s.pool.dispatched = payloads.length :=
      PoolState.dispatched_whole (Source.list_gives payloads) underway.numbered fun a item => by
        cases (count ▸ ended).symm.trans item
    have length : s.pool.taken.length = payloads.length := by
      rw [← whole, ← count, ← results]
      simpa using ids.length_eq
    rw [length] at inTurn
    refine ⟨o, rfl, ?_⟩
    rw [results]
    exact ⟨inTurn, PoolState.taken_payloads rfl underway.numbered uncancelled inTurn⟩
  · simp only [plan] at watched
    simp [watched, set] at uncancelled

theorem results_in_turn :
    (∀ (a : Assignment α ρ) (size : Nat) (first : PoolState α ρ) (path : List PoolAction) (s : PoolState α ρ),
      a.opening? size = some first → PoolState.Runs a.plan first path s → s.InTurn size) ∧
    ∀ (b : Batch) (transform : Transform α ρ) (payloads : List α) (cancelled : Bool) (path : List BatchAction)
        (s : BatchState α ρ), b.workerCount = 1 → b.queueCapacity ≠ 0 →
      (∀ a ∈ payloads, (transform a).ending ≠ .panic) →
      BatchState.Runs b (b.plan (.ofList payloads) transform) (b.opening cancelled) path s →
      ((∀ result, s.caller ≠ .returned result) → s.CanMove b (b.plan (.ofList payloads) transform)) ∧
        path.length ≤ 8 * payloads.length + 9 ∧
        ∀ result, s.caller = .returned result → (b.watched && s.pool.cancelled) = false → ∃ o, result = .ok o ∧
          o.results.map JobResult.jobId = List.range' 1 payloads.length ∧
          ∀ (β : Type) (f : β → ρ → β) (init : β),
            Summary.ofResults? (fun a v => some (f a v)) init o.results = some (o.summary f init) ∧
              o.summary f init = Summary.ofPayloads transform f init payloads ∧
              ((o.summary f init).failures.map Prod.fst).Pairwise (· < ·) := by
  refine ⟨fun a size first path s opened run => PoolState.opened_in_turn opened run, ?_⟩
  intro b transform payloads cancelled path s alone roomy endings run
  refine ⟨BatchState.unreturned_can_move roomy (opened_underway run), ?_, ?_⟩
  · have bound := run_bounded (Source.ofList_stops payloads) run
    rwa [alone] at bound
  · intro result returned uncancelled
    obtain ⟨o, rfl, ids, entries⟩ := returned_in_turn alone endings run returned uncancelled
    refine ⟨o, rfl, ids, fun β f init => ⟨Summary.ofResults?_total f init o.results,
      Summary.ofResults_payloads f init entries, ?_⟩⟩
    rw [BatchOutput.summary, Summary.ofResults_eq]
    exact (List.pairwise_lt_range' 1).sublist (ids ▸ Summary.failed_ids o.results)

def hermit : Batch := ⟨"hermit", 1, 1, true⟩

-- The second result waits for the third job to be taken.
def hermitPath : List BatchAction :=
  [.work .pull, .work .check, .work .enqueue, .work (.take 0), .work .pull, .work .check, .work .enqueue,
    .work (.start 0), .work (.finish 0), .work (.give 0), .work (.take 0), .work .consume, .work (.start 0),
    .work (.finish 0), .work (.give 0), .work .pull, .work .check, .work .enqueue, .work (.take 0), .work .pull,
    .work .closeJobs, .work .consume, .work (.start 0), .work (.finish 0), .work (.give 0), .work (.exit 0),
    .work .join, .work .release, .work .consume, .work .seeClose, .joinDispatcher, .awaitPool]

theorem hermit_in_turn :
    (∃ first s, PoolState.bruised.opening? 2 = some first ∧
      PoolState.Runs PoolState.bruised.plan first PoolState.bruisedPath s ∧ s.taken.length = 1 ∧ s.InTurn 2) ∧
    ∃ (s : BatchState Nat Nat) (o : BatchOutput Nat),
      BatchState.Runs hermit (hermit.plan (.ofList [3, 4, 5]) (squareBut 4)) (hermit.opening false) hermitPath s ∧
        s.caller = .returned (.ok o) ∧ o.results.map JobResult.jobId = [1, 2, 3] ∧
        (o.summary (fun a v => 100 * a + v) 0).value = 925 := by
  obtain ⟨pools, batches⟩ := @results_in_turn Nat Nat
  have opened : PoolState.bruised.opening? 2 = some _ := rfl
  have works : PoolState.Runs PoolState.bruised.plan
      (.start 2 (.closed (.done 2)) 2 ⟨2, [⟨1, 3⟩, ⟨2, 4⟩], 0, 1⟩ 1 .draining false) PoolState.bruisedPath _ :=
    PoolState.runs_of_replay rfl
  have run : BatchState.Runs hermit (hermit.plan (.ofList [3, 4, 5]) (squareBut 4))
      (hermit.opening false : BatchState Nat Nat) hermitPath _ := BatchState.runs_of_replay rfl
  obtain ⟨o, same, ids, folds⟩ := (batches hermit _ _ _ _ _ rfl (by decide) (by decide) run).2.2 _ rfl rfl
  cases same
  obtain ⟨_, summary, _⟩ := folds Nat (fun a v => 100 * a + v) 0
  exact ⟨⟨_, _, opened, works, rfl, pools _ _ _ _ _ opened works⟩, _, _, run, rfl, ids, by rw [summary]; rfl⟩

end Batch
end GuardedWork
