import GuardedWork.Proofs.Batch.Ledgers
import GuardedWork.Proofs.Batch.Losses
import GuardedWork.Proofs.Batch.Returns
import GuardedWork.Proofs.Pool.Fates

namespace GuardedWork

variable {α ρ : Type}

namespace PoolState

variable {plan : PoolPlan α ρ} {s : PoolState α ρ} {supply : List α}

-- Each payload is answered by its transform, or has taken a worker with it.
theorem rest_answered (gives : plan.source.Gives supply) (unwatched : plan.workersWatch = false) (held : Handles s)
    (exits : Exits s) (numbered : Numbered plan s) (finished : s.consumer = .finished)
    (survived : s.report.panicked < s.workers.length) (whole : s.dispatched = supply.length) :
    (s.taken.map Entry.ofResult).Perm ((Entry.ofPayloads plan.transform supply).filter fun e => e.2.isSome) ∧
      s.report.panicked = supply.countP (fun a => (plan.transform a).panics) ∧
      s.taken.length + supply.countP (fun a => (plan.transform a).panics) = supply.length := by
  have drained := finished_drained held exits finished survived
  have taken := finished_taken gives unwatched held exits numbered finished drained whole
  have ids := (finished_ids held exits numbered finished).length_eq
  have panicked : (s.workers.flatMap Worker.panickedOn).length = s.report.panicked := panickedOn_count _
  simp only [List.length_append, List.length_map, drained, List.length_range', List.length_nil, panicked] at ids
  have parted := Entry.answered_or_lost plan.transform supply
  rw [← taken.length_eq, List.length_map] at parted
  exact ⟨taken, by omega, parted⟩

end PoolState

namespace Batch

variable {b : Batch} {source : Source α} {transform : Transform α ρ} {payloads supply : List α} {cancelled : Bool}
  {s : BatchState α ρ} {path : List BatchAction} {result : Except WorkError (BatchOutput ρ)} {panicsAt : Option Nat}

-- What a return tells of a source that gave all it could.
structure RestAnswered (b : Batch) (source : Source α) (transform : Transform α ρ) (supply : List α) (s : BatchState α ρ)
    (result : Except WorkError (BatchOutput ρ)) : Prop where
  ended : (source supply.length).pulled = .ended → ∃ o, result = .ok o ∧ o.dispatched = supply.length ∧
    o.report.panicked = supply.countP (fun a => (transform a).panics) ∧
    (o.results.map Entry.ofResult).Perm ((Entry.ofPayloads transform supply).filter fun e => e.2.isSome)
  panicked : (source supply.length).pulled = .panicked → result = .error (.dispatcherPanicked b.name) ∧
    b.pool.growth s.pool .completed + b.pool.growth s.pool .failed + b.pool.growth s.pool .cancelled +
      supply.countP (fun a => (transform a).panics) = supply.length

theorem returned_restAnswered (gives : source.Gives supply) (unwatched : b.watched = false)
    (few : supply.countP (fun a => (transform a).panics) < b.workerCount)
    (run : BatchState.Runs b (b.plan source transform) (b.opening cancelled) path s)
    (returned : s.caller = .returned result) : RestAnswered b source transform supply s result := by
  have underway := opened_underway run
  have knows := underway.knows
  rw [returned] at knows
  have survived : s.pool.report.panicked < s.pool.workers.length := by
    rw [underway.size]
    exact Nat.lt_of_le_of_lt (PoolState.panicked_within gives unwatched underway.numbered) few
  have heard : s.pool.consumer = .finished → s.pool.dispatcher ≠ .closed .refused := by
    intro finished
    obtain ⟨w, member, unpanicked⟩ := PoolState.survivor survived
    exact PoolState.finished_unrefused underway.handles underway.exits finished member unpanicked
  have unstopped : ((b.plan source transform).dispatcherWatches && s.pool.cancelled) = false := by simp [plan, unwatched]
  have answers := PoolState.rest_answered gives unwatched underway.handles underway.exits underway.numbered
  cases result with
  | ok o =>
    obtain ⟨finished, closed, results, report⟩ := knows
    obtain ⟨all, ⟨same, ended⟩ | ⟨same, _⟩⟩ :=
      PoolState.closed_whole gives unstopped underway.numbered closed (by simp)
    · obtain ⟨taken, panicked, _⟩ := answers finished survived all
      refine ⟨fun _ => ⟨o, rfl, DispatchEnd.done.inj same, report ▸ panicked, results ▸ taken⟩, ?_⟩
      intro broken
      cases ended.symm.trans broken
    · cases same
  | error e =>
    obtain ⟨finished, ⟨refused, _⟩ | ⟨closed, rfl⟩⟩ := knows
    · exact absurd refused (heard finished)
    · obtain ⟨all, ⟨same, _⟩ | ⟨_, broken⟩⟩ :=
      PoolState.closed_whole gives unstopped underway.numbered closed (by simp)
      · cases same
      · refine ⟨?_, fun _ => ⟨rfl, ?_⟩⟩
        · intro ended
          cases broken.symm.trans ended
        · have handled := (opened_booked run).counted.length_eq
          rw [List.length_map, PoolState.finished_results underway.handles underway.exits finished] at handled
          rw [WorkerPool.growth_inAll, handled]
          exact (answers finished survived all).2.2

-- Below, the source is that of a list, which may panic at any of its places or behind them.
theorem few_panics_spare_the_rest (roomy : b.queueCapacity ≠ 0) (unwatched : b.watched = false)
    (few : payloads.countP (fun a => (transform a).panics) < b.workerCount)
    (run : BatchState.Runs b (b.plan ((Source.ofList payloads).panickingAt panicsAt) transform) (b.opening cancelled)
      path s) :
    ((∀ result, s.caller ≠ .returned result) →
        s.CanMove b (b.plan ((Source.ofList payloads).panickingAt panicsAt) transform)) ∧
      path.length ≤ 8 * payloads.length + 2 * b.workerCount + 7 ∧
      ∀ result, s.caller = .returned result →
        ((∀ k, panicsAt = some k → payloads.length < k) → ∃ o, result = .ok o ∧ o.dispatched = payloads.length ∧
          o.report.panicked = payloads.countP (fun a => (transform a).panics) ∧
          (o.results.map Entry.ofResult).Perm ((Entry.ofPayloads transform payloads).filter fun e => e.2.isSome)) ∧
        ∀ k, panicsAt = some k → k ≤ payloads.length → ∃ e, result = .error e ∧
          e.message = "dispatcher of batch " ++ b.name ++ " panicked" ∧
          b.pool.growth s.pool .completed + b.pool.growth s.pool .failed + b.pool.growth s.pool .cancelled =
            k - (payloads.take k).countP (fun a => (transform a).panics) := by
  have gives := Source.ofList_gives payloads panicsAt
  have part : (beforePanic panicsAt payloads).Sublist payloads := by
    cases panicsAt with
    | none => exact List.Sublist.refl _
    | some k => exact List.take_sublist k payloads
  have fewer := Nat.lt_of_le_of_lt (part.countP_le (p := fun a => (transform a).panics)) few
  refine ⟨BatchState.unreturned_can_move roomy (opened_underway run), ?_, ?_⟩
  · have bound := run_bounded (Source.gives_stops gives) run
    have within := beforePanic_within panicsAt payloads
    omega
  · intro result returned
    have rest := returned_restAnswered gives unwatched fewer run returned
    refine ⟨?_, ?_⟩
    · intro beyond
      obtain ⟨all, ends⟩ := Source.ofList_ends beyond
      rw [all] at rest
      exact rest.ended ends
    · intro k here within
      subst here
      obtain ⟨rfl, handled⟩ := rest.panicked (Source.ofList_panics within)
      rw [beforePanic, Option.elim_some, List.length_take, Nat.min_eq_left within] at handled
      exact ⟨_, rfl, rfl, by omega⟩


-- The dispatcher is lost behind the second job, and of the two workers the one with that job.
def brokenPath : List BatchAction :=
  [.work .pull, .work .check, .work .enqueue, .work (.take 0), .work .pull, .work .check, .work .enqueue,
    .work (.take 1), .work .pull, .work (.start 1), .work (.finish 1), .work (.start 0), .work (.finish 0),
    .work (.give 0), .work .consume, .work (.exit 0), .work .join, .work .join, .work .release, .work .seeClose,
    .joinDispatcher]

theorem halved_spares_the_rest :
    (∃ (s : BatchState Nat Nat) (o : BatchOutput Nat),
      BatchState.Runs halved (halved.plan ((Source.ofList [3, 4, 5]).panickingAt none) (panicOn 4))
          (halved.opening false) halvedPath s ∧
        s.caller = .returned (.ok o) ∧ o.dispatched = 3 ∧ o.report.panicked = 1 ∧
        (o.results.map Entry.ofResult).Perm [(1, some (.completed 3)), (3, some (.completed 5))]) ∧
      ∃ (s : BatchState Nat Nat) (e : WorkError),
        BatchState.Runs halved (halved.plan ((Source.ofList [3, 4, 5]).panickingAt (some 2)) (panicOn 4))
            (halved.opening false) brokenPath s ∧
          s.caller = .returned (.error e) ∧ e.message = "dispatcher of batch halved panicked" ∧
          halved.pool.growth s.pool .completed + halved.pool.growth s.pool .failed +
            halved.pool.growth s.pool .cancelled = 1 := by
  have whole : BatchState.Runs halved (halved.plan ((Source.ofList [3, 4, 5]).panickingAt none) (panicOn 4))
      (halved.opening false : BatchState Nat Nat) halvedPath _ := BatchState.runs_of_replay rfl
  have broken : BatchState.Runs halved (halved.plan ((Source.ofList [3, 4, 5]).panickingAt (some 2)) (panicOn 4))
      (halved.opening false : BatchState Nat Nat) brokenPath _ := BatchState.runs_of_replay rfl
  have rest := (few_panics_spare_the_rest (by decide) rfl (by decide) whole).2.2 _ rfl
  have handled := (few_panics_spare_the_rest (by decide) rfl (by decide) broken).2.2 _ rfl
  obtain ⟨o, same, dispatched, panicked, taken⟩ := rest.1 (by simp)
  cases same
  obtain ⟨e, same, message, grown⟩ := handled.2 2 rfl (by decide)
  cases same
  exact ⟨⟨_, _, whole, rfl, dispatched, panicked, taken⟩, ⟨_, _, broken, rfl, message, grown⟩⟩

end Batch
end GuardedWork
