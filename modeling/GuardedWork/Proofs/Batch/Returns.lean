import GuardedWork.Proofs.Batch.Moves
import GuardedWork.Proofs.Pool.Progress
import GuardedWork.Proofs.Pool.Work

namespace GuardedWork

variable {α ρ : Type}

-- Two joins are before the caller, of the dispatcher and of the pool.
def CallerPhase.weight : CallerPhase ρ → Nat
  | .draining => 2
  | .waiting _ => 1
  | .returned _ => 0

namespace BatchState

variable {b : Batch} {plan : PoolPlan α ρ} {s t : BatchState α ρ} {action : BatchAction} {path : List BatchAction}
  {n : Nat}

def workLeft (n : Nat) (s : BatchState α ρ) : Nat := s.pool.workLeft n + s.caller.weight

-- A cancellation comes from outside, so that it does not count.
def CanMove (b : Batch) (plan : PoolPlan α ρ) (s : BatchState α ρ) : Prop :=
  ∃ action t, action ≠ .work .cancel ∧ s.step? b plan action = some t

theorem move_lowers (stops : plan.source.StopsAt n) (within : s.pool.pulled ≤ n) (move : Move b plan s action t) :
    t.workLeft n < s.workLeft n := by
  cases move with
  | work stays move => exact Nat.add_lt_add_right (PoolState.move_lowers stops within move) _
  | joinDone drains | joinRefused drains | joinPanicked drains => simp [workLeft, drains, CallerPhase.weight]
  | await waits => simp [workLeft, waits, CallerPhase.weight]

theorem move_within (stops : plan.source.StopsAt n) (within : s.pool.pulled ≤ n) (move : Move b plan s action t) :
    t.pool.pulled ≤ n := by
  cases move with
  | work stays move => exact PoolState.move_within stops within move
  | _ => exact within

theorem runs_lower (stops : plan.source.StopsAt n) (run : Runs b plan s path t) (within : s.pool.pulled ≤ n) :
    path.length + t.workLeft n ≤ s.workLeft n := by
  induction run with
  | nil => simp
  | cons stepped _ ih =>
    have move := move_sound stepped
    have lower := move_lowers stops within move
    have rest := ih (move_within stops within move)
    rw [List.length_cons]
    omega

theorem pool_can_move (can : s.pool.CanMove plan) : CanMove b plan s := by
  obtain ⟨work, pool, own, stays, move⟩ := can
  exact ⟨.work work, { s with pool }, by simpa using own, move_complete (.work stays move)⟩

-- At the close the dispatcher may still be at work; with no worker left it is at its end soon.
theorem closed_can_move (underway : Underway b plan s) (drains : s.caller = .draining)
    (finished : s.pool.consumer = .finished) : CanMove b plan s := by
  cases phase : s.pool.dispatcher with
  | closed ending =>
    have joins : ∃ t, Move b plan s .joinDispatcher t := by
      cases ending with
      | done count => exact ⟨_, .joinDone drains finished phase⟩
      | refused => exact ⟨_, .joinRefused drains finished phase⟩
      | panicked => exact ⟨_, .joinPanicked drains finished phase⟩
    obtain ⟨t, move⟩ := joins
    exact ⟨.joinDispatcher, t, by simp, move_complete move⟩
  | _ => exact pool_can_move (PoolState.finished_can_move underway.handles underway.exits finished (by simp [phase]))

theorem unreturned_can_move (sized : b.queueCapacity ≠ 0) (underway : Underway b plan s)
    (unreturned : ∀ result, s.caller ≠ .returned result) : CanMove b plan s := by
  cases phase : s.caller with
  | draining =>
    rcases underway.present with drains | finished
    · have room : 0 < s.pool.results.capacity := underway.capacities.2 ▸ Nat.pos_of_ne_zero sized
      exact pool_can_move (PoolState.draining_can_move underway.handles room drains)
    · exact closed_can_move underway phase finished
  | waiting count =>
    have knows := underway.knows
    rw [phase] at knows
    have released := (PoolState.finished_gone underway.handles underway.exits knows.1).2
    exact ⟨.awaitPool, _, by simp, move_complete (.await phase released)⟩
  | returned result => exact absurd phase (unreturned result)

end BatchState

namespace Batch

variable {b : Batch} {source : Source α} {transform : Transform α ρ} {cancelled : Bool} {s : BatchState α ρ}
  {path : List BatchAction} {n : Nat}

theorem opening_workLeft (b : Batch) (cancelled : Bool) (n : Nat) :
    (b.opening cancelled : BatchState α ρ).workLeft n = 8 * n + 2 * b.workerCount + 6 + (!cancelled).toNat := by
  simp only [BatchState.workLeft, opening, PoolState.start_workLeft, DispatcherPhase.weight, ConsumerPhase.weight,
    CallerPhase.weight, Queue.bounded, List.length_nil]
  omega

theorem run_bounded (stops : source.StopsAt n)
    (run : BatchState.Runs b (b.plan source transform) (b.opening cancelled) path s) :
    path.length ≤ 8 * n + 2 * b.workerCount + 7 := by
  have spent := BatchState.runs_lower stops run (Nat.zero_le n)
  have fresh := Bool.toNat_le (!cancelled)
  rw [opening_workLeft] at spent
  omega

-- Somebody can go on until the caller has returned, and every step lowers what is left to do.
theorem every_run_returns (roomy : b.queueCapacity ≠ 0) (stops : source.StopsAt n)
    (run : BatchState.Runs b (b.plan source transform) (b.opening cancelled) path s) :
    ((∀ result, s.caller ≠ .returned result) → s.CanMove b (b.plan source transform)) ∧
      (∀ action t, s.step? b (b.plan source transform) action = some t → t.workLeft n < s.workLeft n) ∧
      path.length ≤ 8 * n + 2 * b.workerCount + 7 ∧
      ((∀ action, action ≠ .work .cancel → s.step? b (b.plan source transform) action = none) →
        ∃ result, s.caller = .returned result) := by
  have unreturned := BatchState.unreturned_can_move roomy (opened_underway run)
  refine ⟨unreturned, ?_, run_bounded stops run, ?_⟩
  · intro action t stepped
    have within : s.pool.pulled ≤ n :=
      BatchState.runs_keep (P := fun s => s.pool.pulled ≤ n) (BatchState.move_within stops) run (Nat.zero_le n)
    exact BatchState.move_lowers stops within (BatchState.move_sound stepped)
  · intro stuck
    by_contra unended
    obtain ⟨action, t, own, stepped⟩ := unreturned (not_exists.mp unended)
    rw [stuck action own] at stepped
    cases stepped

-- One worker and one place, and every job panics.
def forsaken : Batch := ⟨"forsaken", 1, 1, false⟩

-- The worker is lost while the third job waits for a place.
def forsakenPath : List BatchAction :=
  [.work .pull, .work .check, .work .enqueue, .work (.take 0), .work .pull, .work .check, .work .enqueue,
    .work .pull, .work .check, .work (.start 0), .work (.finish 0)]

theorem forsaken_batch_returns : ∃ s : BatchState Nat Nat,
    BatchState.Runs forsaken (forsaken.plan (.ofList [1, 2, 3]) fun _ => ⟨.panic, false⟩) (forsaken.opening false)
        forsakenPath s ∧
      s.pool.dispatcher = .offering 3 ∧ s.pool.jobs.items.length = 1 ∧ s.pool.jobs.consumers = 0 ∧
      s.CanMove forsaken (forsaken.plan (.ofList [1, 2, 3]) fun _ => ⟨.panic, false⟩) := by
  have run : BatchState.Runs forsaken (forsaken.plan (.ofList [1, 2, 3]) fun _ => ⟨.panic, false⟩)
      (forsaken.opening false : BatchState Nat Nat) forsakenPath _ := BatchState.runs_of_replay rfl
  have all := every_run_returns (by decide) (Source.ofList_stops [1, 2, 3]) run
  exact ⟨_, run, rfl, rfl, rfl, all.1 fun _ returned => by cases returned⟩

end Batch
end GuardedWork
