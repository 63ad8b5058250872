import GuardedWork.Batch
import GuardedWork.Proofs.Pool.Close

namespace GuardedWork

variable {α ρ : Type}

-- What the pool of a batch does on a path of the batch.
def BatchAction.works (path : List BatchAction) : List PoolAction :=
  path.filterMap fun
    | .work action => some action
    | _ => none

namespace BatchState

variable {b : Batch} {plan : PoolPlan α ρ} {s t : BatchState α ρ} {action : BatchAction}

inductive Move (b : Batch) (plan : PoolPlan α ρ) (s : BatchState α ρ) : BatchAction → BatchState α ρ → Prop where
  | work {work : PoolAction} {pool : PoolState α ρ} (stays : work ≠ .leave) (move : s.pool.Move plan work pool) :
      Move b plan s (.work work) { s with pool }
  | joinDone {count : Nat} (drains : s.caller = .draining) (finished : s.pool.consumer = .finished)
      (closed : s.pool.dispatcher = .closed (.done count)) :
      Move b plan s .joinDispatcher { s with caller := .waiting count }
  | joinRefused (drains : s.caller = .draining) (finished : s.pool.consumer = .finished)
      (closed : s.pool.dispatcher = .closed .refused) :
      Move b plan s .joinDispatcher { s with caller := .returned (.error .noConsumer) }
  | joinPanicked (drains : s.caller = .draining) (finished : s.pool.consumer = .finished)
      (closed : s.pool.dispatcher = .closed .panicked) :
      Move b plan s .joinDispatcher { s with caller := .returned (.error (.dispatcherPanicked b.name)) }
  | await {count : Nat} (waits : s.caller = .waiting count) (released : s.pool.released = true) :
      Move b plan s .awaitPool { s with caller := .returned (.ok ⟨s.pool.taken, count, s.pool.report⟩) }

theorem move_complete (move : Move b plan s action t) : s.step? b plan action = some t := by
  cases move with
  | work stays move =>
    have stepped := PoolState.move_complete move
    unfold step?
    split <;> simp_all
  | joinDone drains finished closed | joinRefused drains finished closed | joinPanicked drains finished closed =>
    simp [step?, drains, finished, closed]
  | await waits released => simp [step?, waits, released]

theorem move_sound (stepped : s.step? b plan action = some t) : Move b plan s action t := by
  unfold step? at stepped
  split at stepped
  · cases stepped
  · next stays =>
    obtain ⟨pool, moved, rfl⟩ := Option.map_eq_some_iff.mp stepped
    exact .work stays (PoolState.move_sound moved)
  · next drains =>
    split at stepped
    · next finished =>
      split at stepped
      · next closed => cases stepped; exact .joinDone drains finished closed
      · next closed => cases stepped; exact .joinRefused drains finished closed
      · next closed => cases stepped; exact .joinPanicked drains finished closed
      · cases stepped
    · cases stepped
  · next waits =>
    split at stepped
    · next released => cases stepped; exact .await waits released
    · cases stepped
  · cases stepped

theorem move_exact : s.step? b plan action = some t ↔ Move b plan s action t := ⟨move_sound, move_complete⟩

-- The caller of a batch waits for its pool as anybody does.
theorem await_exact {count : Nat} (held : s.pool.Handles) (waits : s.caller = .waiting count) :
    s.step? b plan .awaitPool = s.pool.awaited?.map fun report =>
      { s with caller := .returned (.ok ⟨s.pool.taken, count, report⟩) } := by
  unfold step? PoolState.awaited?
  by_cases released : s.pool.released = true
  · simp [waits, released, PoolState.released_collected held released]
  · simp [waits, released]

theorem runs_keep {P : BatchState α ρ → Prop} {path : List BatchAction}
    (keeps : ∀ {s t action}, P s → Move b plan s action t → P t) (run : Runs b plan s path t) (first : P s) : P t := by
  induction run with
  | nil => exact first
  | cons stepped _ ih => exact ih (keeps first (move_sound stepped))

theorem runs_of_replay {path : List BatchAction}
    (replayed : path.foldlM (fun s action => s.step? b plan action) s = some t) : Runs b plan s path t := by
  induction path generalizing s with
  | nil => cases replayed; exact .nil
  | cons action rest ih =>
    obtain ⟨next, stepped, replayed⟩ := Option.bind_eq_some_iff.mp replayed
    exact .cons stepped (ih replayed)

theorem runs_pool {path : List BatchAction} (run : Runs b plan s path t) :
    PoolState.Runs plan s.pool (BatchAction.works path) t.pool := by
  induction run with
  | nil => exact .nil
  | cons stepped _ ih =>
    cases move_sound stepped with
    | work stays move => exact .cons (.of (PoolState.move_complete move)) ih
    | joinDone | joinRefused | joinPanicked | await => exact ih

-- What the caller knows of the pool. Before the close it knows nothing.
def Knows (b : Batch) (pool : PoolState α ρ) : CallerPhase ρ → Prop
  | .draining => True
  | .waiting count => pool.consumer = .finished ∧ pool.dispatcher = .closed (.done count)
  | .returned (.ok o) => pool.consumer = .finished ∧ pool.dispatcher = .closed (.done o.dispatched) ∧
      o.results = pool.taken ∧ o.report = pool.report
  | .returned (.error e) => pool.consumer = .finished ∧
      (pool.dispatcher = .closed .refused ∧ e = .noConsumer ∨
        pool.dispatcher = .closed .panicked ∧ e = .dispatcherPanicked b.name)

structure Underway (b : Batch) (plan : PoolPlan α ρ) (s : BatchState α ρ) : Prop where
  handles : s.pool.Handles
  exits : s.pool.Exits
  numbered : s.pool.Numbered plan
  size : s.pool.workers.length = b.workerCount
  capacities : s.pool.jobs.capacity = b.queueCapacity ∧ s.pool.results.capacity = b.queueCapacity
  -- the caller stays to the close
  present : s.pool.consumer = .draining ∨ s.pool.consumer = .finished
  knows : Knows b s.pool s.caller

theorem present_stays {pool next : PoolState α ρ} {work : PoolAction}
    (present : pool.consumer = .draining ∨ pool.consumer = .finished) (stays : work ≠ .leave)
    (move : pool.Move plan work next) : next.consumer = .draining ∨ next.consumer = .finished := by
  cases move with
  | dispatcher move => cases move <;> exact present
  | worker found move => rw [(PoolState.worker_beside move).consumer]; exact present
  | seeClose => exact .inr rfl
  | leave => exact absurd rfl stays
  | _ => exact present

-- Whoever knows anything has seen the close and joined the dispatcher, so nothing changes any more.
theorem knows_stays {pool next : PoolState α ρ} {work : PoolAction} {phase : CallerPhase ρ} (held : pool.Handles)
    (exits : pool.Exits) (knows : Knows b pool phase) (move : pool.Move plan work next) : Knows b next phase := by
  have still : ∀ {ending}, pool.consumer = .finished → pool.dispatcher = .closed ending → Knows b next phase := by
    intro ending finished closed
    obtain ⟨_, rfl⟩ := PoolState.finished_still held exits finished closed move
    exact knows
  cases phase with
  | draining => exact True.intro
  | waiting count => exact still knows.1 knows.2
  | returned result =>
    cases result with
    | ok o => exact still knows.1 knows.2.1
    | error e =>
      obtain ⟨finished, ⟨closed, _⟩ | ⟨closed, _⟩⟩ := knows
      · exact still finished closed
      · exact still finished closed

theorem move_underway (underway : Underway b plan s) (move : Move b plan s action t) : Underway b plan t := by
  cases move with
  | work stays move =>
    have capacities := PoolState.move_capacities move
    exact {
      handles := PoolState.move_handles underway.handles move
      exits := PoolState.move_exits underway.handles underway.exits move
      numbered := PoolState.move_numbered underway.numbered move
      size := (PoolState.move_size move).trans underway.size
      capacities := ⟨capacities.1.trans underway.capacities.1, capacities.2.trans underway.capacities.2⟩
      present := present_stays underway.present stays move
      knows := knows_stays underway.handles underway.exits underway.knows move }
  | joinDone drains finished closed => exact { underway with knows := ⟨finished, closed⟩ }
  | joinRefused drains finished closed => exact { underway with knows := ⟨finished, .inl ⟨closed, rfl⟩⟩ }
  | joinPanicked drains finished closed => exact { underway with knows := ⟨finished, .inr ⟨closed, rfl⟩⟩ }
  | await waits released =>
    have knows := underway.knows
    rw [waits] at knows
    exact { underway with knows := ⟨knows.1, knows.2, rfl, rfl⟩ }

end BatchState

namespace Batch

variable {b : Batch} {source : Source α} {transform : Transform α ρ} {cancelled : Bool} {s t : BatchState α ρ}
  {path : List BatchAction}

def plan (b : Batch) (source : Source α) (transform : Transform α ρ) : PoolPlan α ρ :=
  ⟨source, transform, b.watched, b.watched⟩

-- As a batch opens, whatever its threads and queues cost.
def opening (b : Batch) (cancelled : Bool) : BatchState α ρ :=
  ⟨.start b.workerCount .asking 0 (.bounded b.queueCapacity) b.queueCapacity .draining cancelled, .draining⟩

theorem assignment_opening : (b.assignment source transform cancelled).opening? b.workerCount =
    some (b.opening cancelled : BatchState α ρ).pool := rfl

-- Whatever starts has a worker and places for its jobs, and opens so.
theorem start_opening (started : (b.start (b.assignment source transform cancelled)).start = .running s) :
    b.workerCount ≠ 0 ∧ b.queueCapacity ≠ 0 ∧ s = b.opening cancelled := by
  unfold start at started
  split at started
  · cases started
  · next roomy =>
    dsimp only at started
    split at started
    · cases started
    · cases started
    · cases started
    · next pool ran =>
      cases started
      obtain ⟨sized, opened⟩ := GuardedWork.start_opening ran
      cases Option.some.inj (assignment_opening.symm.trans opened)
      exact ⟨sized, roomy, rfl⟩

theorem opened_underway (run : BatchState.Runs b (b.plan source transform) (b.opening cancelled) path t) :
    BatchState.Underway b (b.plan source transform) t := by
  have opened : (b.assignment source transform cancelled).opening? b.workerCount = _ := assignment_opening
  refine BatchState.runs_keep BatchState.move_underway run ?_
  exact {
    handles := PoolState.opening_handles opened
    exits := PoolState.opening_exits opened (by simp [assignment])
    numbered := PoolState.opening_numbered opened
    size := List.length_replicate
    capacities := ⟨rfl, rfl⟩
    present := .inl rfl
    knows := True.intro }

end Batch
end GuardedWork
