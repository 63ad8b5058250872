import GuardedWork.Proofs.Batch.Ledgers
import GuardedWork.Proofs.Batch.Returns
import GuardedWork.Proofs.Pool.Turns

namespace GuardedWork

variable {α ρ : Type}

def BatchAction.jobsTaken (path : List BatchAction) : Nat := (works path).countP PoolAction.takesJob

theorem BatchAction.works_append (first later : List BatchAction) : works (first ++ later) = works first ++ works later :=
  List.filterMap_append

namespace BatchState

variable {b : Batch} {plan : PoolPlan α ρ} {s t u : BatchState α ρ} {first later : List BatchAction}

theorem Runs.append (before : Runs b plan s first t) (after : Runs b plan t later u) :
    Runs b plan s (first ++ later) u := by
  induction before with
  | nil => exact after
  | cons stepped _ ih => exact .cons stepped (ih after)

-- The step that cancels is one of the pool.
theorem cancels_works {action : BatchAction} (fresh : s.pool.cancelled = false) (move : Move b plan s action t)
    (set : t.pool.cancelled = true) : ∃ work, action = .work work ∧ s.pool.Move plan work t.pool := by
  cases move with
  | work stays move => exact ⟨_, rfl, move⟩
  | joinDone | joinRefused | joinPanicked | await =>
    rw [fresh] at set
    cases set

end BatchState

namespace PoolState

variable {plan : PoolPlan α ρ} {s : PoolState α ρ} {r : JobResult ρ}

theorem taken_parcel (inside : r ∈ s.taken) : .result r ∈ s.parcels := by
  have member : (.result r : Parcel α ρ) ∈ Parcel.ofResults s.taken := List.mem_map_of_mem inside
  exact Multiset.mem_add.mpr (.inr member)

theorem taken_sequence (i : Nat) (s : PoolState α ρ) :
    (s.taken.filter fun r => r.worker == i).Sublist (s.sequence i) := by
  rw [sequence, List.filter_append, List.append_assoc]
  exact List.sublist_append_left ..

end PoolState

namespace Batch

variable {b : Batch} {source : Source α} {transform : Transform α ρ} {n : Nat} {s t u : BatchState α ρ}
  {action : BatchAction} {first later : List BatchAction} {cancelled : Bool} {path : List BatchAction}
  {result : Except WorkError (BatchOutput ρ)}

theorem opened_in_order : (b.opening cancelled : BatchState α ρ).pool.InOrder := ⟨rfl, Nat.le_refl 0, Nat.zero_le _⟩

theorem opened_settled (watched : b.watched = true)
    (run : BatchState.Runs b (b.plan source transform) (b.opening cancelled) path s) (i : Nat) : s.pool.Settled i := by
  have opened : (b.assignment source transform cancelled).opening? b.workerCount =
    some (b.opening cancelled : BatchState α ρ).pool := assignment_opening
  refine PoolState.runs_settled watched (BatchState.runs_pool run) (Nat.zero_le _) (PoolState.opening_signed opened) ?_ i
  intro i
  have empty : (b.opening cancelled : BatchState α ρ).pool.sequence i = [] := by
    rw [PoolState.sequence, PoolState.opening_unoffered opened]
    rfl
  exact ⟨by simp [empty], by simp [empty]⟩

-- With nobody lost every job that was accepted is answered, whatever the token says.
theorem returned_answered (sized : b.workerCount ≠ 0) (unbroken : ∀ k, (source k).pulled ≠ .panicked)
    (endings : ∀ job, source.Supplies job → (transform job.payload).ending ≠ .panic)
    (run : BatchState.Runs b (b.plan source transform) (b.opening cancelled) path s)
    (returned : s.caller = .returned result) : ∃ o, result = .ok o ∧ o.results = s.pool.taken ∧
      (o.results.map JobResult.jobId).Perm (List.range' 1 o.dispatched) := by
  have underway := opened_underway run
  have knows := underway.knows
  rw [returned] at knows
  have unpanicked := PoolState.numbered_unpanicked underway.numbered endings
  have staffed : s.pool.workers ≠ [] := by
    rw [← List.length_pos_iff, underway.size]
    omega
  have ends := underway.numbered.dispatching
  cases result with
  | ok o =>
    obtain ⟨finished, closed, results, _⟩ := knows
    simp only [PoolState.Dispatching, closed] at ends
    have parcels := (PoolState.finished_parcels underway.handles underway.exits staffed finished unpanicked).1
    refine ⟨o, rfl, results, ?_⟩
    rw [← Multiset.coe_eq_coe, results, ← PoolState.ids_ofResults, ← parcels, underway.numbered.ids, ends.1]
  | error e =>
    obtain ⟨finished, ⟨closed, _⟩ | ⟨closed, _⟩⟩ := knows
    · obtain ⟨w, member⟩ := List.exists_mem_of_ne_nil _ staffed
      exact absurd closed (PoolState.finished_unrefused underway.handles underway.exits finished member (unpanicked w member))
    · simp only [PoolState.Dispatching, closed] at ends
      exact absurd ends (unbroken _)

theorem opened_stopping {work : PoolAction}
    (before : BatchState.Runs b (b.plan source transform) (b.opening false) first s) (fresh : s.pool.cancelled = false)
    (move : s.pool.Move (b.plan source transform) work t.pool) (set : t.pool.cancelled = true) :
    t.pool.handedOut = BatchAction.jobsTaken first ∧ t.pool.Stopping (BatchAction.jobsTaken first) := by
  obtain ⟨inOrder, taken⟩ := PoolState.runs_take (BatchState.runs_pool before) opened_in_order
  obtain ⟨same, stopping⟩ := PoolState.cancels_stopping (opened_underway before).numbered inOrder fresh move set
  have count : t.pool.handedOut = BatchAction.jobsTaken first := by
    rw [same, taken, BatchAction.jobsTaken]
    exact Nat.zero_add _
  exact ⟨count, count ▸ stopping⟩

-- What is carried out on the whole way is so before the cancellation, or was at work by then.
theorem carried_out_within {work : PoolAction} (watched : b.watched = true)
    (before : BatchState.Runs b (b.plan source transform) (b.opening false) first s) (fresh : s.pool.cancelled = false)
    (move : s.pool.Move (b.plan source transform) work t.pool) (set : t.pool.cancelled = true)
    (after : BatchState.Runs b (b.plan source transform) t later u) (i : Nat) :
    ∀ id ∈ PoolState.noted (b.plan source transform) (PoolState.carriesOut i) (b.opening false).pool
      (BatchAction.works (first ++ .work work :: later)) ++ u.pool.atWork i, id ≤ BatchAction.jobsTaken first := by
  obtain ⟨count, stopping⟩ := opened_stopping before fresh move set
  have through : PoolState.Runs (b.plan source transform) (b.opening false : BatchState α ρ).pool
      (BatchAction.works first ++ [work]) t.pool :=
    (BatchState.runs_pool before).append (.cons (.of (PoolState.move_complete move)) .nil)
  have opened : BatchState.Underway b (b.plan source transform) (b.opening false) := opened_underway .nil
  have path : BatchAction.works (first ++ .work work :: later) =
      BatchAction.works first ++ [work] ++ BatchAction.works later := by
    rw [BatchAction.works_append, List.append_assoc]
    rfl
  intro id inside
  rw [path, PoolState.noted_append through, List.append_assoc] at inside
  rcases List.mem_append.mp inside with early | late
  · exact count ▸ (PoolState.runs_carry_out opened.numbered opened_in_order through i).2 id early
  · have watches : (b.plan source transform).workersWatch = true := watched
    have part := PoolState.runs_at_work watches set (BatchState.runs_pool after) i
    exact stopping.late.working i id (part.subset late)

-- A transform is called at some moment between the look at the token and its end, so that those called
-- behind a state are among those that end behind it or are still at work.
theorem cancellation_is_prompt (sized : b.workerCount ≠ 0) (roomy : b.queueCapacity ≠ 0) (watched : b.watched = true)
    (stops : source.StopsAt n) (unbroken : ∀ k, (source k).pulled ≠ .panicked)
    (endings : ∀ job, source.Supplies job → (transform job.payload).ending ≠ .panic)
    (before : BatchState.Runs b (b.plan source transform) (b.opening false) first s) (fresh : s.pool.cancelled = false)
    (stepped : s.step? b (b.plan source transform) action = some t) (set : t.pool.cancelled = true)
    (after : BatchState.Runs b (b.plan source transform) t later u) :
    u.pool.dispatched ≤ t.pool.dispatched + 1 ∧
      (∀ i, (PoolState.noted (b.plan source transform) (PoolState.carriesOut i) t.pool (BatchAction.works later) ++
        u.pool.atWork i).length ≤ 1) ∧
      (∀ i, ∀ id ∈ PoolState.noted (b.plan source transform) (PoolState.carriesOut i) (b.opening false).pool
          (BatchAction.works (first ++ action :: later)) ++ u.pool.atWork i, id ≤ BatchAction.jobsTaken first) ∧
      ((∀ result, u.caller ≠ .returned result) → u.CanMove b (b.plan source transform)) ∧
      (first ++ action :: later).length ≤ 8 * n + 2 * b.workerCount + 7 ∧
      ∀ result, u.caller = .returned result → ∃ o, result = .ok o ∧
        (∀ r ∈ o.results, BatchAction.jobsTaken first < r.jobId → r.outcome = .cancelled) ∧
        (o.results.countP fun r => r.jobId ≤ BatchAction.jobsTaken first && r.outcome.kind == .cancelled) ≤
          b.workerCount ∧
        (∀ i, (o.results.filter fun r => r.worker == i).Pairwise fun x y =>
          x.outcome = .cancelled → y.outcome = .cancelled) ∧
        o.results.length = o.dispatched ∧ (o.results.map JobResult.jobId).Perm (List.range' 1 o.dispatched) ∧
        (b.workerCount = 1 → ∃ front back, o.results = front ++ back ∧ (∀ r ∈ front, r.outcome ≠ .cancelled) ∧
          ∀ r ∈ back, r.outcome = .cancelled) := by
  obtain ⟨work, rfl, move⟩ := BatchState.cancels_works fresh (BatchState.move_sound stepped) set
  have whole := before.append (.cons stepped after)
  have poolAfter := BatchState.runs_pool after
  have watches : (b.plan source transform).workersWatch = true := watched
  have stopping := (opened_stopping before fresh move set).2
  have stopped : u.pool.Stopping (BatchAction.jobsTaken first) :=
    PoolState.runs_keep (PoolState.move_stopping watches) poolAfter stopping
  refine ⟨PoolState.runs_committed watched set poolAfter, ?_, ?_, ?_, run_bounded stops whole, ?_⟩
  · intro i
    exact (PoolState.runs_at_work watches set poolAfter i).length_le.trans (PoolState.at_work_one i t.pool)
  · exact carried_out_within watched before fresh move set after
  · exact BatchState.unreturned_can_move roomy (opened_underway whole)
  · intro result returned
    obtain ⟨o, rfl, results, ids⟩ := returned_answered sized unbroken endings whole returned
    have ordered : ∀ i, (o.results.filter fun r => r.worker == i).Pairwise fun x y =>
        x.outcome = .cancelled → y.outcome = .cancelled := by
      intro i
      rw [results]
      exact (opened_settled watched whole i).ordered.sublist (PoolState.taken_sequence i u.pool)
    refine ⟨o, rfl, ?_, ?_, ordered, by simpa using ids.length_eq, ids, ?_⟩
    · intro r inside beyond
      exact stopped.late.results r (PoolState.taken_parcel (results ▸ inside)) beyond
    · rw [results, ← (opened_underway whole).size]
      exact (PoolState.taken_early _ u.pool).trans stopped.early
    · intro alone
      have only : o.results.filter (fun r => r.worker == 0) = o.results := by
        rw [List.filter_eq_self]
        intro r inside
        have member : r ∈ u.pool.everyResult := List.mem_append_right _ (results ▸ inside)
        have bound := (opened_booked whole).workers r member
        rw [(opened_underway whole).size, alone] at bound
        simpa using bound
      exact PoolState.cancelled_split (only ▸ ordered 0)

-- The first of two workers cancels from inside its transform, when the second has its job in hand and the
-- dispatcher is about to put a third.
def halting : Batch := ⟨"halting", 2, 1, true⟩

def haltingTransform : Transform Nat Nat := fun x => ⟨.value (x * x), x == 3⟩

def haltingBefore : List BatchAction :=
  [.work .pull, .work .check, .work .enqueue, .work (.take 0), .work .pull, .work .check, .work .enqueue,
    .work (.take 1), .work (.start 0), .work .pull, .work .check]

def haltingAfter : List BatchAction :=
  [.work .enqueue, .work (.give 0), .work .consume, .work (.take 0), .work (.start 1), .work (.give 1), .work .consume,
    .work .pull, .work .check, .work .closeJobs, .work (.start 0), .work (.give 0), .work .consume, .work (.exit 0),
    .work (.exit 1), .work .join, .work .join, .work .release, .work .seeClose, .joinDispatcher, .awaitPool]

def haltingPlan : PoolPlan Nat Nat := halting.plan (.ofList [3, 4, 5, 6, 7]) haltingTransform

def haltingAt (path : List BatchAction) : BatchState Nat Nat :=
  let state? := path.foldlM (fun s action => BatchState.step? halting haltingPlan action s) (halting.opening false)
  state?.getD (halting.opening false)

def haltingWhole : List BatchAction := haltingBefore ++ .work (.finish 0) :: haltingAfter

theorem halting_is_prompt :
    BatchState.Runs halting haltingPlan (halting.opening false) haltingBefore (haltingAt haltingBefore) ∧
      (haltingAt haltingBefore).pool.cancelled = false ∧ BatchAction.jobsTaken haltingBefore = 2 ∧
      ∃ (t : BatchState Nat Nat) (o : BatchOutput Nat),
        (haltingAt haltingBefore).step? halting haltingPlan (.work (.finish 0)) = some t ∧ t.pool.cancelled = true ∧
        BatchState.Runs halting haltingPlan t haltingAfter (haltingAt haltingWhole) ∧
        (haltingAt haltingWhole).pool.dispatched ≤ t.pool.dispatched + 1 ∧
        (haltingAt haltingWhole).caller = .returned (.ok o) ∧
        o.results = [⟨1, 0, .completed 9⟩, ⟨2, 1, .cancelled⟩, ⟨3, 0, .cancelled⟩] ∧
        (∀ r ∈ o.results, 2 < r.jobId → r.outcome = .cancelled) ∧
        (o.results.map JobResult.jobId).Perm (List.range' 1 o.dispatched) := by
  have before : BatchState.Runs halting haltingPlan (halting.opening false) haltingBefore (haltingAt haltingBefore) :=
    BatchState.runs_of_replay rfl
  have stepped : (haltingAt haltingBefore).step? halting haltingPlan (.work (.finish 0)) =
      some (haltingAt (haltingBefore ++ [.work (.finish 0)])) := rfl
  have after : BatchState.Runs halting haltingPlan (haltingAt (haltingBefore ++ [.work (.finish 0)])) haltingAfter
      (haltingAt haltingWhole) := BatchState.runs_of_replay rfl
  have unbroken : ∀ k, ((Source.ofList [3, 4, 5, 6, 7]) k).pulled ≠ .panicked := by
    intro k
    rw [Source.ofList]
    split <;> simp
  have prompt := cancellation_is_prompt (by decide) (by decide) rfl (Source.ofList_stops [3, 4, 5, 6, 7]) unbroken
    (fun _ _ => by simp [haltingTransform]) before rfl stepped rfl after
  obtain ⟨o, same, late, _, _, _, ids, _⟩ := prompt.2.2.2.2.2 _ rfl
  cases same
  exact ⟨before, rfl, rfl, _, _, stepped, rfl, after, prompt.1, rfl, rfl, late, ids⟩

end Batch
end GuardedWork
