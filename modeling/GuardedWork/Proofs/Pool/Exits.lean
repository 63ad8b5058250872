import GuardedWork.Proofs.Pool.Handles

namespace GuardedWork

namespace PoolState

variable {α ρ : Type} {plan : PoolPlan α ρ} {s t : PoolState α ρ} {action : PoolAction} {i : Nat} {v w : Worker α ρ}

structure Exits (s : PoolState α ρ) : Prop where
  -- a worker that has exited saw a closed job queue with nothing left in it
  drained : ∀ w ∈ s.workers, w.phase = .exited → s.jobs.items = [] ∧ s.jobs.producers = 0
  -- a result is refused only for want of the consumer
  unheard : ∀ w ∈ s.workers, ∀ r, w.phase = .refused r → s.consumer = .dropped
  -- a job is refused only once every worker has gone, and then for another reason than the close
  forsaken : s.dispatcher = .closing .refused ∨ s.dispatcher = .closed .refused →
    ∀ w ∈ s.workers, w.isGone = true ∧ w.phase ≠ .exited
  -- a consumer that has seen the close left nothing behind, and nobody can add to it
  finished : s.consumer = .finished → s.results.items = [] ∧ s.results.producers = 0

theorem worker_exits (held : Handles s) (exits : Exits s) (found : s.workers[i]? = some w)
    (move : WorkerMove plan s i w action t) : Exits t := by
  have same := worker_beside move
  have member := List.mem_of_getElem? found
  have before := (worker_turn move).1
  have producers : s.results.producers ≠ 0 := by
    have more := alive_pos member before
    rw [held.resultProducers]
    omega
  refine ⟨?_, ?_, ?_, ?_⟩
  · intro x inside left
    rw [same.jobProducers]
    cases move with
    | exit drained closed => exact ⟨drained, closed⟩
    | take queued =>
      rcases List.mem_or_eq_of_mem_set inside with old | rfl
      · rw [(exits.drained x old left).1] at queued
        cases queued
      · cases left
    | _ => exact set_all exits.drained (by simp) x inside left
  · intro x inside r left
    rw [same.consumer]
    cases move with
    | refused unheard =>
      have consumers := held.resultConsumers
      rw [unheard] at consumers
      by_contra present
      simp [present] at consumers
    | _ => exact set_all exits.unheard (by simp) x inside r left
  · intro refused
    rw [same.dispatcher] at refused
    rw [(exits.forsaken refused w member).1] at before
    cases before
  · intro finished
    rw [same.consumer] at finished
    exact absurd (exits.finished finished).2 producers

theorem dispatcher_exits (held : Handles s) (exits : Exits s) (move : DispatcherMove plan s action t) : Exits t := by
  have producers := held.jobProducers
  cases move with
  | pullItem | pullEnd | stop | offer => exact { exits with forsaken := by simp }
  | pullPanic asks =>
    refine { exits with drained := ?_, forsaken := by simp }
    intro x inside left
    obtain ⟨drained, closed⟩ := exits.drained x inside left
    exact ⟨drained, by simp [Queue.dropProducer, closed]⟩
  | close closes =>
    refine { exits with drained := ?_, forsaken := ?_ }
    · intro x inside left
      obtain ⟨drained, closed⟩ := exits.drained x inside left
      exact ⟨drained, by simp [Queue.dropProducer, closed]⟩
    · intro refused
      exact exits.forsaken (by simpa [closes] using refused)
  | enqueue offers =>
    -- while it offers a job its producer is there, so nobody has seen a close
    refine { exits with drained := ?_, forsaken := by simp }
    intro x inside left
    simp [dispatcherDone, offers, (exits.drained x inside left).2] at producers
  | refused offers unheard =>
    refine { exits with forsaken := ?_ }
    intro _ x inside
    rw [held.jobConsumers] at unheard
    refine ⟨alive_eq_zero.mp unheard x inside, ?_⟩
    intro left
    simp [dispatcherDone, offers, (exits.drained x inside left).2] at producers
  | pass offers waits =>
    exact { exits with
      drained := set_all exits.drained (by simp)
      unheard := set_all exits.unheard (by simp)
      forsaken := by simp }

theorem move_exits (held : Handles s) (exits : Exits s) (move : Move plan s action t) : Exits t := by
  cases move with
  | dispatcher move => exact dispatcher_exits held exits move
  | worker found move => exact worker_exits held exits found move
  | join | cancel => exact { exits with }
  | release joined =>
    refine { exits with finished := ?_ }
    intro finished
    obtain ⟨drained, closed⟩ := exits.finished finished
    exact ⟨drained, by simp [Queue.dropProducer, closed]⟩
  | consume drains =>
    refine { exits with finished := ?_ }
    intro finished
    rw [drains] at finished
    cases finished
  | seeClose drains drained closed =>
    refine { exits with unheard := ?_, finished := fun _ => ⟨drained, closed⟩ }
    intro x inside r left
    have dropped := exits.unheard x inside r left
    rw [drains] at dropped
    cases dropped
  | leave =>
    refine { exits with unheard := fun _ _ _ _ => rfl, finished := ?_ }
    intro finished
    cases finished

-- Once the results are closed every worker has gone, and the coordinator has let go as well.
theorem finished_gone (held : Handles s) (exits : Exits s) (finished : s.consumer = .finished) :
    (∀ w ∈ s.workers, w.isGone = true) ∧ s.released = true := by
  have closed := (exits.finished finished).2
  rw [held.resultProducers] at closed
  refine ⟨alive_eq_zero.mp (by omega), ?_⟩
  by_contra unreleased
  simp [unreleased] at closed

-- While the consumer is there, no worker leaves with a result that nobody took.
theorem gone_phases (exits : Exits s) (present : s.consumer ≠ .dropped) (member : w ∈ s.workers)
    (gone : w.isGone = true) : w.phase = .exited ∨ ∃ job, w.phase = .panicked job := by
  obtain ⟨phase, handled⟩ := w
  cases phase with
  | exited => exact .inl rfl
  | panicked job => exact .inr ⟨job, rfl⟩
  | refused r => exact absurd (exits.unheard _ member r rfl) present
  | waiting | holding | running | offering => cases gone

theorem finished_phases (held : Handles s) (exits : Exits s) (finished : s.consumer = .finished)
    (member : w ∈ s.workers) : w.phase = .exited ∨ ∃ job, w.phase = .panicked job :=
  gone_phases exits (by simp [finished]) member ((finished_gone held exits finished).1 w member)

theorem finished_exited (held : Handles s) (exits : Exits s) (finished : s.consumer = .finished)
    (member : w ∈ s.workers) (unpanicked : w.hasPanicked = false) : w.phase = .exited := by
  rcases finished_phases held exits finished member with exited | ⟨job, panicked⟩
  · exact exited
  · simp [Worker.hasPanicked, panicked] at unpanicked

theorem survivor (few : s.workers.countP Worker.hasPanicked < s.workers.length) :
    ∃ w ∈ s.workers, w.hasPanicked = false := by
  by_contra nobody
  push Not at nobody
  have all : s.workers.countP Worker.hasPanicked = s.workers.length := by
    rw [List.countP_eq_length]
    intro w member
    simpa using nobody w member
  exact Nat.ne_of_lt few all

-- Whoever survives has heard the dispatcher to its end.
theorem finished_unrefused (held : Handles s) (exits : Exits s) (finished : s.consumer = .finished)
    (member : w ∈ s.workers) (unpanicked : w.hasPanicked = false) : s.dispatcher ≠ .closed .refused := by
  intro refused
  have exited := finished_exited held exits finished member unpanicked
  exact (exits.forsaken (.inr refused) w member).2 exited

-- With the close seen and the dispatcher at its end, only the token still moves.
theorem finished_still {ending : DispatchEnd} (held : Handles s) (exits : Exits s) (finished : s.consumer = .finished)
    (closed : s.dispatcher = .closed ending) (move : Move plan s action t) :
    action = .cancel ∧ t = { s with cancelled := true } := by
  obtain ⟨gone, released⟩ := finished_gone held exits finished
  cases move with
  | dispatcher move => cases move <;> simp_all
  | worker found move =>
    have before := (worker_turn move).1
    rw [gone _ (List.mem_of_getElem? found)] at before
    cases before
  | join found =>
    have inside := (List.getElem?_eq_some_iff.mp found).1
    exact absurd (held.released released) (Nat.ne_of_lt inside)
  | release joined unreleased =>
    rw [released] at unreleased
    cases unreleased
  | consume drains | seeClose drains =>
    rw [finished] at drains
    cases drains
  | leave present => simp [finished] at present
  | cancel => exact ⟨rfl, rfl⟩

end PoolState
end GuardedWork
