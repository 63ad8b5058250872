import GuardedWork.Proofs.Pool.Exits

namespace GuardedWork

namespace PoolState

variable {α ρ : Type} {plan : PoolPlan α ρ} {s : PoolState α ρ} {w : Worker α ρ}

-- Somebody goes on of himself. A cancellation comes from outside and a consumer need not leave, so
-- that neither counts.
def CanMove (plan : PoolPlan α ρ) (s : PoolState α ρ) : Prop :=
  ∃ action t, action ≠ .cancel ∧ action ≠ .leave ∧ Move plan s action t

-- Whoever holds out a result finds room for it, or nobody to take it any more.
def GivesFreely (s : PoolState α ρ) : Prop :=
  ∀ w ∈ s.workers, ∀ r, w.phase = .offering r → s.results.consumers = 0 ∨ s.results.items.length < s.results.capacity

theorem dispatcher_can_move (busy : ∀ ending, s.dispatcher ≠ .closed ending)
    (free : ∀ a, s.dispatcher = .offering a → s.jobs.consumers = 0 ∨ s.jobs.items.length < s.jobs.capacity) :
    CanMove plan s := by
  have can : ∀ {action t}, DispatcherMove plan s action t → CanMove plan s := by
    intro action t move
    refine ⟨action, t, ?_, ?_, .dispatcher move⟩ <;> rintro rfl <;> cases move
  cases phase : s.dispatcher with
  | asking =>
    cases pulled : (plan.source s.pulled).pulled with
    | item a => exact can (.pullItem phase pulled)
    | ended => exact can (.pullEnd phase pulled)
    | panicked => exact can (.pullPanic phase pulled)
  | holding a =>
    cases stopped : plan.dispatcherWatches && s.cancelled with
    | false => exact can (.offer phase stopped)
    | true =>
      obtain ⟨watched, cancelled⟩ := Bool.and_eq_true_iff.mp stopped
      exact can (.stop phase watched cancelled)
  | offering a =>
    by_cases unheard : s.jobs.consumers = 0
    · exact can (.refused phase unheard)
    · exact can (.enqueue phase unheard ((free a phase).resolve_left unheard))
  | closing ending => exact can (.close phase)
  | closed ending => exact absurd phase (busy ending)

theorem worker_can_move (member : w ∈ s.workers) (alive : w.isGone = false)
    (takes : w.phase = .waiting → s.jobs.items ≠ [] ∨ s.jobs.producers = 0)
    (gives : ∀ r, w.phase = .offering r → s.results.consumers = 0 ∨ s.results.items.length < s.results.capacity) :
    CanMove plan s := by
  obtain ⟨i, found⟩ := List.getElem?_of_mem member
  have can : ∀ {action t}, WorkerMove plan s i w action t → CanMove plan s := by
    intro action t move
    refine ⟨action, t, ?_, ?_, .worker found move⟩ <;> rintro rfl <;> cases move
  obtain ⟨phase, handled⟩ := w
  cases phase with
  | waiting =>
    cases queued : s.jobs.items with
    | cons job rest => exact can (.take queued)
    | nil => exact can (.exit queued ((takes rfl).resolve_left (by simp [queued])))
  | holding job =>
    cases stopped : plan.workersWatch && s.cancelled with
    | false => exact can (.start stopped)
    | true =>
      obtain ⟨watched, cancelled⟩ := Bool.and_eq_true_iff.mp stopped
      exact can (.skip watched cancelled)
  | running job =>
    cases ending : (plan.transform job.payload).ending with
    | value v => exact can (.finish (by rw [ending]; rfl))
    | failure f => exact can (.finish (by rw [ending]; rfl))
    | panic => exact can (.panic ending)
  | offering r =>
    by_cases unheard : s.results.consumers = 0
    · exact can (.refused unheard)
    · exact can (.give unheard ((gives r rfl).resolve_left unheard))
  | exited | refused | panicked => cases alive

theorem coordinator_can_move (held : Handles s) (gone : ∀ w ∈ s.workers, w.isGone = true)
    (unreleased : s.released = false) : CanMove plan s := by
  by_cases joined : s.joined = s.workers.length
  · exact ⟨.release, _, by simp, by simp, .release joined unreleased⟩
  · have inside : s.joined < s.workers.length := Nat.lt_of_le_of_ne (joined_within held) joined
    exact ⟨.join, _, by simp, by simp, .join (List.getElem?_eq_getElem inside) (gone _ (List.getElem_mem inside))⟩

theorem consumer_can_move (drains : s.consumer = .draining) (free : s.results.items ≠ [] ∨ s.results.producers = 0) :
    CanMove plan s := by
  cases queued : s.results.items with
  | cons r rest => exact ⟨.consume, _, by simp, by simp, .consume drains queued⟩
  | nil => exact ⟨.seeClose, _, by simp, by simp, .seeClose drains queued (free.resolve_left (by simp [queued]))⟩

-- While a dispatcher is not at its end, it has a place for its next job, or some worker that is alive
-- has a job to take or one in hand, or waits to be handed one.
theorem undispatched_can_move (held : Handles s) (busy : ∀ ending, s.dispatcher ≠ .closed ending)
    (gives : GivesFreely s) : CanMove plan s := by
  by_cases free : ∀ a, s.dispatcher = .offering a → s.jobs.consumers = 0 ∨ s.jobs.items.length < s.jobs.capacity
  · exact dispatcher_can_move busy free
  · push Not at free
    obtain ⟨a, offers, heard, full⟩ := free
    rw [held.jobConsumers, Ne, alive_eq_zero] at heard
    push Not at heard
    obtain ⟨w, member, alive⟩ := heard
    by_cases waits : w.phase = .waiting ∧ s.jobs.items = []
    · obtain ⟨waiting, none⟩ := waits
      obtain ⟨i, found⟩ := List.getElem?_of_mem member
      obtain ⟨phase, n⟩ := w
      cases waiting
      have bufferless : s.jobs.capacity = 0 := by simpa [none] using full
      exact ⟨.passJob i, _, by simp, by simp, .dispatcher (.pass offers found bufferless)⟩
    · refine worker_can_move member (Bool.eq_false_iff.mpr alive) (fun waiting => .inl fun none => ?_) (gives w member)
      exact waits ⟨waiting, none⟩

-- Once the dispatcher is at its end, a worker that is alive goes on, and after the last of them the
-- coordinator.
theorem dispatched_can_move {ending : DispatchEnd} (held : Handles s) (closed : s.dispatcher = .closed ending)
    (unreleased : s.released = false) (gives : GivesFreely s) : CanMove plan s := by
  have producers : s.jobs.producers = 0 := by simp [held.jobProducers, dispatcherDone, closed]
  by_cases gone : ∀ w ∈ s.workers, w.isGone = true
  · exact coordinator_can_move held gone unreleased
  · push Not at gone
    obtain ⟨w, member, alive⟩ := gone
    exact worker_can_move member (Bool.eq_false_iff.mpr alive) (fun _ => .inr producers) (gives w member)

theorem unfinished_can_move (held : Handles s) (gives : GivesFreely s)
    (unfinished : (s.released && s.dispatcherDone) = false) : CanMove plan s := by
  by_cases done : s.dispatcherDone = true
  · obtain ⟨ending, closed⟩ := dispatcherDone_iff.mp done
    rw [done, Bool.and_true] at unfinished
    exact dispatched_can_move held closed unfinished gives
  · rw [dispatcherDone_iff] at done
    exact undispatched_can_move held (not_exists.mp done) gives

theorem draining_can_move (held : Handles s) (resultRoom : 0 < s.results.capacity) (drains : s.consumer = .draining) :
    CanMove plan s := by
  by_cases some : s.results.items ≠ [] ∨ s.results.producers = 0
  · exact consumer_can_move drains some
  · obtain ⟨none, unclosed⟩ := not_or.mp some
    have gives : s.results.items.length < s.results.capacity := by simpa [not_not.mp none] using resultRoom
    have unreleased : s.released = false := by
      by_contra released
      rw [Bool.not_eq_false] at released
      rw [held.resultProducers, alive_eq_zero.mpr (released_gone held released), released] at unclosed
      exact unclosed rfl
    apply unfinished_can_move held (fun _ _ _ _ => .inr gives)
    rw [unreleased, Bool.false_and]

theorem finished_can_move (held : Handles s) (exits : Exits s) (finished : s.consumer = .finished)
    (busy : ∀ ending, s.dispatcher ≠ .closed ending) : CanMove plan s := by
  refine dispatcher_can_move busy fun _ _ => .inl ?_
  rw [held.jobConsumers]
  exact alive_eq_zero.mpr (finished_gone held exits finished).1

end PoolState
end GuardedWork
