import GuardedWork.Proofs.Exchange
import GuardedWork.Proofs.Pool.Moves

namespace GuardedWork

namespace PoolState

variable {α ρ : Type} {plan : PoolPlan α ρ} {s t : PoolState α ρ} {action : PoolAction} {i : Nat} {v w : Worker α ρ}
  {workers : List (Worker α ρ)}

-- The workers that still hold their handles.
def alive (workers : List (Worker α ρ)) : Nat := workers.countP fun w => !w.isGone

theorem alive_stay (found : workers[i]? = some w) (before : w.isGone = false) (after : v.isGone = false) :
    alive (workers.set i v) = alive workers := by
  obtain ⟨others, whole, changed⟩ := entry_split found
  simp [alive, whole.countP_eq, (changed v).countP_eq, before, after]

theorem alive_leave (found : workers[i]? = some w) (before : w.isGone = false) (after : v.isGone = true) :
    alive workers = alive (workers.set i v) + 1 := by
  obtain ⟨others, whole, changed⟩ := entry_split found
  simp [alive, whole.countP_eq, (changed v).countP_eq, before, after]

theorem alive_eq_zero : alive workers = 0 ↔ ∀ w ∈ workers, w.isGone = true := by simp [alive]

theorem alive_pos (member : w ∈ workers) (before : w.isGone = false) : alive workers ≠ 0 := by
  intro none
  rw [alive_eq_zero.mp none w member] at before
  cases before

theorem gone_stay {n : Nat} (gone : ∀ k < n, ∃ w, workers[k]? = some w ∧ w.isGone = true)
    (found : workers[i]? = some w) (before : w.isGone = false) :
    ∀ k < n, ∃ x, (workers.set i v)[k]? = some x ∧ x.isGone = true := by
  intro k within
  obtain ⟨x, at_k, left⟩ := gone k within
  have other : i ≠ k := by
    rintro rfl
    rw [found] at at_k
    cases at_k
    rw [before] at left
    cases left
  exact ⟨x, by rw [List.getElem?_set_ne other, at_k], left⟩

-- What no move of a worker touches.
structure Beside (s t : PoolState α ρ) : Prop where
  dispatcher : t.dispatcher = s.dispatcher
  pulled : t.pulled = s.pulled
  dispatched : t.dispatched = s.dispatched
  jobProducers : t.jobs.producers = s.jobs.producers
  jobCapacity : t.jobs.capacity = s.jobs.capacity
  resultConsumers : t.results.consumers = s.results.consumers
  resultCapacity : t.results.capacity = s.results.capacity
  joined : t.joined = s.joined
  released : t.released = s.released
  consumer : t.consumer = s.consumer

theorem worker_beside (move : WorkerMove plan s i w action t) : Beside s t := by
  cases move <;> exact ⟨rfl, rfl, rfl, rfl, rfl, rfl, rfl, rfl, rfl, rfl⟩

-- A worker that moves was alive. It stays so and keeps both handles, or goes and gives up both.
theorem worker_turn (move : WorkerMove plan s i w action t) :
    w.isGone = false ∧ ∃ v, t.workers = s.workers.set i v ∧
      (v.isGone = false ∧ t.jobs.consumers = s.jobs.consumers ∧ t.results.producers = s.results.producers ∨
        v.isGone = true ∧ t.jobs.consumers = s.jobs.consumers - 1 ∧ t.results.producers = s.results.producers - 1) := by
  cases move with
  | take | skip | start | finish | give | pass => exact ⟨rfl, _, rfl, .inl ⟨rfl, rfl, rfl⟩⟩
  | exit | panic | refused => exact ⟨rfl, _, rfl, .inr ⟨rfl, rfl, rfl⟩⟩

theorem dispatcherDone_iff : s.dispatcherDone = true ↔ ∃ ending, s.dispatcher = .closed ending := by
  unfold dispatcherDone
  split <;> simp_all

-- The workers and the dispatcher hold the job queue; the workers, the coordinator and the consumer
-- hold the result queue.
structure Handles (s : PoolState α ρ) : Prop where
  jobConsumers : s.jobs.consumers = alive s.workers
  jobProducers : s.jobs.producers = if s.dispatcherDone then 0 else 1
  resultProducers : s.results.producers = alive s.workers + if s.released then 0 else 1
  resultConsumers : s.results.consumers = if s.consumer = .dropped then 0 else 1
  joined : ∀ k < s.joined, ∃ w, s.workers[k]? = some w ∧ w.isGone = true
  released : s.released = true → s.joined = s.workers.length

theorem closed_of_unheld (held : Handles s) (closed : s.jobs.producers = 0) :
    ∃ ending, s.dispatcher = .closed ending := by
  rw [← dispatcherDone_iff]
  by_contra open_
  simp [held.jobProducers, open_] at closed

theorem joined_within (held : Handles s) : s.joined ≤ s.workers.length := by
  by_contra beyond
  obtain ⟨w, found, _⟩ := held.joined s.workers.length (by omega)
  exact Nat.lt_irrefl _ (List.getElem?_eq_some_iff.mp found).1

theorem released_gone (held : Handles s) (released : s.released = true) : ∀ w ∈ s.workers, w.isGone = true := by
  intro w member
  obtain ⟨k, found⟩ := List.getElem?_of_mem member
  obtain ⟨x, also, left⟩ := held.joined k (held.released released ▸ (List.getElem?_eq_some_iff.mp found).1)
  rw [found] at also
  cases also
  exact left

theorem worker_handles (held : Handles s) (found : s.workers[i]? = some w) (move : WorkerMove plan s i w action t) :
    Handles t := by
  have same := worker_beside move
  obtain ⟨before, v, workers, turn⟩ := worker_turn move
  have gone : ∀ k < t.joined, ∃ w, t.workers[k]? = some w ∧ w.isGone = true := by
    rw [same.joined, workers]
    exact gone_stay held.joined found before
  have done : t.dispatcherDone = s.dispatcherDone := by simp only [dispatcherDone, same.dispatcher]
  have producers : t.jobs.producers = if t.dispatcherDone then 0 else 1 := by
    rw [same.jobProducers, done, held.jobProducers]
  have consumers : t.results.consumers = if t.consumer = .dropped then 0 else 1 := by
    rw [same.resultConsumers, same.consumer, held.resultConsumers]
  have whole : t.released = true → t.joined = t.workers.length := by
    rw [same.released, same.joined, workers, List.length_set]
    exact held.released
  rcases turn with ⟨after, jobs, results⟩ | ⟨after, jobs, results⟩
  · refine ⟨?_, producers, ?_, consumers, gone, whole⟩
    · rw [jobs, held.jobConsumers, workers, alive_stay found before after]
    · rw [results, held.resultProducers, workers, alive_stay found before after, same.released]
  · have fewer := alive_leave found before after
    refine ⟨?_, producers, ?_, consumers, gone, whole⟩
    · rw [jobs, held.jobConsumers, workers, fewer, Nat.add_sub_cancel]
    · rw [results, held.resultProducers, workers, same.released]
      omega

theorem dispatcher_handles (held : Handles s) (move : DispatcherMove plan s action t) : Handles t := by
  have producers := held.jobProducers
  cases move with
  | pullItem asks | pullEnd asks => exact { held with jobProducers := by simpa [dispatcherDone, asks] using producers }
  | stop holds | offer holds => exact { held with jobProducers := by simpa [dispatcherDone, holds] using producers }
  | enqueue offers | refused offers =>
    exact { held with jobProducers := by simpa [dispatcherDone, offers] using producers }
  | pullPanic asks =>
    exact { held with jobProducers := by simp_all [dispatcherDone, Queue.dropProducer] }
  | close closes =>
    exact { held with jobProducers := by simp_all [dispatcherDone, Queue.dropProducer] }
  | pass offers waits =>
    refine { held with jobConsumers := ?_, jobProducers := ?_, resultProducers := ?_, joined := ?_, released := ?_ }
    · rw [setWorker, alive_stay waits rfl rfl, ← held.jobConsumers]
    · simpa [dispatcherDone, offers, setWorker] using producers
    · rw [setWorker, alive_stay waits rfl rfl, ← held.resultProducers]
    · exact gone_stay held.joined waits rfl
    · rw [setWorker, List.length_set]
      exact held.released

theorem move_handles (held : Handles s) (move : Move plan s action t) : Handles t := by
  cases move with
  | dispatcher move => exact dispatcher_handles held move
  | worker found move => exact worker_handles held found move
  | join found gone =>
    refine { held with joined := ?_, released := ?_ }
    · intro k within
      rcases Nat.lt_succ_iff_lt_or_eq.mp within with before | rfl
      · exact held.joined k before
      · exact ⟨_, found, gone⟩
    · intro released
      have inside := (List.getElem?_eq_some_iff.mp found).1
      have all := held.released released
      omega
  | release joined unreleased =>
    refine { held with resultProducers := ?_, released := fun _ => joined }
    have producers := held.resultProducers
    rw [unreleased] at producers
    simp [Queue.dropProducer, producers]
  | consume => exact { held with }
  | seeClose drains => exact { held with resultConsumers := by simpa [drains] using held.resultConsumers }
  | leave present =>
    have consumers := held.resultConsumers
    refine { held with resultConsumers := ?_ }
    rcases present with drains | idle <;> simp_all [Queue.dropConsumer]
  | cancel => exact { held with }

end PoolState
end GuardedWork
