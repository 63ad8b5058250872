import GuardedWork.Pool.Run
import GuardedWork.Proofs.Summary

namespace GuardedWork

-- The worker whose action it is; the handover of a job counts as the dispatcher's.
def PoolAction.worker? : PoolAction → Option Nat
  | .take i | .start i | .finish i | .give i | .passResult i | .exit i => some i
  | _ => none

namespace PoolState

variable {α ρ : Type} {plan : PoolPlan α ρ} {s t u : PoolState α ρ} {action : PoolAction} {i : Nat} {w : Worker α ρ}

inductive DispatcherMove (plan : PoolPlan α ρ) (s : PoolState α ρ) : PoolAction → PoolState α ρ → Prop where
  | pullItem {a : α} (asks : s.dispatcher = .asking) (pulled : (plan.source s.pulled).pulled = .item a) :
      DispatcherMove plan s .pull { s with
        dispatcher := .holding a, pulled := s.pulled + 1, cancelled := s.cancelled || (plan.source s.pulled).cancels }
  | pullEnd (asks : s.dispatcher = .asking) (pulled : (plan.source s.pulled).pulled = .ended) :
      DispatcherMove plan s .pull { s with
        dispatcher := .closing (.done s.dispatched), cancelled := s.cancelled || (plan.source s.pulled).cancels }
  | pullPanic (asks : s.dispatcher = .asking) (pulled : (plan.source s.pulled).pulled = .panicked) :
      DispatcherMove plan s .pull { s with
        dispatcher := .closed .panicked, jobs := s.jobs.dropProducer
        cancelled := s.cancelled || (plan.source s.pulled).cancels }
  | stop {a : α} (holds : s.dispatcher = .holding a) (watched : plan.dispatcherWatches = true)
      (cancelled : s.cancelled = true) :
      DispatcherMove plan s .check { s with dispatcher := .closing (.done s.dispatched) }
  | offer {a : α} (holds : s.dispatcher = .holding a) (unstopped : (plan.dispatcherWatches && s.cancelled) = false) :
      DispatcherMove plan s .check { s with dispatcher := .offering a }
  | enqueue {a : α} (offers : s.dispatcher = .offering a) (heard : s.jobs.consumers ≠ 0)
      (room : s.jobs.items.length < s.jobs.capacity) :
      DispatcherMove plan s .enqueue { s with
        dispatcher := .asking, dispatched := s.dispatched + 1
        jobs := { s.jobs with items := s.jobs.items ++ [⟨s.dispatched + 1, a⟩] } }
  | refused {a : α} (offers : s.dispatcher = .offering a) (unheard : s.jobs.consumers = 0) :
      DispatcherMove plan s .enqueue { s with dispatcher := .closing .refused }
  -- without a buffer a job goes straight into the hands of a worker who waits
  | pass {a : α} {i n : Nat} (offers : s.dispatcher = .offering a) (waits : s.workers[i]? = some ⟨.waiting, n⟩)
      (bufferless : s.jobs.capacity = 0) :
      DispatcherMove plan s (.passJob i) { s.setWorker i ⟨.holding ⟨s.dispatched + 1, a⟩, n⟩ with
        dispatcher := .asking, dispatched := s.dispatched + 1 }
  | close {ending : DispatchEnd} (closes : s.dispatcher = .closing ending) :
      DispatcherMove plan s .closeJobs { s with dispatcher := .closed ending, jobs := s.jobs.dropProducer }

-- Of the worker at the place i, which is w before.
inductive WorkerMove (plan : PoolPlan α ρ) (s : PoolState α ρ) (i : Nat) :
    Worker α ρ → PoolAction → PoolState α ρ → Prop where
  | take {n : Nat} {job : Job α} {rest : List (Job α)} (queued : s.jobs.items = job :: rest) :
      WorkerMove plan s i ⟨.waiting, n⟩ (.take i)
        { s.setWorker i ⟨.holding job, n⟩ with jobs := { s.jobs with items := rest } }
  | exit {n : Nat} (drained : s.jobs.items = []) (closed : s.jobs.producers = 0) :
      WorkerMove plan s i ⟨.waiting, n⟩ (.exit i) (s.letGo i ⟨.exited, n⟩)
  | skip {n : Nat} {job : Job α} (watched : plan.workersWatch = true) (cancelled : s.cancelled = true) :
      WorkerMove plan s i ⟨.holding job, n⟩ (.start i) (s.answer i ⟨.holding job, n⟩ job .cancelled)
  | start {n : Nat} {job : Job α} (unstopped : (plan.workersWatch && s.cancelled) = false) :
      WorkerMove plan s i ⟨.holding job, n⟩ (.start i) (s.setWorker i ⟨.running job, n⟩)
  | finish {n : Nat} {job : Job α} {outcome : Outcome ρ}
      (ended : (plan.transform job.payload).ending.outcome? = some outcome) :
      WorkerMove plan s i ⟨.running job, n⟩ (.finish i)
        ({ s with cancelled := s.cancelled || (plan.transform job.payload).cancels }.answer i ⟨.running job, n⟩ job
          outcome)
  | panic {n : Nat} {job : Job α} (ended : (plan.transform job.payload).ending = .panic) :
      WorkerMove plan s i ⟨.running job, n⟩ (.finish i)
        ({ s with cancelled := s.cancelled || (plan.transform job.payload).cancels }.letGo i ⟨.panicked job, n⟩)
  | give {n : Nat} {r : JobResult ρ} (heard : s.results.consumers ≠ 0)
      (room : s.results.items.length < s.results.capacity) :
      WorkerMove plan s i ⟨.offering r, n⟩ (.give i)
        { s.setWorker i ⟨.waiting, n⟩ with results := { s.results with items := s.results.items ++ [r] } }
  | refused {n : Nat} {r : JobResult ρ} (unheard : s.results.consumers = 0) :
      WorkerMove plan s i ⟨.offering r, n⟩ (.give i) (s.letGo i ⟨.refused r, n⟩)
  | pass {n : Nat} {r : JobResult ρ} (bufferless : s.results.capacity = 0) (drains : s.consumer = .draining) :
      WorkerMove plan s i ⟨.offering r, n⟩ (.passResult i)
        { s.setWorker i ⟨.waiting, n⟩ with taken := s.taken ++ [r] }

-- Facts on runs are proved rule by rule from here, and none of them opens the step function again.
inductive Move (plan : PoolPlan α ρ) (s : PoolState α ρ) : PoolAction → PoolState α ρ → Prop where
  | dispatcher {action : PoolAction} {t : PoolState α ρ} (move : DispatcherMove plan s action t) : Move plan s action t
  | worker {action : PoolAction} {t : PoolState α ρ} {i : Nat} {w : Worker α ρ} (found : s.workers[i]? = some w)
      (move : WorkerMove plan s i w action t) : Move plan s action t
  | join {w : Worker α ρ} (found : s.workers[s.joined]? = some w) (gone : w.isGone = true) :
      Move plan s .join { s with joined := s.joined + 1 }
  | release (joined : s.joined = s.workers.length) (unreleased : s.released = false) :
      Move plan s .release { s with released := true, results := s.results.dropProducer }
  | consume {r : JobResult ρ} {rest : List (JobResult ρ)} (drains : s.consumer = .draining)
      (queued : s.results.items = r :: rest) :
      Move plan s .consume { s with results := { s.results with items := rest }, taken := s.taken ++ [r] }
  | seeClose (drains : s.consumer = .draining) (drained : s.results.items = []) (closed : s.results.producers = 0) :
      Move plan s .seeClose { s with consumer := .finished }
  | leave (present : s.consumer = .draining ∨ s.consumer = .idle) :
      Move plan s .leave { s with consumer := .dropped, results := s.results.dropConsumer }
  | cancel (fresh : s.cancelled = false) : Move plan s .cancel { s with cancelled := true }

theorem move_complete (move : Move plan s action t) : s.step? plan action = some t := by
  cases move with
  | dispatcher move =>
    cases move with
    | enqueue offers heard room => simp [step?, stepDispatcher, offers, Queue.put, Queue.hasRoom, heard, room]
    | refused offers unheard => simp [step?, stepDispatcher, offers, Queue.put, unheard]
    | _ => simp_all [step?, stepDispatcher]
  | worker found move =>
    cases move with
    | take queued => simp [step?, found, stepWorker, Queue.take, queued]
    | exit drained closed => simp [step?, found, stepWorker, Queue.take, Queue.isClosed, drained, closed]
    | give heard room => simp [step?, found, stepWorker, Queue.put, Queue.hasRoom, heard, room]
    | refused unheard => simp [step?, found, stepWorker, Queue.put, unheard]
    | @finish n job outcome ended =>
      cases ending : (plan.transform job.payload).ending <;> simp_all [step?, stepWorker, Ending.outcome?]
    | _ => simp_all [step?, stepWorker]
  | consume drains queued => simp [step?, drains, Queue.take, queued]
  | seeClose drains drained closed => simp [step?, drains, Queue.take, Queue.isClosed, drained, closed]
  | _ => simp_all [step?]

theorem dispatcher_sound (stepped : s.stepDispatcher plan action = some t) : DispatcherMove plan s action t := by
  unfold stepDispatcher at stepped
  split at stepped
  · next asks =>
    dsimp only at stepped
    split at stepped
    · next pulled => cases stepped; exact .pullItem asks pulled
    · next pulled => cases stepped; exact .pullEnd asks pulled
    · next pulled => cases stepped; exact .pullPanic asks pulled
  · next holds =>
    split at stepped
    · next stopped =>
      cases stepped
      obtain ⟨watched, cancelled⟩ := Bool.and_eq_true_iff.mp stopped
      exact .stop holds watched cancelled
    · next unstopped => cases stepped; exact .offer holds (Bool.eq_false_iff.mpr unstopped)
  · next offers =>
    split at stepped
    · next accepted =>
      cases stepped
      obtain ⟨heard, room, rfl⟩ := Queue.put_eq_accepted.mp accepted
      exact .enqueue offers heard room
    · next refused => cases stepped; exact .refused offers (Queue.put_eq_refused.mp refused)
    · cases stepped
  · next offers =>
    split at stepped
    · next waits =>
      split at stepped
      · next bufferless => cases stepped; exact .pass offers waits bufferless
      · cases stepped
    · cases stepped
  · next closes => cases stepped; exact .close closes
  · cases stepped

theorem worker_sound (stepped : s.stepWorker plan action i w = some t) (own : action.worker? = some i) :
    WorkerMove plan s i w action t := by
  obtain ⟨phase, handled⟩ := w
  unfold stepWorker at stepped
  split at stepped
  · next waits =>
    cases waits; cases own
    split at stepped
    · next taken => cases stepped; obtain ⟨rest, queued, rfl⟩ := Queue.take_eq_item.mp taken; exact .take queued
    · cases stepped
  · next waits =>
    cases waits; cases own
    split at stepped
    · next closed =>
      cases stepped
      obtain ⟨drained, closed⟩ := Queue.take_eq_closed.mp closed
      exact .exit drained closed
    · cases stepped
  · next holds =>
    cases holds; cases own
    split at stepped
    · next stopped =>
      cases stepped
      obtain ⟨watched, cancelled⟩ := Bool.and_eq_true_iff.mp stopped
      exact .skip watched cancelled
    · next unstopped => cases stepped; exact .start (Bool.eq_false_iff.mpr unstopped)
  · next runs =>
    cases runs; cases own
    dsimp only at stepped
    split at stepped
    · next ended => cases stepped; exact .finish (by rw [ended]; rfl)
    · next ended => cases stepped; exact .finish (by rw [ended]; rfl)
    · next ended => cases stepped; exact .panic ended
  · next offers =>
    cases offers; cases own
    split at stepped
    · next accepted =>
      cases stepped
      obtain ⟨heard, room, rfl⟩ := Queue.put_eq_accepted.mp accepted
      exact .give heard room
    · next refused => cases stepped; exact .refused (Queue.put_eq_refused.mp refused)
    · cases stepped
  · next offers =>
    cases offers; cases own
    split at stepped
    · next free => cases stepped; exact .pass free.1 free.2
    · cases stepped
  · cases stepped

theorem move_sound (stepped : s.step? plan action = some t) : Move plan s action t := by
  cases action with
  | pull | check | enqueue | passJob | closeJobs => exact .dispatcher (dispatcher_sound stepped)
  | take i | start i | finish i | give i | passResult i | exit i =>
    obtain ⟨w, found, stepped⟩ := Option.bind_eq_some_iff.mp stepped
    exact .worker found (worker_sound stepped rfl)
  | join =>
    simp only [step?] at stepped
    split at stepped
    · next gone =>
      cases stepped
      obtain ⟨w, found, gone⟩ := (Option.any_eq_true ..).mp gone
      exact .join found gone
    · cases stepped
  | release =>
    simp only [step?] at stepped
    split at stepped
    · next free => cases stepped; exact .release free.1 free.2
    · cases stepped
  | consume =>
    simp only [step?] at stepped
    split at stepped
    · next drains =>
      split at stepped
      · next taken =>
        cases stepped
        obtain ⟨rest, queued, rfl⟩ := Queue.take_eq_item.mp taken
        exact .consume drains queued
      · cases stepped
    · cases stepped
  | seeClose =>
    simp only [step?] at stepped
    split at stepped
    · next drains =>
      split at stepped
      · next closed =>
        cases stepped
        obtain ⟨drained, closed⟩ := Queue.take_eq_closed.mp closed
        exact .seeClose drains drained closed
      · cases stepped
    · cases stepped
  | leave =>
    simp only [step?] at stepped
    split at stepped
    · next present => cases stepped; exact .leave present
    · cases stepped
  | cancel =>
    simp only [step?] at stepped
    split at stepped
    · cases stepped
    · next fresh => cases stepped; exact .cancel (Bool.eq_false_iff.mpr fresh)

theorem move_exact : s.step? plan action = some t ↔ Move plan s action t := ⟨move_sound, move_complete⟩

theorem move_size (move : Move plan s action t) : t.workers.length = s.workers.length := by
  cases move with
  | dispatcher move => cases move <;> simp [setWorker]
  | worker found move => cases move <;> simp [letGo, answer, setWorker]
  | _ => rfl

theorem move_capacities (move : Move plan s action t) :
    t.jobs.capacity = s.jobs.capacity ∧ t.results.capacity = s.results.capacity := by
  cases move with
  | dispatcher move => cases move <;> exact ⟨rfl, rfl⟩
  | worker found move => cases move <;> exact ⟨rfl, rfl⟩
  | _ => exact ⟨rfl, rfl⟩

-- What every move keeps, every run keeps.
theorem runs_keep {P : PoolState α ρ → Prop} {path : List PoolAction}
    (keeps : ∀ {s t action}, P s → Move plan s action t → P t) (run : Runs plan s path t) (first : P s) : P t := by
  induction run with
  | nil => exact first
  | cons step _ ih =>
    obtain ⟨stepped⟩ := step
    exact ih (keeps first (move_sound stepped))

-- What an observer notes along a path, action by action.
def noted {κ : Type} (plan : PoolPlan α ρ) (note : PoolState α ρ → PoolAction → List κ) :
    PoolState α ρ → List PoolAction → List κ
  | _, [] => []
  | s, action :: rest => match s.step? plan action with
    | some t => note s action ++ noted plan note t rest
    | none => []

-- Whatever holds of the notes of each move holds of those of a run.
theorem runs_note {κ : Type} {note : PoolState α ρ → PoolAction → List κ} {P : PoolState α ρ → Prop}
    {R : PoolState α ρ → List κ → PoolState α ρ → Prop} {path : List PoolAction} (still : ∀ s, R s [] s)
    (keeps : ∀ {s t action}, P s → Move plan s action t → P t)
    (moves : ∀ {s t u action notes}, P s → Move plan s action t → R t notes u → R s (note s action ++ notes) u)
    (run : Runs plan s path t) (first : P s) : R s (noted plan note s path) t := by
  induction run with
  | nil => exact still _
  | cons step _ ih =>
    obtain ⟨stepped⟩ := step
    have move := move_sound stepped
    rw [noted, stepped]
    exact moves first move (ih (keeps first move))

theorem runs_of_replay {path : List PoolAction}
    (replayed : path.foldlM (fun s action => s.step? plan action) s = some t) : Runs plan s path t := by
  induction path generalizing s with
  | nil => cases replayed; exact .nil
  | cons action rest ih =>
    obtain ⟨next, stepped, replayed⟩ := Option.bind_eq_some_iff.mp replayed
    exact .cons (.of stepped) (ih replayed)

end PoolState
end GuardedWork
