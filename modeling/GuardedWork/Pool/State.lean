import GuardedWork.Dispatcher
import GuardedWork.Summary
import GuardedWork.Transform

namespace GuardedWork

structure PoolPlan (α ρ : Type) where
  source : Source α
  transform : Transform α ρ
  -- who looks at the cancel token
  dispatcherWatches : Bool
  workersWatch : Bool

inductive DispatcherPhase (α : Type) where
  | asking
  -- with a payload, before the look at the token
  | holding (payload : α)
  -- before the put, which waits while the queue is full
  | offering (payload : α)
  | closing (ending : DispatchEnd)
  | closed (ending : DispatchEnd)
deriving DecidableEq, Repr

inductive WorkerPhase (α ρ : Type) where
  | waiting
  -- with a job, before the look at the token
  | holding (job : Job α)
  | running (job : Job α)
  | offering (result : JobResult ρ)
  -- has seen the close of the jobs
  | exited
  -- when nobody could take this result any more
  | refused (result : JobResult ρ)
  -- while it ran this job, which has no result
  | panicked (job : Job α)
deriving DecidableEq, Repr

structure Worker (α ρ : Type) where
  phase : WorkerPhase α ρ
  handled : Nat
deriving DecidableEq, Repr

inductive ConsumerPhase where
  | draining
  -- alive, but takes nothing
  | idle
  | dropped
  -- has seen the close
  | finished
deriving DecidableEq, Repr

structure PoolState (α ρ : Type) where
  -- how many payloads were asked for and given
  pulled : Nat
  dispatched : Nat
  dispatcher : DispatcherPhase α
  jobs : Queue (Job α)
  workers : List (Worker α ρ)
  results : Queue (JobResult ρ)
  -- how many workers are joined, in their order, and whether the result queue was then released
  joined : Nat
  released : Bool
  consumer : ConsumerPhase
  taken : List (JobResult ρ)
  cancelled : Bool
  -- counts of handled jobs, the latest first
  counted : List OutcomeKind
deriving DecidableEq, Repr

-- One step of one actor, or a handover between two where a queue has no buffer; any order of enabled actions is a run.
inductive PoolAction where
  | pull
  | check
  | enqueue
  -- a job straight to a worker
  | passJob (worker : Nat)
  | closeJobs
  | take (worker : Nat)
  | start (worker : Nat)
  | finish (worker : Nat)
  | give (worker : Nat)
  -- a result straight to the consumer
  | passResult (worker : Nat)
  | exit (worker : Nat)
  | join
  | release
  | consume
  | seeClose
  -- the consumer drops its handle before the close
  | leave
  -- from outside, at any moment
  | cancel
deriving DecidableEq, Repr

def Worker.idle {α ρ : Type} : Worker α ρ := ⟨.waiting, 0⟩

def Worker.isGone {α ρ : Type} (w : Worker α ρ) : Bool :=
  match w.phase with
  | .exited | .refused _ | .panicked _ => true
  | _ => false

def Worker.hasPanicked {α ρ : Type} (w : Worker α ρ) : Bool := w.phase matches .panicked _

namespace PoolState

variable {α ρ : Type}

-- As a pool starts on these jobs: each worker holds both queues, the coordinator holds the results.
-- The dispatcher is in the given phase, and its producer with it.
def start (size : Nat) (dispatcher : DispatcherPhase α) (dispatched : Nat) (jobs : Queue (Job α))
    (resultCapacity : Nat) (consumer : ConsumerPhase) (cancelled : Bool) : PoolState α ρ where
  pulled := dispatched
  dispatched
  dispatcher
  jobs := { jobs with consumers := size }
  workers := List.replicate size .idle
  results := ⟨resultCapacity, [], size + 1, if consumer = .dropped then 0 else 1⟩
  joined := 0
  released := false
  consumer
  taken := []
  cancelled
  counted := []

def setWorker (i : Nat) (w : Worker α ρ) (s : PoolState α ρ) : PoolState α ρ :=
  { s with workers := s.workers.set i w }

-- A worker that leaves gives up both its handles.
def letGo (i : Nat) (w : Worker α ρ) (s : PoolState α ρ) : PoolState α ρ :=
  { s.setWorker i w with jobs := s.jobs.dropConsumer, results := s.results.dropProducer }

def answer (i : Nat) (w : Worker α ρ) (job : Job α) (outcome : Outcome ρ) (s : PoolState α ρ) : PoolState α ρ :=
  { s.setWorker i ⟨.offering ⟨job.id, i, outcome⟩, w.handled + 1⟩ with counted := outcome.kind :: s.counted }

def stepDispatcher (plan : PoolPlan α ρ) (action : PoolAction) (s : PoolState α ρ) : Option (PoolState α ρ) :=
  match action, s.dispatcher with
  | .pull, .asking =>
    let pull := plan.source s.pulled
    let s := { s with cancelled := s.cancelled || pull.cancels }
    match pull.pulled with
    | .item a => some { s with dispatcher := .holding a, pulled := s.pulled + 1 }
    | .ended => some { s with dispatcher := .closing (.done s.dispatched) }
    | .panicked => some { s with dispatcher := .closed .panicked, jobs := s.jobs.dropProducer }
  | .check, .holding a =>
    if plan.dispatcherWatches && s.cancelled then some { s with dispatcher := .closing (.done s.dispatched) }
    else some { s with dispatcher := .offering a }
  | .enqueue, .offering a =>
    match s.jobs.put ⟨s.dispatched + 1, a⟩ with
    | .accepted q => some { s with dispatcher := .asking, jobs := q, dispatched := s.dispatched + 1 }
    | .refused => some { s with dispatcher := .closing .refused }
    | .blocks => none
  | .passJob i, .offering a =>
    match s.workers[i]? with
    | some ⟨.waiting, n⟩ =>
      if s.jobs.capacity = 0 then
        some { s.setWorker i ⟨.holding ⟨s.dispatched + 1, a⟩, n⟩ with
          dispatcher := .asking, dispatched := s.dispatched + 1 }
      else none
    | _ => none
  | .closeJobs, .closing ending => some { s with dispatcher := .closed ending, jobs := s.jobs.dropProducer }
  | _, _ => none

def stepWorker (plan : PoolPlan α ρ) (action : PoolAction) (i : Nat) (w : Worker α ρ) (s : PoolState α ρ) :
    Option (PoolState α ρ) :=
  match action, w.phase with
  | .take _, .waiting =>
    match s.jobs.take with
    | .item job q => some { s.setWorker i ⟨.holding job, w.handled⟩ with jobs := q }
    | _ => none
  | .exit _, .waiting =>
    match s.jobs.take with
    | .closed => some (s.letGo i ⟨.exited, w.handled⟩)
    | _ => none
  | .start _, .holding job =>
    if plan.workersWatch && s.cancelled then some (s.answer i w job .cancelled)
    else some (s.setWorker i ⟨.running job, w.handled⟩)
  | .finish _, .running job =>
    let t := plan.transform job.payload
    let s := { s with cancelled := s.cancelled || t.cancels }
    match t.ending with
    | .value v => some (s.answer i w job (.completed v))
    | .failure f => some (s.answer i w job (.failed f))
    | .panic => some (s.letGo i ⟨.panicked job, w.handled⟩)
  | .give _, .offering r =>
    -- A result that nobody can take any more is lost, and its worker leaves.
    match s.results.put r with
    | .accepted q => some { s.setWorker i ⟨.waiting, w.handled⟩ with results := q }
    | .refused => some (s.letGo i ⟨.refused r, w.handled⟩)
    | .blocks => none
  | .passResult _, .offering r =>
    if s.results.capacity = 0 ∧ s.consumer = .draining then
      some { s.setWorker i ⟨.waiting, w.handled⟩ with taken := s.taken ++ [r] }
    else none
  | _, _ => none

def step? (plan : PoolPlan α ρ) (action : PoolAction) (s : PoolState α ρ) : Option (PoolState α ρ) :=
  match action with
  | .pull | .check | .enqueue | .passJob _ | .closeJobs => s.stepDispatcher plan action
  | .take i | .start i | .finish i | .give i | .passResult i | .exit i =>
    s.workers[i]?.bind fun w => s.stepWorker plan action i w
  | .join =>
    if s.workers[s.joined]?.any Worker.isGone then some { s with joined := s.joined + 1 } else none
  | .release =>
    if s.joined = s.workers.length ∧ s.released = false then
      some { s with released := true, results := s.results.dropProducer }
    else none
  | .consume =>
    if s.consumer = .draining then
      match s.results.take with
      | .item r q => some { s with results := q, taken := s.taken ++ [r] }
      | _ => none
    else none
  | .seeClose =>
    if s.consumer = .draining then
      match s.results.take with
      | .closed => some { s with consumer := .finished }
      | _ => none
    else none
  | .leave =>
    if s.consumer = .draining ∨ s.consumer = .idle then
      some { s with consumer := .dropped, results := s.results.dropConsumer }
    else none
  | .cancel => if s.cancelled then none else some { s with cancelled := true }

def report (s : PoolState α ρ) : PoolReport where
  handled := s.workers.map fun w => if w.hasPanicked then 0 else w.handled
  panicked := s.workers.countP Worker.hasPanicked

def dispatcherDone (s : PoolState α ρ) : Bool := s.dispatcher matches .closed _

end PoolState
end GuardedWork
