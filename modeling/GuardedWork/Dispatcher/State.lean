import GuardedWork.Dispatcher

namespace GuardedWork

-- Within a call, the count is of the payloads put by it; the next one is asked for at that place.
inductive DispatchStage (α : Type) where
  -- between calls; how the last one ended
  | idle (last : Option DispatchEnd)
  | asking (source : Source α) (count : Nat)
  -- with a payload, before the look at the token
  | holding (source : Source α) (count : Nat) (payload : α)
  -- before the put, which waits while the queue is full
  | offering (source : Source α) (count : Nat) (payload : α)

structure DispatcherState (α : Type) where
  dispatcher : Dispatcher α
  stage : DispatchStage α
  -- by all the consumers, in this order
  taken : List (Job α)
  records : List LogRecord

-- One atomic step each, in the middle of a call or between two.
inductive DispatcherAction (α : Type) where
  | call (source : Source α)
  | pull
  | check
  | put
  -- a job straight to a consumer
  | handOver
  | take
  | cloneConsumer
  | dropConsumer
  | cancel

namespace DispatcherAction

variable {α : Type}

def callCount (count : Nat) : DispatcherAction Int := call (countSource count)

def isCall : DispatcherAction α → Bool
  | call _ => true
  | _ => false

end DispatcherAction

namespace DispatcherState

variable {α : Type}

def start (capacity : Nat) (attached cancelled : Bool) : DispatcherState α :=
  ⟨.ofQueue (.bounded capacity) attached cancelled, .idle none, [], []⟩

def setJobs (jobs : Queue (Job α)) (s : DispatcherState α) : DispatcherState α :=
  { s with dispatcher := s.dispatcher.setQueue jobs }

def stepDispatch (action : DispatcherAction α) (s : DispatcherState α) : Option (DispatcherState α) :=
  let d := s.dispatcher
  match action, s.stage with
  | .call source, .idle _ => some { s with stage := .asking source 0 }
  | .pull, .asking source count =>
    let pull := source count
    let s := { s with dispatcher := { d with cancelled := d.cancelled || pull.cancels } }
    match pull.pulled with
    | .item a => some { s with stage := .holding source count a }
    | .ended => some { s with stage := .idle (some (.done count)) }
    | .panicked => some { s with stage := .idle (some .panicked) }
  | .check, .holding source count a =>
    if d.attached && d.cancelled then
      let records := s.records ++ [Dispatcher.cancelledRecord d.dispatched]
      some { s with stage := .idle (some (.done count)), records }
    else some { s with stage := .offering source count a }
  | .put, .offering source count a =>
    match d.jobs.put ⟨d.dispatched + 1, a⟩ with
    | .accepted q =>
      some { s with stage := .asking source (count + 1), dispatcher := { d with jobs := q, dispatched := d.dispatched + 1 } }
    | .refused => some { s with stage := .idle (some .refused) }
    | .blocks => none
  | .handOver, .offering source count a =>
    if d.jobs.capacity = 0 ∧ d.jobs.consumers ≠ 0 then
      some { s with
        stage := .asking source (count + 1), dispatcher := { d with dispatched := d.dispatched + 1 }
        taken := s.taken ++ [⟨d.dispatched + 1, a⟩] }
    else none
  | _, _ => none

def step? (action : DispatcherAction α) (s : DispatcherState α) : Option (DispatcherState α) :=
  let jobs := s.dispatcher.jobs
  match action with
  | .call _ | .pull | .check | .put | .handOver => s.stepDispatch action
  | .take =>
    if jobs.consumers = 0 then none
    else match jobs.take with
    | .item job q => some { s.setJobs q with taken := s.taken ++ [job] }
    | _ => none
  | .cloneConsumer =>
    if jobs.consumers = 0 then none else some (s.setJobs { jobs with consumers := jobs.consumers + 1 })
  | .dropConsumer => if jobs.consumers = 0 then none else some (s.setJobs jobs.dropConsumer)
  | .cancel => some { s with dispatcher := s.dispatcher.cancel }

inductive Runs : DispatcherState α → List (DispatcherAction α) → DispatcherState α → Prop where
  | nil {s : DispatcherState α} : Runs s [] s
  | cons {s t u : DispatcherState α} {action : DispatcherAction α} {rest : List (DispatcherAction α)} :
      s.step? action = some t → Runs t rest u → Runs s (action :: rest) u

end DispatcherState
end GuardedWork
