import GuardedWork.Config.Procedure
import GuardedWork.Pool.Start

namespace GuardedWork

structure Batch where
  name : String
  workerCount : Nat
  -- of both queues
  queueCapacity : Nat
  -- whether the dispatcher and the workers look at the cancel token
  watched : Bool
deriving DecidableEq, Repr

structure BatchOutput (ρ : Type) where
  -- in the order of completion
  results : List (JobResult ρ)
  dispatched : Nat
  report : PoolReport
deriving DecidableEq, Repr

-- The results are drained first, then the dispatcher is joined, then the pool is waited for.
inductive CallerPhase (ρ : Type) where
  -- until the results are closed
  | draining
  | waiting (dispatched : Nat)
  | returned (result : Except WorkError (BatchOutput ρ))

structure BatchState (α ρ : Type) where
  pool : PoolState α ρ
  caller : CallerPhase ρ

inductive BatchAction where
  | work (action : PoolAction)
  | joinDispatcher
  | awaitPool
deriving DecidableEq, Repr

namespace Batch

variable {α ρ : Type}

def standardName : String := "batch"

-- Sizes come from the settings, which are looked at once for each.
def standard (name : String) : Procedure Batch := do
  let s ← Procedure.settings
  let t ← Procedure.settings
  pure ⟨name, s.sections.pool.workerCount.toNat, t.sections.pool.queueCapacity.toNat, false⟩

def pool (b : Batch) : WorkerPool := ⟨b.name, b.workerCount⟩

def assignment (b : Batch) (source : Source α) (transform : Transform α ρ) (cancelled : Bool) :
    Assignment α ρ where
  plan := ⟨source, transform, b.watched, b.watched⟩
  jobCapacity := b.queueCapacity
  resultCapacity := b.queueCapacity
  dispatchesWhileRunning := true
  consumer := .draining
  cancelled

def start (b : Batch) (a : Assignment α ρ) : Started (BatchState α ρ) :=
  if b.queueCapacity = 0 then ⟨.refused .noCapacity, []⟩
  else
    let s := b.pool.start a
    match s.start with
    | .refused e => ⟨.refused e, s.records⟩
    | .panicked => ⟨.panicked, s.records⟩
    | .waits => ⟨.waits, s.records⟩
    | .running state => ⟨.running ⟨state, .draining⟩, s.records⟩

end Batch

namespace BatchState

variable {α ρ : Type}

-- The caller takes results to the end. A dispatcher that failed ends the batch, whatever its results.
def step? (b : Batch) (plan : PoolPlan α ρ) (action : BatchAction) (s : BatchState α ρ) : Option (BatchState α ρ) :=
  match action, s.caller with
  | .work .leave, _ => none
  | .work action, _ => (s.pool.step? plan action).map fun pool => { s with pool }
  | .joinDispatcher, .draining =>
    if s.pool.consumer = .finished then
      match s.pool.dispatcher with
      | .closed (.done count) => some { s with caller := .waiting count }
      | .closed .refused => some { s with caller := .returned (.error .noConsumer) }
      | .closed .panicked => some { s with caller := .returned (.error (.dispatcherPanicked b.name)) }
      | _ => none
    else none
  | .awaitPool, .waiting count =>
    if s.pool.released then
      some { s with caller := .returned (.ok ⟨s.pool.taken, count, s.pool.report⟩) }
    else none
  | _, _ => none

inductive Runs (b : Batch) (plan : PoolPlan α ρ) : BatchState α ρ → List BatchAction → BatchState α ρ → Prop where
  | nil {s : BatchState α ρ} : Runs b plan s [] s
  | cons {s t u : BatchState α ρ} {action : BatchAction} {rest : List BatchAction} :
      s.step? b plan action = some t → Runs b plan t rest u → Runs b plan s (action :: rest) u

def attempt (b : Batch) (plan : PoolPlan α ρ) (action : BatchAction) (s : BatchState α ρ) : BatchState α ρ :=
  (s.step? b plan action).getD s

def awaitAll (b : Batch) (plan : PoolPlan α ρ) (s : BatchState α ρ) : BatchState α ρ :=
  (s.attempt b plan .joinDispatcher).attempt b plan .awaitPool

-- For a source that ends within the given number of payloads.
def finish (b : Batch) (plan : PoolPlan α ρ) (payloads : Nat) (s : BatchState α ρ) : BatchState α ρ :=
  awaitAll b plan { s with pool := s.pool.finish plan payloads }

-- A caller whose fold panics never comes to wait for the others, and has no summary.
def finishFolding {β : Type} (b : Batch) (plan : PoolPlan α ρ) (payloads : Nat) (f : β → ρ → Option β) (init : β)
    (s : BatchState α ρ) : BatchState α ρ × Option (Summary β) :=
  match s.pool.finishFolding plan payloads f init with
  | (pool, some summary) => (awaitAll b plan { s with pool }, some summary)
  | (pool, none) => ({ s with pool }, none)

def returned? (s : BatchState α ρ) : Option (Except WorkError (BatchOutput ρ)) :=
  match s.caller with
  | .returned r => some r
  | _ => none

end BatchState

namespace Batch

variable {α ρ : Type}

def panickedRecord (b : Batch) (panicked : Nat) : LogRecord :=
  ⟨.warn, "[Batch] " ++ toString panicked ++ " of " ++ toString b.workerCount ++ " workers panicked in batch " ++
    b.name ++ ", their jobs have no result"⟩

-- Lost jobs are told only of a batch that succeeds.
def records (b : Batch) : Except WorkError (BatchOutput ρ) → List LogRecord
  | .ok o => if 0 < o.report.panicked then [b.panickedRecord o.report.panicked] else []
  | .error _ => []

end Batch

def BatchOutput.summary {ρ β : Type} (f : β → ρ → β) (init : β) (o : BatchOutput ρ) : Summary β :=
  Summary.ofResults f init o.results

end GuardedWork
