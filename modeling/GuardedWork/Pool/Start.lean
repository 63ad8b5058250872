import GuardedWork.Pool.Run

namespace GuardedWork

inductive WorkError where
  | noWorker
  | noCapacity
  | noConsumer
  | dispatcherPanicked (batch : String)
deriving DecidableEq, Repr

def WorkError.message : WorkError → String
  | noWorker => "worker pool needs at least one worker"
  | noCapacity => "batch queue capacity must be at least 1"
  | noConsumer => Queue.refusedMessage
  | dispatcherPanicked batch => "dispatcher of batch " ++ batch ++ " panicked"

-- Before it runs.
structure WorkerPool where
  name : String
  size : Nat
deriving DecidableEq, Repr

-- How a start goes: refused, with a panic, not at all because a put waits for ever, or well.
inductive Start (σ : Type) where
  | refused (error : WorkError)
  | panicked
  | waits
  | running (state : σ)

structure Started (σ : Type) where
  start : Start σ
  records : List LogRecord

-- What a pool is to do, and around which queues.
structure Assignment (α ρ : Type) where
  plan : PoolPlan α ρ
  jobCapacity : Nat
  resultCapacity : Nat
  dispatchesWhileRunning : Bool
  consumer : ConsumerPhase
  cancelled : Bool

def Assignment.queuesCanBeMade {α ρ : Type} (a : Assignment α ρ) : Bool :=
  Queue.canBeMade a.jobCapacity && Queue.canBeMade a.resultCapacity

namespace WorkerPool

variable {α ρ : Type}

def check (p : WorkerPool) : Except WorkError Unit := if p.size = 0 then .error .noWorker else .ok ()

-- More handles than this cannot be laid out.
def mostWorkers : Nat := (UInt64.size / 2 - 1) / 24

-- The name of a thread holds no NUL.
def canStart (p : WorkerPool) : Bool := !p.name.toList.contains '\x00' && p.size ≤ mostWorkers

def startedRecord (p : WorkerPool) : LogRecord :=
  ⟨.info, "[WorkerPool] Pool " ++ p.name ++ " started with " ++ toString p.size ++ " workers"⟩

-- The handled jobs are counted under the name of the pool.
def counts (p : WorkerPool) (s : PoolState α ρ) : List Count :=
  s.counted.reverse.map fun kind => .jobHandled p.name kind.text

-- The jobs are there, and their queue is closed, before the first worker.
def startFilled (p : WorkerPool) (a : Assignment α ρ) : Started (PoolState α ρ) :=
  let dispatcher := Dispatcher.ofQueue (.bounded a.jobCapacity) a.plan.dispatcherWatches a.cancelled
  match dispatcher.dispatch a.plan.source with
  | none => ⟨.waits, []⟩
  | some d =>
    let count := d.dispatcher.dispatched
    let records := d.records ++ [Dispatcher.closingRecord count]
    if p.canStart then
      let state := .start p.size (.closed d.ending) count d.dispatcher.jobs.dropProducer a.resultCapacity a.consumer
        d.dispatcher.cancelled
      ⟨.running state, records ++ [p.startedRecord]⟩
    else ⟨.panicked, records⟩

def startEmpty (p : WorkerPool) (a : Assignment α ρ) : Started (PoolState α ρ) :=
  if p.canStart then
    let state := .start p.size .asking 0 (.bounded a.jobCapacity) a.resultCapacity a.consumer a.cancelled
    ⟨.running state, [p.startedRecord]⟩
  else ⟨.panicked, []⟩

def start (p : WorkerPool) (a : Assignment α ρ) : Started (PoolState α ρ) :=
  match p.check with
  | .error e => ⟨.refused e, []⟩
  | .ok () =>
    if !a.queuesCanBeMade then ⟨.panicked, []⟩
    else if a.dispatchesWhileRunning then p.startEmpty a
    else p.startFilled a

end WorkerPool

namespace PoolState

variable {α ρ : Type}

-- What the dispatcher gives back once it has closed its queue; none before, or if it panicked.
def dispatched? (s : PoolState α ρ) : Option (Except WorkError Nat) :=
  match s.dispatcher with
  | .closed (.done n) => some (.ok n)
  | .closed .refused => some (.error .noConsumer)
  | _ => none

end PoolState
end GuardedWork
