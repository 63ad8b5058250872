import GuardedWork.Job
import GuardedWork.Queue.Basic
import GuardedWork.Source
import GuardedWork.Telemetry

namespace GuardedWork

structure Dispatcher (α : Type) where
  jobs : Queue (Job α)
  dispatched : Nat
  -- whether the token is watched, and its state
  attached : Bool
  cancelled : Bool

inductive DispatchEnd where
  | done (count : Nat)
  | refused
  | panicked
deriving DecidableEq, Repr

structure Dispatched (α : Type) where
  ending : DispatchEnd
  dispatcher : Dispatcher α
  records : List LogRecord

namespace Dispatcher

variable {α : Type}

def ofQueue (jobs : Queue (Job α)) (attached cancelled : Bool) : Dispatcher α := ⟨jobs, 0, attached, cancelled⟩

def cancelledRecord (dispatched : Nat) : LogRecord :=
  ⟨.info, "[Dispatcher] Batch cancelled, stop dispatching after " ++ toString dispatched ++ " jobs"⟩

def closingRecord (dispatched : Nat) : LogRecord :=
  ⟨.debug, "[Dispatcher] Closing job queue after " ++ toString dispatched ++ " jobs"⟩

-- none if a put would wait. Each round but the last puts a job, so the room bounds the rounds.
def dispatchFrom (source : Source α) : Nat → Nat → Dispatcher α → Option (Dispatched α)
  | 0, _, _ => none
  | fuel + 1, place, d =>
    let pull := source place
    let d := { d with cancelled := d.cancelled || pull.cancels }
    match pull.pulled with
    | .ended => some ⟨.done place, d, []⟩
    | .panicked => some ⟨.panicked, d, []⟩
    | .item a =>
      if d.attached && d.cancelled then some ⟨.done place, d, [cancelledRecord d.dispatched]⟩
      else
        match d.jobs.put ⟨d.dispatched + 1, a⟩ with
        | .accepted q => dispatchFrom source fuel (place + 1) { d with jobs := q, dispatched := d.dispatched + 1 }
        | .refused => some ⟨.refused, d, []⟩
        | .blocks => none

def dispatch (source : Source α) (d : Dispatcher α) : Option (Dispatched α) :=
  dispatchFrom source (d.jobs.capacity - d.jobs.items.length + 1) 0 d

def setQueue (jobs : Queue (Job α)) (d : Dispatcher α) : Dispatcher α := { d with jobs }
def cancel (d : Dispatcher α) : Dispatcher α := { d with cancelled := true }

end Dispatcher

-- A count of 64 bits is taken as signed, so the upper half of the counts asks for nothing.
def signedCount (count : Nat) : Int := if count < UInt64.size / 2 then count else count - UInt64.size

def countSource (count : Nat) : Source Int := Source.upTo (signedCount count)

end GuardedWork
