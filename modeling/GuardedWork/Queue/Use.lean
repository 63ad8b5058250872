import GuardedWork.Queue.Shared

namespace GuardedWork

inductive TakeWay where
  | take
  | tryTake
  | takeInTime
  | iterate
  | drain
deriving DecidableEq, Repr

-- A command that has to wait is no step: it becomes one when it need not wait any more.
inductive QueueUse (α : Type) where
  | alone (command : QueueCommand α)
  -- without a buffer: straight from a producer to a consumer, whichever way this one takes
  | handOver (producer consumer : Nat) (way : TakeWay) (item : α)

abbrev QueueLog (α : Type) := List (QueueUse α × QueueAnswer α)

def TakeWay.given {α : Type} (a : α) : TakeWay → QueueAnswer α
  | take | tryTake | takeInTime => .item a
  | iterate | drain => .items [a]

-- The items that came to whoever is told this.
def QueueAnswer.taken {α : Type} : QueueAnswer α → List α
  | .item a => [a]
  | .items values => values
  | .transferred got _ => got
  | _ => []

-- The items that the queue has accepted by it.
def QueueUse.accepted {α : Type} : QueueUse α → QueueAnswer α → List α
  | .alone (.put _ a), .done => [a]
  | .alone (.transfer _ _ items _), .transferred _ _ => items
  | .handOver _ _ _ a, _ => [a]
  | _, _ => []

namespace QueueLog

variable {α : Type}

def taken (log : QueueLog α) : List α := log.flatMap fun entry => entry.2.taken
def accepted (log : QueueLog α) : List α := log.flatMap fun entry => entry.1.accepted entry.2

end QueueLog

namespace SharedQueue

variable {α : Type}

def use? (use : QueueUse α) (s : SharedQueue α) : Option (QueueAnswer α × SharedQueue α) :=
  match use with
  | .alone command =>
    match step command s with
    | (.noHandle, _) | (.wouldBlock, _) => none
    | made => some made
  | .handOver p c way a =>
    if holds s.producers p && holds s.consumers c && s.capacity == 0 then some (way.given a, s) else none

inductive Runs : SharedQueue α → QueueLog α → SharedQueue α → Prop where
  | nil {s : SharedQueue α} : Runs s [] s
  | cons {s t u : SharedQueue α} {use : QueueUse α} {answer : QueueAnswer α} {rest : QueueLog α} :
      s.use? use = some (answer, t) → Runs t rest u → Runs s ((use, answer) :: rest) u

-- The log and the end of a list of uses, if each of them can be made in its turn.
def replay? : List (QueueUse α) → SharedQueue α → Option (QueueLog α × SharedQueue α)
  | [], s => some ([], s)
  | use :: rest, s => do
    let (answer, t) ← s.use? use
    let (log, u) ← replay? rest t
    some ((use, answer) :: log, u)

end SharedQueue
end GuardedWork
