import GuardedWork.Breaker.Rule
import GuardedWork.Telemetry

namespace GuardedWork

inductive BreakerState where
  | closed
  | halfOpen
  | opened
deriving DecidableEq, Repr

def BreakerState.text : BreakerState → String
  | closed => "Closed"
  | halfOpen => "HalfOpen"
  | opened => "Open"

structure Notification where
  source : BreakerState
  target : BreakerState
  rule : Rule
  -- only told when the breaker opens
  failures : Option Nat
deriving DecidableEq, Repr

structure Listener where
  tag : String
  panicsOn : BreakerState → Bool

-- What a breaker makes known, in order.
inductive Signal where
  | changed (source target : BreakerState) (failures : Nat)
  | notified (tag : String) (notification : Notification)
  | counted (source target : BreakerState)
  | rejected
deriving DecidableEq, Repr

-- Failures in a row, and the reading at the last of them, zero before the first.
structure BreakerMemory where
  state : BreakerState
  failures : Nat
  lastFailureMs : UInt64
deriving DecidableEq, Repr

def BreakerMemory.initial : BreakerMemory := ⟨.closed, 0, 0⟩

def BreakerMemory.mostFailures : Nat := UInt32.size - 1

structure Breaker where
  rule : Rule
  memory : BreakerMemory
  listeners : List Listener

-- A breaker behind a call or a part of one, and whether a panic ended it there.
structure Turned where
  breaker : Breaker
  signals : List Signal
  unwound : Bool

namespace Breaker

def ofRule (r : Rule) : Except RuleError Breaker := r.check.map fun _ => ⟨r, .initial, []⟩

-- The listeners up to the first that panics, and whether one does.
def notify (n : Notification) : List Listener → List Signal × Bool
  | [] => ([], false)
  | l :: ls =>
    if l.panicsOn n.target then ([.notified l.tag n], true)
    else
      let (signals, unwound) := notify n ls
      (.notified l.tag n :: signals, unwound)

-- The change stands even where a listener panics, but nothing that would have followed happens.
def turn (target : BreakerState) (b : Breaker) : Turned :=
  let source := b.memory.state
  let told := if target = .opened then some b.memory.failures else none
  let (signals, unwound) := notify ⟨source, target, b.rule, told⟩ b.listeners
  let after := if unwound then [] else [Signal.counted source target]
  ⟨{ b with memory.state := target }, .changed source target b.memory.failures :: signals ++ after, unwound⟩

def stay (b : Breaker) : Turned := ⟨b, [], false⟩

def listen (ls : List Listener) (b : Breaker) : Breaker := { b with listeners := b.listeners ++ ls }
def unlisten (b : Breaker) : Breaker := { b with listeners := [] }

def shown (b : Breaker) : String :=
  "CircuitBreaker \x7b rule: " ++ b.rule.shown ++ ", inner: BreakerState \x7b state: " ++ b.memory.state.text ++
    ", failures: " ++ toString b.memory.failures ++ ", last_failure_ms: " ++
    toString b.memory.lastFailureMs.toNat ++ " \x7d \x7d"

-- What the signals of a breaker of this name leave in the log and the counters.
def telemetry (name : String) (signals : List Signal) : Telemetry where
  records := signals.filterMap fun
    | .changed source target failures =>
      some ⟨.debug, "[CircuitBreaker] Breaker " ++ name ++ " transformed from " ++ source.text ++ " to " ++
        target.text ++ ", failures " ++ toString failures⟩
    | _ => none
  counts := signals.filterMap fun
    | .counted source target => some (.stateChanged name source.text target.text)
    | .rejected => some (.callRejected name)
    | _ => none

end Breaker
end GuardedWork
