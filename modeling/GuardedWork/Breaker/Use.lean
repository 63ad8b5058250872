import GuardedWork.Breaker.Call

namespace GuardedWork

-- One atomic step each. A call has the breaker to itself from enter to leave, but listeners come and go meanwhile.
inductive BreakerAction (ε α : Type) where
  -- a call begins, with the reading it takes if the breaker is open
  | enter (checked : UInt64)
  -- its operation ends, with the reading after it
  | leave (attempt : Attempt ε α) (finished : UInt64)
  | reset
  | listen (listeners : List Listener)
  | unlisten
  -- what each listener panics on from now on, by its place. An action calls none of them twice.
  | sway (panics : Nat → BreakerState → Bool)

def Attempt.answer {ε α : Type} : Attempt ε α → Answer ε α
  | returned v => .returned v
  | failed e => .refused (.failed e)
  | panicked => .panicked

namespace Breaker

variable {ε α : Type}

-- Before the time of a retry nothing happens but the rejection.
def enter (checked : UInt64) (b : Breaker) : Turned :=
  match b.memory.state with
  | .closed | .halfOpen => b.stay
  | .opened => if checked.toNat < b.retryAt then ⟨b, [.rejected], false⟩ else b.turn .halfOpen

def settle (attempt : Attempt ε α) (finished : UInt64) (b : Breaker) : Turned :=
  match attempt with
  | .returned _ => b.onSuccess
  | .failed _ => b.onFailure (some finished)
  | .panicked => b.stay

def swayed (panics : Nat → BreakerState → Bool) (b : Breaker) : Breaker :=
  { b with listeners := b.listeners.mapIdx fun i l => { l with panicsOn := panics i } }

def act (action : BreakerAction ε α) (b : Breaker) : Turned :=
  match action with
  | .enter checked => b.enter checked
  | .leave attempt finished => b.settle attempt finished
  | .reset => b.reset
  | .listen ls => (b.listen ls).stay
  | .unlisten => b.unlisten.stay
  | .sway panics => (b.swayed panics).stay

-- What a call is told that ends with the action; none while its operation has yet to end.
def answer? (action : BreakerAction ε α) (b : Breaker) : Option (Answer ε α) :=
  match action with
  | .enter checked =>
    if b.memory.state = .opened ∧ checked.toNat < b.retryAt then
      some (.refused (.rejected ⟨b.rule.name, b.retryAt - checked.toNat⟩))
    else if (b.enter checked).unwound then some .panicked
    else none
  | .leave attempt finished => some (if (b.settle attempt finished).unwound then .panicked else attempt.answer)
  | _ => none

end Breaker

structure BreakerUse where
  breaker : Breaker
  -- whether an operation runs, so that calls and resets have to wait
  running : Bool

-- An action with the breaker before it, and what came of it.
structure BreakerMoment (ε α : Type) where
  action : BreakerAction ε α
  before : Breaker
  turned : Turned
  answer : Option (Answer ε α)

namespace BreakerUse

variable {ε α : Type}

def start (b : Breaker) : BreakerUse := ⟨b, false⟩

def admits (s : BreakerUse) : BreakerAction ε α → Bool
  | .enter _ | .reset => !s.running
  | .leave _ _ => s.running
  | .listen _ | .unlisten | .sway _ => true

-- Whether an operation runs behind the action.
def runsOn (action : BreakerAction ε α) (s : BreakerUse) : Bool :=
  match action with
  | .enter _ => (s.breaker.answer? action).isNone
  | .leave _ _ | .reset => false
  | .listen _ | .unlisten | .sway _ => s.running

def step? (action : BreakerAction ε α) (s : BreakerUse) : Option (BreakerMoment ε α × BreakerUse) :=
  if s.admits action then
    let turned := s.breaker.act action
    some (⟨action, s.breaker, turned, s.breaker.answer? action⟩, ⟨turned.breaker, s.runsOn action⟩)
  else none

inductive Runs : BreakerUse → List (BreakerMoment ε α) → BreakerUse → Prop where
  | nil {s : BreakerUse} : Runs s [] s
  | cons {s t u : BreakerUse} {action : BreakerAction ε α} {m : BreakerMoment ε α} {rest : List (BreakerMoment ε α)} :
      s.step? action = some (m, t) → Runs t rest u → Runs s (m :: rest) u

-- The moments and the end of a list of actions, if each of them has its turn.
def replay? : List (BreakerAction ε α) → BreakerUse → Option (List (BreakerMoment ε α) × BreakerUse)
  | [], s => some ([], s)
  | action :: rest, s => do
    let (m, t) ← s.step? action
    let (moments, u) ← replay? rest t
    some (m :: moments, u)

end BreakerUse
end GuardedWork
