import GuardedWork.Breaker.State

namespace GuardedWork

structure BreakerOpen where
  name : String
  retryInMs : Nat
deriving DecidableEq, Repr

def BreakerOpen.message (o : BreakerOpen) : String :=
  "circuit breaker " ++ o.name ++ " is open, retry in " ++ toString o.retryInMs ++ " ms"

inductive CallError (ε : Type) where
  | rejected (opened : BreakerOpen)
  | failed (error : ε)
deriving DecidableEq, Repr

namespace CallError

variable {ε : Type}

def isRejected : CallError ε → Bool
  | rejected _ => true
  | failed _ => false

def isFailed (e : CallError ε) : Bool := !e.isRejected

def inner? : CallError ε → Option ε
  | rejected _ => none
  | failed e => some e

def message (render : ε → String) : CallError ε → String
  | rejected o => o.message
  | failed e => render e

-- The error itself and the one it stems from, which read the same.
def chain (render : ε → String) (e : CallError ε) : List String := [e.message render, e.message render]

end CallError

-- How the guarded operation ends.
inductive Attempt (ε α : Type) where
  | returned (value : α)
  | failed (error : ε)
  | panicked
deriving DecidableEq, Repr

inductive Answer (ε α : Type) where
  | returned (value : α)
  | refused (error : CallError ε)
  | panicked
deriving DecidableEq, Repr

def Answer.isRejected {ε α : Type} : Answer ε α → Bool
  | refused e => e.isRejected
  | _ => false

structure Called (ε α : Type) where
  breaker : Breaker
  signals : List Signal
  invoked : Bool
  answer : Answer ε α

namespace Breaker

variable {ε α : Type}

-- The first reading at which a call is let through again.
def retryAt (b : Breaker) : Nat := min (b.memory.lastFailureMs.toNat + b.rule.retryTimeoutMs.toNat) (UInt64.size - 1)

def onSuccess (b : Breaker) : Turned :=
  let b := { b with memory.failures := 0 }
  if b.memory.state = .halfOpen then b.turn .closed else b.stay

-- Without a reading the failure is counted, and nothing else happens.
def onFailure (reading : Option UInt64) (b : Breaker) : Turned :=
  let failures := min (b.memory.failures + 1) BreakerMemory.mostFailures
  let b := { b with memory.failures := failures }
  match reading with
  | none => { b.stay with unwound := true }
  | some lastFailureMs =>
    let b := { b with memory.lastFailureMs := lastFailureMs }
    match b.memory.state with
    | .halfOpen => b.turn .opened
    | .closed => if b.rule.threshold.toNat ≤ failures then b.turn .opened else b.stay
    | .opened => b.stay

-- The operation runs, and finished is the reading when it has ended.
def carryOut (attempt : Attempt ε α) (finished : Option UInt64) (b : Breaker) : Called ε α :=
  let settle (t : Turned) (answer : Answer ε α) : Called ε α :=
    ⟨t.breaker, t.signals, true, if t.unwound then .panicked else answer⟩
  match attempt with
  | .returned v => settle b.onSuccess (.returned v)
  | .failed e => settle (b.onFailure finished) (.refused (.failed e))
  | .panicked => settle b.stay .panicked

-- The clock is only read, as checked, while the breaker is open; where it has no reading then, the call panics.
-- A probe that panics leaves the breaker half open, and the next call is a probe.
def call (checked : Option UInt64) (attempt : Attempt ε α) (finished : Option UInt64) (b : Breaker) : Called ε α :=
  match b.memory.state with
  | .closed | .halfOpen => b.carryOut attempt finished
  | .opened =>
    match checked with
    | none => ⟨b, [], false, .panicked⟩
    | some now =>
      if now.toNat < b.retryAt then
        ⟨b, [.rejected], false, .refused (.rejected ⟨b.rule.name, b.retryAt - now.toNat⟩)⟩
      else
        let probe := b.turn .halfOpen
        if probe.unwound then ⟨probe.breaker, probe.signals, false, .panicked⟩
        else
          let called := probe.breaker.carryOut attempt finished
          { called with signals := probe.signals ++ called.signals }

-- Back to the start. If a listener panics, the failures stay recorded.
def reset (b : Breaker) : Turned :=
  let t := if b.memory.state = .closed then b.stay else b.turn .closed
  if t.unwound then t else { t with breaker := { t.breaker with memory := .initial } }

end Breaker
end GuardedWork
