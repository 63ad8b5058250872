namespace GuardedWork

structure Job (α : Type) where
  id : Nat
  payload : α
deriving DecidableEq, Repr

-- An error with the contexts put around it, the outermost last. It reads as its outermost text.
structure Failure where
  cause : String
  contexts : List String
deriving DecidableEq, Repr

namespace Failure

def ofText (text : String) : Failure := ⟨text, []⟩

def within (context : String) (f : Failure) : Failure := { f with contexts := f.contexts ++ [context] }

def text (f : Failure) : String := f.contexts.getLast?.getD f.cause

end Failure

inductive OutcomeKind where
  | completed
  | failed
  | cancelled
deriving DecidableEq, Repr

def OutcomeKind.text : OutcomeKind → String
  | completed => "completed"
  | failed => "failed"
  | cancelled => "cancelled"

inductive Outcome (ρ : Type) where
  | completed (value : ρ)
  | failed (failure : Failure)
  | cancelled
deriving DecidableEq, Repr

namespace Outcome

variable {ρ : Type}

def kind : Outcome ρ → OutcomeKind
  | completed _ => .completed
  | failed _ => .failed
  | cancelled => .cancelled

def value? : Outcome ρ → Option ρ
  | completed v => some v
  | _ => none

def failure? : Outcome ρ → Option Failure
  | failed f => some f
  | _ => none

end Outcome

structure JobResult (ρ : Type) where
  jobId : Nat
  worker : Nat
  outcome : Outcome ρ
deriving DecidableEq, Repr

-- A cancelled job does not tell its worker.
def JobResult.message {ρ : Type} (render : ρ → String) (r : JobResult ρ) : String :=
  match r.outcome with
  | .completed v => "job " ++ toString r.jobId ++ " completed by worker " ++ toString r.worker ++ ": " ++ render v
  | .failed f => "job " ++ toString r.jobId ++ " failed on worker " ++ toString r.worker ++ ": " ++ f.text
  | .cancelled => "job " ++ toString r.jobId ++ " cancelled"

end GuardedWork
