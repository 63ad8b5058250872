import GuardedWork.Job

namespace GuardedWork

namespace Word

def least : Int := -9223372036854775808
def most : Int := 9223372036854775807

def clamp (n : Int) : Int := max least (min most n)

-- Stops at the bounds.
def saturatingAdd (a b : Int) : Int := clamp (a + b)

end Word

structure Summary (β : Type) where
  value : β
  completed : Nat
  cancelled : Nat
  -- by job, in the order of arrival
  failures : List (Nat × Failure)
deriving DecidableEq, Repr

namespace Summary

variable {β ρ : Type}

def start (init : β) : Summary β := ⟨init, 0, 0, []⟩

def add (f : β → ρ → β) (s : Summary β) (r : JobResult ρ) : Summary β :=
  match r.outcome with
  | .completed v => { s with value := f s.value v, completed := s.completed + 1 }
  | .failed e => { s with failures := s.failures ++ [(r.jobId, e)] }
  | .cancelled => { s with cancelled := s.cancelled + 1 }

def ofResults (f : β → ρ → β) (init : β) (results : List (JobResult ρ)) : Summary β := results.foldl (add f) (start init)

-- For a fold that may panic, which is none.
def add? (f : β → ρ → Option β) (s : Summary β) (r : JobResult ρ) : Option (Summary β) :=
  match r.outcome with
  | .completed v => (f s.value v).map fun value => { s with value, completed := s.completed + 1 }
  | .failed e => some { s with failures := s.failures ++ [(r.jobId, e)] }
  | .cancelled => some { s with cancelled := s.cancelled + 1 }

def ofResults? (f : β → ρ → Option β) (init : β) (results : List (JobResult ρ)) : Option (Summary β) :=
  results.foldlM (add? f) (start init)

def failed (s : Summary β) : Nat := s.failures.length

-- none where 64 bits do not hold the sum.
def total? (s : Summary β) : Option Nat :=
  let n := s.completed + s.cancelled + s.failed
  if n < UInt64.size then some n else none

end Summary

-- What a pool did: the jobs taken by each worker, zero for one that panicked.
structure PoolReport where
  handled : List Nat
  panicked : Nat
deriving DecidableEq, Repr

namespace PoolReport

def empty : PoolReport := ⟨[], 0⟩

def handledInAll (r : PoolReport) : Nat := r.handled.foldr (· + ·) 0

def total? (r : PoolReport) : Option Nat :=
  if r.handledInAll < UInt64.size then some r.handledInAll else none

end PoolReport
end GuardedWork
