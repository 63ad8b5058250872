import GuardedWork.Config.Request

namespace GuardedWork

inductive Side where
  | left
  | right
deriving DecidableEq, Repr

def Side.other : Side → Side
  | left => right
  | right => left

inductive LockUse where
  | read
  | write
deriving DecidableEq, Repr

-- The use that the next step makes of the lock.
def Procedure.lockUse? {α : Type} : Procedure α → Option LockUse
  | readSettings _ => some .read
  | writeSettings _ _ => some .write
  | _ => none

structure CallPair (α : Type) where
  on : Side → Procedure α
  shared : Shared

namespace CallPair

variable {α : Type}

def step? (side : Side) (c : CallPair α) : Option (CallPair α × List (Side × LockUse)) :=
  ((c.on side).step? c.shared).map fun (p, w, _) =>
    (⟨fun s => if s = side then p else c.on s, w⟩, ((c.on side).lockUse?.map fun use => (side, use)).toList)

inductive Runs : CallPair α → List (Side × LockUse) → CallPair α → Prop where
  | nil {c : CallPair α} : Runs c [] c
  | cons {c d e : CallPair α} {side : Side} {now later : List (Side × LockUse)} :
      c.step? side = some (d, now) → Runs d later e → Runs c (now ++ later) e

-- No side has a step left.
def Ended (c : CallPair α) : Prop := ∀ side, c.step? side = none

-- The uses and the end of a schedule, if each side has a step when it is its turn.
def replay? : List Side → CallPair α → Option (List (Side × LockUse) × CallPair α)
  | [], c => some ([], c)
  | side :: sides, c => do
    let (d, now) ← c.step? side
    let (later, e) ← replay? sides d
    some (now ++ later, e)

end CallPair

def SetupRequest.together (around : Surroundings) (serving : Setup.Serving) (requests : Side → SetupRequest) (w : Shared) :
    CallPair (Except SetupError Unit) :=
  ⟨fun side => ((requests side).call around serving).run, w⟩

end GuardedWork
