namespace GuardedWork

inductive Pulled (α : Type) where
  | item (payload : α)
  | ended
  | panicked
deriving DecidableEq, Repr

structure Pull (α : Type) where
  pulled : Pulled α
  cancels : Bool
deriving DecidableEq, Repr

-- By places, and it need not end.
abbrev Source (α : Type) := Nat → Pull α

namespace Source

variable {α : Type}

def map {β : Type} (f : α → β) (s : Source α) : Source β := fun i =>
  match s i with
  | ⟨.item a, cancels⟩ => ⟨.item (f a), cancels⟩
  | ⟨.ended, cancels⟩ => ⟨.ended, cancels⟩
  | ⟨.panicked, cancels⟩ => ⟨.panicked, cancels⟩

def ofList (items : List α) : Source α := fun i =>
  match items[i]? with
  | some a => ⟨.item a, false⟩
  | none => ⟨.ended, false⟩

-- The whole numbers from one to last; none if last is below one.
def upTo (last : Int) : Source Int := fun i =>
  if (i : Int) + 1 ≤ last then ⟨.item (i + 1), false⟩ else ⟨.ended, false⟩

-- Behind the end a source is not asked again, so a place there never comes up.
def panickingAt (place : Option Nat) (s : Source α) : Source α := fun i =>
  if place = some i then ⟨.panicked, false⟩ else s i

def cancellingAt (place : Option Nat) (s : Source α) : Source α := fun i =>
  if place = some i then { s i with cancels := true } else s i

end Source
end GuardedWork
