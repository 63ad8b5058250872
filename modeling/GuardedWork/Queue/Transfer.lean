import GuardedWork.Queue.Basic

namespace GuardedWork

-- One thread puts, another takes, and neither drops its handle.
structure Transfer (α : Type) where
  queue : Queue α
  toPut : List α
  toTake : Nat
  got : List α

namespace Transfer

variable {α : Type}

inductive Action where
  | put
  | take
  -- without any buffer an item goes straight from the one thread to the other
  | handOver
deriving DecidableEq, Repr

def step? : Action → Transfer α → Option (Transfer α)
  | .put, t =>
    match t.toPut with
    | [] => none
    | a :: rest => match t.queue.put a with
      | .accepted q => some { t with queue := q, toPut := rest }
      | _ => none
  | .take, t =>
    match t.toTake with
    | 0 => none
    | n + 1 => match t.queue.take with
      | .item a q => some { t with queue := q, toTake := n, got := t.got ++ [a] }
      | _ => none
  | .handOver, t =>
    match t.toPut, t.toTake with
    | a :: rest, n + 1 => if t.queue.capacity = 0 then some { t with toPut := rest, toTake := n, got := t.got ++ [a] } else none
    | _, _ => none

-- In any order.
inductive Runs : Transfer α → List Action → Transfer α → Prop where
  | nil {t : Transfer α} : Runs t [] t
  | cons {t u v : Transfer α} {action : Action} {rest : List Action} :
      step? action t = some u → Runs u rest v → Runs t (action :: rest) v

def isDone (t : Transfer α) : Bool := t.toPut.isEmpty && t.toTake == 0

def next? (t : Transfer α) : Option (Transfer α) := step? .take t <|> step? .put t <|> step? .handOver t

def run : Nat → Transfer α → Transfer α
  | 0, t => t
  | fuel + 1, t => match t.next? with
    | some t => run fuel t
    | none => t

-- Each step makes one put or one take.
def finish (t : Transfer α) : Transfer α := t.run (t.toPut.length + t.toTake)

end Transfer
end GuardedWork
