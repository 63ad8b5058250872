namespace GuardedWork

-- Closed once no producer is left, and then it still gives what it holds.
structure Queue (α : Type) where
  capacity : Nat
  items : List α
  producers : Nat
  consumers : Nat
deriving DecidableEq, Repr

inductive Put (α : Type) where
  | accepted (queue : Queue α)
  -- no consumer is left, and the item is lost
  | refused
  | blocks

inductive Take (α : Type) where
  | item (value : α) (queue : Queue α)
  | closed
  | blocks

namespace Queue

variable {α : Type}

-- With one producer and one consumer. Nothing fits into a queue of capacity zero.
def bounded (capacity : Nat) : Queue α := ⟨capacity, [], 1, 1⟩

-- A place takes up to this many bytes, whatever lies in it.
def placeBytes : Nat := 128

-- A queue has to fit into half of the addresses, or making it panics.
def canBeMade (capacity : Nat) : Bool := capacity * placeBytes < UInt64.size / 2

def refusedMessage : String := "queue has no consumer left"

def hasRoom (q : Queue α) : Bool := q.items.length < q.capacity

def isClosed (q : Queue α) : Bool := q.producers == 0

def isFull (q : Queue α) : Bool := q.items.length == q.capacity

def put (a : α) (q : Queue α) : Put α :=
  if q.consumers = 0 then .refused
  else if q.hasRoom then .accepted { q with items := q.items ++ [a] }
  else .blocks

def take (q : Queue α) : Take α :=
  match q.items with
  | a :: rest => .item a { q with items := rest }
  | [] => if q.isClosed then .closed else .blocks

def dropProducer (q : Queue α) : Queue α := { q with producers := q.producers - 1 }
def dropConsumer (q : Queue α) : Queue α := { q with consumers := q.consumers - 1 }

theorem put_eq_accepted {a : α} {q r : Queue α} :
    q.put a = .accepted r ↔
      q.consumers ≠ 0 ∧ q.items.length < q.capacity ∧ r = { q with items := q.items ++ [a] } := by
  by_cases gone : q.consumers = 0
  · simp [put, gone]
  · by_cases room : q.items.length < q.capacity <;> simp [put, hasRoom, gone, room, eq_comm]

theorem put_eq_refused {a : α} {q : Queue α} : q.put a = .refused ↔ q.consumers = 0 := by
  by_cases gone : q.consumers = 0
  · simp [put, gone]
  · cases room : q.hasRoom <;> simp [put, gone, room]

theorem take_eq_item {a : α} {q r : Queue α} :
    q.take = .item a r ↔ ∃ rest, q.items = a :: rest ∧ r = { q with items := rest } := by
  unfold take
  split
  · next head rest items => simp [items, eq_comm, and_assoc]
  · next items => split <;> simp [items]

theorem take_eq_closed {q : Queue α} : q.take = .closed ↔ q.items = [] ∧ q.producers = 0 := by
  unfold take isClosed
  split
  · simp_all
  · split <;> simp_all

end Queue
end GuardedWork
