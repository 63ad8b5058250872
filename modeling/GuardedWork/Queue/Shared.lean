import GuardedWork.Queue.Transfer

namespace GuardedWork

structure SharedQueue (α : Type) where
  capacity : Nat
  items : List α
  -- for each handle ever made, whether it is still held
  producers : List Bool
  consumers : List Bool

inductive QueueCommand (α : Type) where
  | put (producer : Nat) (item : α)
  | cloneProducer (producer : Nat)
  | dropProducer (producer : Nat)
  | producerLooks (producer : Nat)
  | cloneConsumer (consumer : Nat)
  | dropConsumer (consumer : Nat)
  | consumerLooks (consumer : Nat)
  | take (consumer : Nat)
  | tryTake (consumer : Nat)
  | takeInTime (consumer : Nat)
  -- the first so many, or all until the close
  | iterate (consumer : Nat) (count : Option Nat)
  -- all until the close, giving up the handle
  | drain (consumer : Nat)
  | transfer (producer consumer : Nat) (items : List α) (count : Nat)

inductive QueueAnswer (α : Type) where
  | noHandle
  | wouldBlock
  | done
  | refused
  | handle (number : Nat)
  | producerView (length : Nat) (empty full : Bool)
  | consumerView (length : Nat) (empty : Bool) (capacity : Nat)
  | item (value : α)
  | items (values : List α)
  -- open, but empty
  | nothingYet
  | timedOut
  | closed
  -- closed, as the end of what can be taken
  | ended
  | transferred (taken : List α) (allPut : Bool)

def QueueAnswer.timedOutMessage : String := "timed out waiting on an open queue"
def QueueAnswer.closedMessage : String := "queue closed and drained"

namespace SharedQueue

variable {α : Type}

def bounded (capacity : Nat) : SharedQueue α := ⟨capacity, [], [true], [true]⟩

def queue (s : SharedQueue α) : Queue α := ⟨s.capacity, s.items, s.producers.count true, s.consumers.count true⟩

def setItems (items : List α) (s : SharedQueue α) : SharedQueue α := { s with items }

def holds (handles : List Bool) (number : Nat) : Bool := handles.getD number false

-- A consumer handle sees the length, unless none is left.
def length? (s : SharedQueue α) : Option Nat := if s.consumers.contains true then some s.items.length else none

def takeOne (s : SharedQueue α) (whenClosed whenEmpty : QueueAnswer α) : QueueAnswer α × SharedQueue α :=
  match s.queue.take with
  | .item a q => (.item a, s.setItems q.items)
  | .closed => (whenClosed, s)
  | .blocks => (whenEmpty, s)

def takeMany (count : Option Nat) (s : SharedQueue α) : QueueAnswer α × SharedQueue α :=
  let enough := match count with
    | some n => n ≤ s.items.length
    | none => false
  if enough || s.queue.isClosed then
    let n := count.getD s.items.length
    (.items (s.items.take n), s.setItems (s.items.drop n))
  else (.wouldBlock, s)

def drain (consumer : Nat) (s : SharedQueue α) : QueueAnswer α × SharedQueue α :=
  if s.queue.isClosed then
    (.items s.items, { s with items := [], consumers := s.consumers.set consumer false })
  else (.wouldBlock, s)

def transfer (items : List α) (count : Nat) (s : SharedQueue α) : QueueAnswer α × SharedQueue α :=
  let t := Transfer.finish ⟨s.queue, items, count, []⟩
  if t.isDone then (.transferred t.got true, s.setItems t.queue.items) else (.wouldBlock, s)

def actThroughProducer (p : Nat) (act : SharedQueue α → QueueAnswer α × SharedQueue α) (s : SharedQueue α) :
    QueueAnswer α × SharedQueue α :=
  if holds s.producers p then act s else (.noHandle, s)

def actThroughConsumer (c : Nat) (act : SharedQueue α → QueueAnswer α × SharedQueue α) (s : SharedQueue α) :
    QueueAnswer α × SharedQueue α :=
  if holds s.consumers c then act s else (.noHandle, s)

-- A command through a handle that is gone does nothing, and so does one that would have to wait.
def step : QueueCommand α → SharedQueue α → QueueAnswer α × SharedQueue α
  | .put p a => actThroughProducer p fun s =>
    match s.queue.put a with
    | .accepted q => (.done, s.setItems q.items)
    | .refused => (.refused, s)
    | .blocks => (.wouldBlock, s)
  | .cloneProducer p => actThroughProducer p fun s =>
    (.handle s.producers.length, { s with producers := s.producers ++ [true] })
  | .dropProducer p => actThroughProducer p fun s => (.done, { s with producers := s.producers.set p false })
  | .producerLooks p => actThroughProducer p fun s =>
    (.producerView s.items.length s.items.isEmpty s.queue.isFull, s)
  | .cloneConsumer c => actThroughConsumer c fun s =>
    (.handle s.consumers.length, { s with consumers := s.consumers ++ [true] })
  | .dropConsumer c => actThroughConsumer c fun s => (.done, { s with consumers := s.consumers.set c false })
  | .consumerLooks c => actThroughConsumer c fun s =>
    (.consumerView s.items.length s.items.isEmpty s.capacity, s)
  | .take c => actThroughConsumer c fun s => s.takeOne .ended .wouldBlock
  | .tryTake c => actThroughConsumer c fun s => s.takeOne .closed .nothingYet
  | .takeInTime c => actThroughConsumer c fun s => s.takeOne .closed .timedOut
  | .iterate c count => actThroughConsumer c (takeMany count)
  | .drain c => actThroughConsumer c (drain c)
  | .transfer p c items count => actThroughProducer p (actThroughConsumer c (transfer items count))

end SharedQueue
end GuardedWork
