import GuardedWork.Queue.Basic
import GuardedWork.Transform
import GuardedWork.Source

namespace GuardedWork

structure Stage (α : Type) where
  capacity : Nat
  -- none where it panics
  work : α → Option α

-- A transform that fails ends its stage as a panic does.
def Stage.ofTransform {α : Type} (capacity : Nat) (transform : Transform α α) : Stage α :=
  ⟨capacity, fun a => match (transform a).ending with
    | .value b => some b
    | _ => none⟩

structure Pipeline (α : Type) where
  source : Source α
  capacity : Nat
  stages : List (Stage α)

inductive StagePhase (α : Type) where
  -- for the next item; only this phase and the offering one are the source's too
  | waiting
  | holding (input : α)
  | offering (output : α)
  -- and both its handles with it
  | gone
deriving DecidableEq, Repr

-- A thread, and what lies in its output queue.
structure Link (α : Type) where
  phase : StagePhase α
  capacity : Nat
  buffer : List α
deriving DecidableEq, Repr

inductive PipelineConsumer where
  | draining
  -- so many more, then it drops its handle
  | wanting (count : Nat)
  | dropped
  -- has seen the close
  | finished
deriving DecidableEq, Repr

structure PipelineState (α : Type) where
  pulled : Nat
  -- the source first
  links : List (Link α)
  consumer : PipelineConsumer
  taken : List α
deriving DecidableEq, Repr

-- One step of one thread, or a handover to the next one where a queue has no buffer.
inductive PipelineAction where
  | pull
  | accept (stage : Nat)
  | work (stage : Nat)
  | put (thread : Nat)
  -- an item straight to the next thread, or to the consumer
  | pass (thread : Nat)
  | close (stage : Nat)
  | consume
  | seeClose
  | drop
deriving DecidableEq, Repr

namespace StagePhase

variable {α : Type}

def isGone (p : StagePhase α) : Bool := p matches .gone
def isWaiting (p : StagePhase α) : Bool := p matches .waiting

end StagePhase

namespace PipelineConsumer

def isThere : PipelineConsumer → Bool
  | draining | wanting _ => true
  | dropped | finished => false

-- none if it takes no more.
def afterTake? : PipelineConsumer → Option PipelineConsumer
  | draining => some draining
  | wanting (n + 1) => some (wanting n)
  | _ => none

end PipelineConsumer

namespace Link

variable {α : Type}

def ofCapacity (capacity : Nat) : Link α := ⟨.waiting, capacity, []⟩

-- Its output queue, with a consumer or without.
def queue (read : Bool) (l : Link α) : Queue α :=
  ⟨l.capacity, l.buffer, if l.phase.isGone then 0 else 1, if read then 1 else 0⟩

end Link

namespace PipelineState

variable {α : Type}

def start (p : Pipeline α) (consumer : PipelineConsumer) : PipelineState α :=
  ⟨0, .ofCapacity p.capacity :: p.stages.map fun s => .ofCapacity s.capacity, consumer, []⟩

def setLink (i : Nat) (l : Link α) (s : PipelineState α) : PipelineState α := { s with links := s.links.set i l }
def setPhase (i : Nat) (l : Link α) (phase : StagePhase α) (s : PipelineState α) : PipelineState α :=
  s.setLink i { l with phase }

-- Whether the output of a thread has a consumer: the next thread, or the one at the end.
def isRead (i : Nat) (s : PipelineState α) : Bool :=
  match s.links[i + 1]? with
  | some next => !next.phase.isGone
  | none => s.consumer.isThere

-- The input of a stage, which is there as long as the stage takes from it.
def take (i : Nat) (s : PipelineState α) : Take α :=
  match s.links[i]? with
  | some l => (l.queue true).take
  | none => .blocks

def setBuffer (i : Nat) (buffer : List α) (s : PipelineState α) : PipelineState α :=
  { s with links := s.links.modify i fun l => { l with buffer } }

def stepSource (p : Pipeline α) (l : Link α) (s : PipelineState α) : Option (PipelineState α) :=
  if l.phase.isWaiting then
    match (p.source s.pulled).pulled with
    | .item a => some { s.setPhase 0 l (.offering a) with pulled := s.pulled + 1 }
    | .ended | .panicked => some (s.setPhase 0 l .gone)
  else none

def stepAccept (i : Nat) (l : Link α) (s : PipelineState α) : Option (PipelineState α) :=
  if l.phase.isWaiting then
    match s.take i with
    | .item a q => some ((s.setPhase (i + 1) l (.holding a)).setBuffer i q.items)
    | _ => none
  else none

def stepClose (i : Nat) (l : Link α) (s : PipelineState α) : Option (PipelineState α) :=
  if l.phase.isWaiting then
    match s.take i with
    | .closed => some (s.setPhase (i + 1) l .gone)
    | _ => none
  else none

def stepWork (stage : Stage α) (i : Nat) (l : Link α) (s : PipelineState α) : Option (PipelineState α) :=
  match l.phase with
  | .holding a =>
    match stage.work a with
    | some b => some (s.setPhase i l (.offering b))
    | none => some (s.setPhase i l .gone)
  | _ => none

-- A thread whose item nobody can take any more goes too.
def stepPut (i : Nat) (l : Link α) (s : PipelineState α) : Option (PipelineState α) :=
  match l.phase with
  | .offering b =>
    match (l.queue (s.isRead i)).put b with
    | .accepted q => some (s.setLink i ⟨.waiting, l.capacity, q.items⟩)
    | .refused => some (s.setPhase i l .gone)
    | .blocks => none
  | _ => none

def stepPass (i : Nat) (l : Link α) (s : PipelineState α) : Option (PipelineState α) :=
  match l.phase with
  | .offering b =>
    if l.capacity = 0 then
      match s.links[i + 1]? with
      | some next =>
        if next.phase.isWaiting then some ((s.setPhase i l .waiting).setPhase (i + 1) next (.holding b)) else none
      | none =>
        s.consumer.afterTake?.map fun consumer =>
          { s.setPhase i l .waiting with consumer, taken := s.taken ++ [b] }
    else none
  | _ => none

def last (s : PipelineState α) : Nat := s.links.length - 1

def stepConsumer (action : PipelineAction) (s : PipelineState α) : Option (PipelineState α) :=
  match action, s.take s.last with
  | .consume, .item a q =>
    s.consumer.afterTake?.map fun consumer =>
      { s.setBuffer s.last q.items with consumer, taken := s.taken ++ [a] }
  | .seeClose, .closed => s.consumer.afterTake?.map fun _ => { s with consumer := .finished }
  | .drop, _ => if s.consumer = .wanting 0 then some { s with consumer := .dropped } else none
  | _, _ => none

def step? (p : Pipeline α) (action : PipelineAction) (s : PipelineState α) : Option (PipelineState α) :=
  match action with
  | .pull => s.links[0]?.bind fun l => s.stepSource p l
  | .accept i => s.links[i + 1]?.bind fun l => s.stepAccept i l
  | .close i => s.links[i + 1]?.bind fun l => s.stepClose i l
  | .work i => s.links[i + 1]?.bind fun l => p.stages[i]?.bind fun stage => s.stepWork stage (i + 1) l
  | .put i => s.links[i]?.bind fun l => s.stepPut i l
  | .pass i => s.links[i]?.bind fun l => s.stepPass i l
  | .consume | .seeClose | .drop => s.stepConsumer action

end PipelineState
end GuardedWork
