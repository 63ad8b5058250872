import GuardedWork.Pipeline.State

namespace GuardedWork

namespace PipelineState

variable {α : Type}

inductive Runs (p : Pipeline α) : PipelineState α → List PipelineAction → PipelineState α → Prop where
  | nil {s : PipelineState α} : Runs p s [] s
  | cons {s t u : PipelineState α} {action : PipelineAction} {rest : List PipelineAction} :
      s.step? p action = some t → Runs p t rest u → Runs p s (action :: rest) u

-- By the number of stages, the last first.
def downstreamFirst (stages : Nat) : List PipelineAction :=
  [.drop, .consume, .seeClose] ++
    ((List.range stages).reverse.flatMap fun i => [.pass (i + 1), .put (i + 1), .work i, .accept i, .close i]) ++
    [.pass 0, .put 0, .pull]

def next? (p : Pipeline α) (actions : List PipelineAction) (s : PipelineState α) : Option (PipelineState α) :=
  actions.findSome? fun action => s.step? p action

-- Stops when the consumer has what it came for.
def run (p : Pipeline α) (actions : List PipelineAction) : Nat → PipelineState α → PipelineState α
  | 0, s => s
  | fuel + 1, s =>
    if s.consumer.isThere then
      match s.next? p actions with
      | some t => run p actions fuel t
      | none => s
    else s

-- An item takes three steps at each stage, and three at the ends; a thread goes once.
def stepBound (items stages : Nat) : Nat := (items + 1) * (3 * stages + 3) + stages + 3

theorem run_reached (p : Pipeline α) (actions : List PipelineAction) (fuel : Nat) (s : PipelineState α) :
    ∃ path, Runs p s path (s.run p actions fuel) := by
  induction fuel generalizing s with
  | zero => exact ⟨[], .nil⟩
  | succ fuel ih =>
    rw [run]
    split
    · split
      · next t found =>
        obtain ⟨action, _, taken⟩ := List.exists_of_findSome?_eq_some found
        obtain ⟨path, rest⟩ := ih t
        exact ⟨action :: path, .cons taken rest⟩
      · exact ⟨[], .nil⟩
    · exact ⟨[], .nil⟩

end PipelineState

namespace Pipeline

variable {α : Type}

def canStart (p : Pipeline α) : Bool :=
  Queue.canBeMade p.capacity && p.stages.all fun s => Queue.canBeMade s.capacity

-- For a source that ends within the given number of items.
def outputs (p : Pipeline α) (items : Nat) : PipelineState α :=
  (PipelineState.start p .draining).run p (PipelineState.downstreamFirst p.stages.length)
    (PipelineState.stepBound items p.stages.length)

def firstOutputs (p : Pipeline α) (count : Nat) : PipelineState α :=
  (PipelineState.start p (.wanting count)).run p (PipelineState.downstreamFirst p.stages.length)
    (PipelineState.stepBound count p.stages.length)

end Pipeline

end GuardedWork
