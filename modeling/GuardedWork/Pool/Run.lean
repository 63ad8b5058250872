import GuardedWork.Pool.State

namespace GuardedWork

namespace PoolState

variable {α ρ : Type}

inductive Step (plan : PoolPlan α ρ) : PoolState α ρ → PoolAction → PoolState α ρ → Prop where
  | of {s t : PoolState α ρ} {action : PoolAction} : s.step? plan action = some t → Step plan s action t

inductive Runs (plan : PoolPlan α ρ) : PoolState α ρ → List PoolAction → PoolState α ρ → Prop where
  | nil {s : PoolState α ρ} : Runs plan s [] s
  | cons {s t u : PoolState α ρ} {action : PoolAction} {rest : List PoolAction} :
      Step plan s action t → Runs plan t rest u → Runs plan s (action :: rest) u

theorem step_exact {plan : PoolPlan α ρ} {s t : PoolState α ρ} {action : PoolAction} :
    s.step? plan action = some t ↔ Step plan s action t :=
  ⟨.of, fun | .of h => h⟩

-- The results reach the consumer.
def consumerActions (size : Nat) : List PoolAction := [.consume, .seeClose] ++ (List.range size).map .passResult

-- All else happens with a consumer who takes nothing, too.
def otherActions (size : Nat) : List PoolAction :=
  [.closeJobs, .enqueue, .check, .pull, .join, .release] ++
    (List.range size).flatMap fun i => [.give i, .finish i, .start i, .take i, .passJob i, .exit i]

-- What the actors do of themselves; a cancellation from outside and an early leave are not among it.
def ownActions (size : Nat) : List PoolAction := consumerActions size ++ otherActions size

def next? (plan : PoolPlan α ρ) (actions : List PoolAction) (s : PoolState α ρ) : Option (PoolState α ρ) :=
  actions.findSome? fun action => s.step? plan action

def runUntil (plan : PoolPlan α ρ) (actions : List PoolAction) (stop : PoolState α ρ → Bool) :
    Nat → PoolState α ρ → PoolState α ρ
  | 0, s => s
  | fuel + 1, s =>
    if stop s then s
    else match s.next? plan actions with
    | some t => runUntil plan actions stop fuel t
    | none => s

def run (plan : PoolPlan α ρ) (actions : List PoolAction) (fuel : Nat) (s : PoolState α ρ) : PoolState α ρ :=
  s.runUntil plan actions (fun _ => false) fuel

theorem Runs.append {plan : PoolPlan α ρ} {s t u : PoolState α ρ} {first second : List PoolAction}
    (before : Runs plan s first t) (after : Runs plan t second u) : Runs plan s (first ++ second) u := by
  induction before with
  | nil => exact after
  | cons step _ ih => exact .cons step (ih after)

theorem runUntil_reached (plan : PoolPlan α ρ) (actions : List PoolAction) (stop : PoolState α ρ → Bool) (fuel : Nat)
    (s : PoolState α ρ) : ∃ path, Runs plan s path (s.runUntil plan actions stop fuel) := by
  induction fuel generalizing s with
  | zero => exact ⟨[], .nil⟩
  | succ fuel ih =>
    rw [runUntil]
    split
    · exact ⟨[], .nil⟩
    · split
      · next t found =>
        obtain ⟨action, _, taken⟩ := List.exists_of_findSome?_eq_some found
        obtain ⟨path, rest⟩ := ih t
        exact ⟨action :: path, .cons (.of taken) rest⟩
      · exact ⟨[], .nil⟩

theorem run_reached (plan : PoolPlan α ρ) (actions : List PoolAction) (fuel : Nat) (s : PoolState α ρ) :
    ∃ path, Runs plan s path (s.run plan actions fuel) :=
  runUntil_reached plan actions _ fuel s

-- A job takes three steps to be dispatched, at most six to be answered and consumed; beyond the jobs
-- each worker exits and is joined once.
def stepBound (jobs size : Nat) : Nat := 9 * (jobs + 1) + 3 * (size + 4)

-- Enough steps for what is left, if the source ends within the given number of payloads.
def stepsLeft (payloads : Nat) (s : PoolState α ρ) : Nat :=
  stepBound (payloads + s.jobs.items.length) s.workers.length

def finish (plan : PoolPlan α ρ) (payloads : Nat) (s : PoolState α ρ) : PoolState α ρ :=
  s.run plan (ownActions s.workers.length) (s.stepsLeft payloads)

-- The consumer leaves once it has enough, but not before the others have done what they can without it.
def finishLeaving (plan : PoolPlan α ρ) (payloads : Nat) (enough : List (JobResult ρ) → Bool) (s : PoolState α ρ) :
    PoolState α ρ :=
  let actions := ownActions s.workers.length
  let bound := s.stepsLeft payloads
  let served := s.runUntil plan actions (fun t => enough t.taken) bound
  let alone := served.run plan (otherActions s.workers.length) bound
  ((alone.step? plan .leave).getD alone).run plan actions bound

theorem finishLeaving_reached (plan : PoolPlan α ρ) (payloads : Nat) (enough : List (JobResult ρ) → Bool)
    (s : PoolState α ρ) : ∃ path, Runs plan s path (s.finishLeaving plan payloads enough) := by
  unfold finishLeaving
  extract_lets actions bound served alone
  obtain ⟨first, serving⟩ := runUntil_reached plan actions (fun t => enough t.taken) bound s
  obtain ⟨second, waiting⟩ := run_reached plan (otherActions s.workers.length) bound served
  obtain ⟨third, ending⟩ := run_reached plan actions bound ((alone.step? plan .leave).getD alone)
  cases left : alone.step? plan .leave with
  | none =>
    rw [left] at ending
    exact ⟨_, serving.append (waiting.append ending)⟩
  | some t =>
    rw [left] at ending
    exact ⟨_, serving.append (waiting.append (.cons (.of left) ending))⟩

-- A consumer that folds what it takes leaves when its fold panics, and then there is no summary.
def finishFolding {β : Type} (plan : PoolPlan α ρ) (payloads : Nat) (f : β → ρ → Option β) (init : β)
    (s : PoolState α ρ) : PoolState α ρ × Option (Summary β) :=
  let summary? (taken : List (JobResult ρ)) : Option (Summary β) := Summary.ofResults? f init taken
  let whole := s.finish plan payloads
  match summary? whole.taken with
  | some summary => (whole, some summary)
  | none => (s.finishLeaving plan payloads fun taken => (summary? taken).isNone, none)

end PoolState
end GuardedWork
