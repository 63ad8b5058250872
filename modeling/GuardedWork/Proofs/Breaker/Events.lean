import GuardedWork.Breaker.Call
import Mathlib.Tactic.Common

namespace GuardedWork

inductive BreakerEvent (ε α : Type) where
  -- with the reading while the breaker is open, and the one after the operation
  | call (checked : UInt64) (attempt : Attempt ε α) (finished : UInt64)
  | reset
deriving DecidableEq, Repr

inductive Observed where
  | rejected
  | succeeded
  | failed (reading : UInt64)
  | panicked
  | reset
deriving DecidableEq, Repr

def Attempt.observed {ε α : Type} (finished : UInt64) : Attempt ε α → Observed
  | returned _ => .succeeded
  | failed _ => .failed finished
  | panicked => .panicked

namespace Breaker

variable {ε α : Type} {b : Breaker} {target : BreakerState} {checked finished : UInt64} {attempt : Attempt ε α}

def Undisturbed (b : Breaker) : Prop := ∀ l ∈ b.listeners, ∀ state, l.panicsOn state = false

theorem notify_returns {ls : List Listener} (returns : ∀ l ∈ ls, ∀ state, l.panicsOn state = false) (n : Notification) :
    (notify n ls).2 = false := by
  induction ls with
  | nil => rfl
  | cons l ls ih =>
    have rest := ih fun l member => returns l (List.mem_cons_of_mem _ member)
    simp [notify, returns l List.mem_cons_self, rest]

def inState (state : BreakerState) (b : Breaker) : Breaker := { b with memory.state := state }

theorem turn_breaker : (b.turn target).breaker = b.inState target := rfl

theorem turn_returns (undisturbed : b.Undisturbed) (target : BreakerState) : (b.turn target).unwound = false :=
  notify_returns undisturbed _

def meet (b : Breaker) : BreakerEvent ε α → Breaker × Observed
  | .call checked attempt finished =>
    let c := b.call (some checked) attempt (some finished)
    (c.breaker, if c.invoked then attempt.observed finished else .rejected)
  | .reset => (b.reset.breaker, .reset)

-- With one more failure than before, as far as the count goes.
def grown (b : Breaker) : Nat := min (b.memory.failures + 1) BreakerMemory.mostFailures

-- A call goes through unless the breaker is open and its time has not come.
def Free (b : Breaker) (checked : UInt64) : Prop := b.memory.state = .opened → b.retryAt ≤ checked.toNat

inductive Move (b : Breaker) : BreakerEvent ε α → Observed → BreakerMemory → Prop where
  | rejected {checked finished : UInt64} {attempt : Attempt ε α} (opened : b.memory.state = .opened)
      (early : checked.toNat < b.retryAt) : Move b (.call checked attempt finished) .rejected b.memory
  | succeeded {checked finished : UInt64} {value : α} (free : b.Free checked) :
      Move b (.call checked (.returned value) finished) .succeeded ⟨.closed, 0, b.memory.lastFailureMs⟩
  | counted {checked finished : UInt64} {error : ε} (closed : b.memory.state = .closed)
      (below : b.grown < b.rule.threshold.toNat) :
      Move b (.call checked (.failed error) finished) (.failed finished) ⟨.closed, b.grown, finished⟩
  | tripped {checked finished : UInt64} {error : ε} (closed : b.memory.state = .closed)
      (reached : b.rule.threshold.toNat ≤ b.grown) :
      Move b (.call checked (.failed error) finished) (.failed finished) ⟨.opened, b.grown, finished⟩
  | probeFailed {checked finished : UInt64} {error : ε} (unclosed : b.memory.state ≠ .closed) (free : b.Free checked) :
      Move b (.call checked (.failed error) finished) (.failed finished) ⟨.opened, b.grown, finished⟩
  | panicked {checked finished : UInt64} (closed : b.memory.state = .closed) :
      Move b (.call checked .panicked finished) .panicked b.memory
  | probePanicked {checked finished : UInt64} (unclosed : b.memory.state ≠ .closed) (free : b.Free checked) :
      Move b (.call checked .panicked finished) .panicked { b.memory with state := .halfOpen }
  | reset : Move b .reset .reset .initial

theorem onSuccess_breaker : b.onSuccess.breaker = { b with memory :=
    ⟨if b.memory.state = .halfOpen then .closed else b.memory.state, 0, b.memory.lastFailureMs⟩ } := by
  unfold onSuccess
  dsimp only
  split <;> simp_all [turn_breaker, inState, stay]

theorem onFailure_breaker : (b.onFailure (some finished)).breaker = { b with memory :=
    ⟨if b.memory.state = .closed ∧ b.grown < b.rule.threshold.toNat then .closed else .opened,
      b.grown, finished⟩ } := by
  unfold onFailure grown
  dsimp only
  split
  · next halfOpen => simp [turn_breaker, inState, halfOpen]
  · next closed =>
    split
    · next reached => simp [turn_breaker, inState, closed, Nat.not_lt.mpr reached]
    · next below => simp [stay, closed, Nat.lt_of_not_le below]
  · next opened => simp [stay, opened]

theorem carryOut_invoked {finished : Option UInt64} : (b.carryOut attempt finished).invoked = true := by
  cases attempt <;> rfl

theorem unopened_call (unopened : b.memory.state ≠ .opened) :
    b.call (some checked) attempt (some finished) = b.carryOut attempt (some finished) := by
  unfold call
  split
  · rfl
  · rfl
  · next opened => exact absurd opened unopened

theorem probe_call (undisturbed : b.Undisturbed) (opened : b.memory.state = .opened)
    (due : b.retryAt ≤ checked.toNat) (attempt : Attempt ε α) (finished : UInt64) :
    (b.call (some checked) attempt (some finished)).invoked = true ∧
      (b.call (some checked) attempt (some finished)).breaker =
        ((b.inState .halfOpen).carryOut attempt (some finished)).breaker := by
  have returns := turn_returns undisturbed .halfOpen
  simp [call, opened, Nat.not_lt.mpr due, returns, turn_breaker, carryOut_invoked]

theorem early_call (opened : b.memory.state = .opened) (early : checked.toNat < b.retryAt) (attempt : Attempt ε α)
    (finished : UInt64) : b.call (some checked) attempt (some finished) =
      ⟨b, [.rejected], false, .refused (.rejected ⟨b.rule.name, b.retryAt - checked.toNat⟩)⟩ := by
  simp [call, opened, early]

theorem carryOut_move (unopened : b.memory.state ≠ .opened) (checked : UInt64) (attempt : Attempt ε α)
    (finished : UInt64) : ∃ memory,
    (b.carryOut attempt (some finished)).breaker = { b with memory } ∧
      b.Move (.call checked attempt finished) (attempt.observed finished) memory := by
  have free : b.Free checked := fun opened => absurd opened unopened
  cases attempt with
  | returned value =>
    refine ⟨_, onSuccess_breaker, ?_⟩
    have closes : (if b.memory.state = .halfOpen then BreakerState.closed else b.memory.state) = .closed := by
      cases state : b.memory.state <;> simp_all
    rw [closes]
    exact .succeeded free
  | failed error =>
    refine ⟨_, onFailure_breaker, ?_⟩
    by_cases closed : b.memory.state = .closed
    · by_cases below : b.grown < b.rule.threshold.toNat
      · simpa [closed, below, Attempt.observed] using Move.counted closed below
      · simpa [closed, below, Attempt.observed] using Move.tripped closed (Nat.le_of_not_lt below)
    · simpa [closed, Attempt.observed] using Move.probeFailed closed free
  | panicked =>
    refine ⟨b.memory, rfl, ?_⟩
    cases state : b.memory.state with
    | closed => exact .panicked state
    | halfOpen =>
      have same : { b.memory with state := .halfOpen } = b.memory := by rw [← state]
      exact same ▸ Move.probePanicked (by simp [state]) free
    | opened => exact absurd state unopened

-- What goes through a breaker that turned half open for it goes through the open one.
theorem probe_move {event : BreakerEvent ε α} {seen : Observed} {memory : BreakerMemory}
    (opened : b.memory.state = .opened) (due : ∀ checked attempt finished, event = .call checked attempt finished →
      b.retryAt ≤ checked.toNat)
    (move : (b.inState .halfOpen).Move event seen memory) : b.Move event seen memory := by
  have unclosed : b.memory.state ≠ .closed := by simp [opened]
  cases move with
  | rejected halfOpen | counted halfOpen | tripped halfOpen | panicked halfOpen => cases halfOpen
  | succeeded => exact .succeeded fun _ => due _ _ _ rfl
  | probeFailed => exact .probeFailed unclosed fun _ => due _ _ _ rfl
  | probePanicked => exact .probePanicked unclosed fun _ => due _ _ _ rfl
  | reset => exact .reset

theorem call_move (undisturbed : b.Undisturbed) (checked : UInt64) (attempt : Attempt ε α) (finished : UInt64) :
    ∃ memory, (b.meet (.call checked attempt finished)).1 = { b with memory } ∧
      b.Move (.call checked attempt finished) (b.meet (.call checked attempt finished)).2 memory := by
  by_cases opened : b.memory.state = .opened
  · by_cases early : checked.toNat < b.retryAt
    · have rejected := early_call opened early attempt finished
      refine ⟨b.memory, ?_, ?_⟩
      · simp [meet, rejected]
      · simpa [meet, rejected] using Move.rejected opened early
    · have due := Nat.le_of_not_lt early
      obtain ⟨invoked, after⟩ := probe_call undisturbed opened due attempt finished
      have unopened : (b.inState .halfOpen).memory.state ≠ .opened := by simp [inState]
      obtain ⟨memory, carried, move⟩ := carryOut_move unopened checked attempt finished
      refine ⟨memory, after.trans carried, ?_⟩
      have through := probe_move opened (by rintro _ _ _ ⟨⟩; exact due) move
      simpa [meet, invoked] using through
  · obtain ⟨memory, carried, move⟩ := carryOut_move opened checked attempt finished
    refine ⟨memory, ?_, ?_⟩
    · simpa [meet, unopened_call opened] using carried
    · simpa [meet, unopened_call opened, carryOut_invoked] using move

theorem reset_breaker (undisturbed : b.Undisturbed) : b.reset.breaker = { b with memory := .initial } := by
  have returns := turn_returns undisturbed .closed
  unfold reset
  split <;> simp [stay, returns, turn_breaker, inState]

theorem meet_move (undisturbed : b.Undisturbed) (event : BreakerEvent ε α) :
    ∃ memory, (b.meet event).1 = { b with memory } ∧ b.Move event (b.meet event).2 memory := by
  cases event with
  | call checked attempt finished => exact call_move undisturbed checked attempt finished
  | reset => exact ⟨.initial, reset_breaker undisturbed, .reset⟩

-- One event after the other. The history has the latest first.
def live : List (BreakerEvent ε α) → Breaker → List Observed → Breaker × List Observed
  | [], b, history => (b, history)
  | event :: rest, b, history => live rest (b.meet event).1 ((b.meet event).2 :: history)

-- What every event keeps, a whole life keeps.
theorem live_keep {P : Breaker → List Observed → Prop} {history : List Observed} (events : List (BreakerEvent ε α))
    (undisturbed : b.Undisturbed) (first : P b history)
    (keeps : ∀ {b history event seen memory}, P b history → b.Move (event : BreakerEvent ε α) seen memory →
      P { b with memory } (seen :: history)) :
    P (live events b history).1 (live events b history).2 ∧ (live events b history).1.Undisturbed := by
  induction events generalizing b history with
  | nil => exact ⟨first, undisturbed⟩
  | cons event rest ih =>
    obtain ⟨memory, after, move⟩ := meet_move undisturbed event
    rw [live, after]
    exact ih undisturbed (keeps first move)

theorem ofRule_eq {rule : Rule} (built : ofRule rule = .ok b) :
    b = ⟨rule, .initial, []⟩ ∧ rule.name ≠ "" ∧ rule.threshold ≠ 0 := by
  unfold ofRule Rule.check at built
  split at built
  · cases built
  · next named =>
    split at built
    · cases built
    · next positive => cases built; exact ⟨rfl, named, positive⟩

end Breaker
end GuardedWork
