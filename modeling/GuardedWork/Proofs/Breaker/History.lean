import GuardedWork.Proofs.Breaker.Events

namespace GuardedWork

namespace Observed

@[simp] def clears : Observed → Bool
  | succeeded | reset => true
  | _ => false

@[simp] def isFailure : Observed → Bool
  | failed _ => true
  | _ => false

@[simp] def reading? : Observed → Option UInt64
  | failed reading => some reading
  | _ => none

variable {history : List Observed} {o : Observed}

-- Histories have the latest first. Failures since the last success or reset.
def failuresInRow (history : List Observed) : Nat := (history.takeWhile fun o => !o.clears).countP isFailure

-- The reading at the last failure since the last reset, zero without one.
def lastFailure (history : List Observed) : UInt64 :=
  ((history.takeWhile fun o => o != reset).findSome? reading?).getD 0

-- Whether an operation has panicked since the last failure.
def panickedSince (history : List Observed) : Bool := (history.takeWhile fun o => !o.isFailure).contains panicked

def stateOf (threshold : Nat) (history : List Observed) : BreakerState :=
  if failuresInRow history < threshold then .closed
  else if panickedSince history then .halfOpen
  else .opened

@[simp] theorem failuresInRow_cons : failuresInRow (o :: history) =
    if o.clears then 0 else failuresInRow history + if o.isFailure then 1 else 0 := by
  cases o <;> simp [failuresInRow, List.countP_cons]

@[simp] theorem panickedSince_cons :
    panickedSince (o :: history) = (!o.isFailure && (o == panicked || panickedSince history)) := by
  cases o <;> simp [panickedSince]

@[simp] theorem lastFailure_cons : lastFailure (o :: history) =
    if o = reset then 0 else (o.reading?).getD (lastFailure history) := by
  cases o <;> simp [lastFailure, List.findSome?_cons]

theorem stateOf_closed {k : Nat} : stateOf k history = .closed ↔ failuresInRow history < k := by
  unfold stateOf
  split
  · simp [*]
  · split <;> simp [*]

theorem stateOf_halfOpen {k : Nat} :
    stateOf k history = .halfOpen ↔ k ≤ failuresInRow history ∧ panickedSince history = true := by
  unfold stateOf
  split
  · next few => simp [Nat.not_le.mpr few]
  · next many => split <;> simp_all

theorem stateOf_opened {k : Nat} :
    stateOf k history = .opened ↔ k ≤ failuresInRow history ∧ panickedSince history = false := by
  unfold stateOf
  split
  · next few => simp [Nat.not_le.mpr few]
  · next many => split <;> simp_all

end Observed

namespace Breaker

open Observed

variable {ε α : Type} {b c : Breaker} {history : List Observed} {event : BreakerEvent ε α} {seen : Observed}
  {memory : BreakerMemory}

structure Told (b : Breaker) (history : List Observed) : Prop where
  failures : b.memory.failures = min (failuresInRow history) BreakerMemory.mostFailures
  lastFailure : b.memory.lastFailureMs = lastFailure history
  state : b.memory.state = stateOf b.rule.threshold.toNat history

theorem threshold_within (b : Breaker) : b.rule.threshold.toNat ≤ BreakerMemory.mostFailures :=
  Nat.le_sub_one_of_lt b.rule.threshold.toNat_lt

theorem told_closed (told : Told b history) :
    b.memory.state = .closed ↔ failuresInRow history < b.rule.threshold.toNat := by
  rw [told.state, stateOf_closed]

theorem grown_told (told : Told b history) : b.grown = min (failuresInRow history + 1) BreakerMemory.mostFailures := by
  rw [grown, told.failures]
  omega

theorem move_told (valid : b.rule.threshold.toNat ≠ 0) (told : Told b history) (move : b.Move event seen memory) :
    Told { b with memory } (seen :: history) := by
  have within := threshold_within b
  have grown := grown_told told
  cases move with
  | rejected opened =>
    refine ⟨?_, ?_, ?_⟩
    · simpa using told.failures
    · simpa using told.lastFailure
    · simpa [stateOf] using told.state
  | succeeded =>
    refine ⟨?_, ?_, ?_⟩
    · simp
    · simpa using told.lastFailure
    · simp [stateOf, Nat.pos_of_ne_zero valid]
  | counted closed below =>
    refine ⟨?_, ?_, ?_⟩
    · simpa using grown
    · simp
    · have few : failuresInRow history + 1 < b.rule.threshold.toNat := by omega
      simp [stateOf, few]
  | tripped closed reached =>
    refine ⟨?_, ?_, ?_⟩
    · simpa using grown
    · simp
    · have many : ¬ failuresInRow history + 1 < b.rule.threshold.toNat := by omega
      simp [stateOf, many]
  | probeFailed unclosed =>
    have before := Nat.le_of_not_lt ((told_closed told).not.mp unclosed)
    refine ⟨?_, ?_, ?_⟩
    · simpa using grown
    · simp
    · have many : ¬ failuresInRow history + 1 < b.rule.threshold.toNat := by omega
      simp [stateOf, many]
  | panicked closed =>
    have few := (told_closed told).mp closed
    refine ⟨?_, ?_, ?_⟩
    · simpa using told.failures
    · simpa using told.lastFailure
    · simp [stateOf, few, closed]
  | probePanicked unclosed =>
    have many := (told_closed told).not.mp unclosed
    refine ⟨?_, ?_, ?_⟩
    · simpa using told.failures
    · simpa using told.lastFailure
    · simp [stateOf, many]
  | reset =>
    refine ⟨?_, ?_, ?_⟩
    · simp [BreakerMemory.initial]
    · simp [BreakerMemory.initial]
    · simp [stateOf, BreakerMemory.initial, Nat.pos_of_ne_zero valid]

-- Neither a rejection nor a panic in a closed breaker leaves anything behind.
theorem unseen_still (undisturbed : b.Undisturbed)
    (unseen : (b.meet event).2 = .rejected ∨ b.memory.state = .closed ∧ (b.meet event).2 = .panicked) :
    (b.meet event).1 = b := by
  obtain ⟨memory, after, move⟩ := meet_move undisturbed event
  rw [after]
  generalize (b.meet event).2 = seen at unseen move
  cases move with
  | rejected | panicked => rfl
  | probePanicked unclosed => exact absurd unseen (by simp [unclosed])
  | succeeded | counted | tripped | probeFailed | reset => simp at unseen

theorem told_by_history {rule : Rule} {ls : List Listener} {events : List (BreakerEvent ε α)}
    (built : Breaker.ofRule rule = .ok b) (returns : ∀ l ∈ ls, ∀ state, l.panicsOn state = false)
    (lived : live events (b.listen ls) [] = (c, history)) :
    c.memory.failures = min (failuresInRow history) (UInt32.size - 1) ∧
      c.memory.lastFailureMs = lastFailure history ∧
      (c.memory.state = .closed ↔ failuresInRow history < rule.threshold.toNat) ∧
      (c.memory.state = .halfOpen ↔ rule.threshold.toNat ≤ failuresInRow history ∧ panickedSince history = true) ∧
      (c.memory.state = .opened ↔ rule.threshold.toNat ≤ failuresInRow history ∧ panickedSince history = false) ∧
      ∀ event : BreakerEvent ε α, (c.meet event).2 = .rejected ∨
        c.memory.state = .closed ∧ (c.meet event).2 = .panicked → (c.meet event).1 = c := by
  obtain ⟨rfl, _, positive⟩ := ofRule_eq built
  have valid : rule.threshold.toNat ≠ 0 := fun zero => positive (UInt32.toNat_inj.mp zero)
  have first : Told (listen ls ⟨rule, .initial, []⟩) [] :=
    ⟨rfl, rfl, by simp [stateOf, failuresInRow, listen, BreakerMemory.initial, Nat.pos_of_ne_zero valid]⟩
  have whole := live_keep (P := fun b history => b.rule = rule ∧ Told b history) events
    (b := listen ls ⟨rule, .initial, []⟩) returns ⟨rfl, first⟩
    fun kept move => ⟨kept.1, move_told (kept.1 ▸ valid) kept.2 move⟩
  rw [lived] at whole
  obtain ⟨⟨rfl, told⟩, quiet⟩ := whole
  refine ⟨told.failures, told.lastFailure, told_closed told, ?_, ?_, ?_⟩
  · rw [told.state, stateOf_halfOpen]
  · rw [told.state, stateOf_opened]
  · intro event unseen
    exact unseen_still quiet unseen

-- Two failures open it, the second after a panic; one call is early and one in time, which panics.
def troubled : List (BreakerEvent Unit Unit) :=
  [.call 0 (.failed ()) 10, .call 0 .panicked 0, .call 0 (.failed ()) 20, .call 50 (.returned ()) 51,
    .call 120 .panicked 121]

theorem troubled_told_by_history : ∃ b c history, Breaker.ofRule ⟨"store", 2, 100⟩ = .ok b ∧
    live troubled (b.listen [⟨"log", fun _ => false⟩]) [] = (c, history) ∧
    history = [.panicked, .rejected, .failed 20, .panicked, .failed 10] ∧
    c.memory.failures = 2 ∧ c.memory.lastFailureMs = 20 ∧ c.memory.state = .halfOpen := by
  have built : Breaker.ofRule ⟨"store", 2, 100⟩ = .ok ⟨⟨"store", 2, 100⟩, .initial, []⟩ := rfl
  have lived : live troubled (listen [⟨"log", fun _ => false⟩] ⟨⟨"store", 2, 100⟩, .initial, []⟩) [] = (_, _) := rfl
  have all := told_by_history built (by simp) lived
  exact ⟨_, _, _, built, lived, rfl, all.1.trans rfl, all.2.1.trans rfl, all.2.2.2.1.mpr (by decide)⟩

end Breaker
end GuardedWork
