import GuardedWork.Proofs.Queue.Transfer
import GuardedWork.Queue.Use
import Mathlib.Data.List.Basic

namespace GuardedWork.SharedQueue

variable {α : Type} {s t u : SharedQueue α} {capacity : Nat} {handles : List Bool} {n p c : Nat} {use : QueueUse α}
  {command : QueueCommand α} {answer whenClosed whenEmpty : QueueAnswer α} {log later : QueueLog α}
  {act : SharedQueue α → QueueAnswer α × SharedQueue α}

theorem holds_iff : holds handles n = true ↔ handles[n]? = some true := by
  rw [holds, List.getD_eq_getElem?_getD]
  cases handles[n]? <;> simp

theorem none_held : handles.count true = 0 ↔ ∀ n, holds handles n = false := by
  rw [List.count_eq_zero, List.mem_iff_getElem?]
  simp only [← holds_iff, not_exists, Bool.not_eq_true]

def Closed (s : SharedQueue α) : Prop := ∀ p, holds s.producers p = false

-- What a use leaves behind, with the items it gives and accepts. Without a producer it accepts none.
structure Booked (use : QueueUse α) (answer : QueueAnswer α) (s t : SharedQueue α) : Prop where
  order : answer.taken ++ t.items = s.items ++ use.accepted answer
  capacity : t.capacity = s.capacity
  fits : t.items.length ≤ t.capacity
  closed : s.Closed → t.Closed ∧ use.accepted answer = []

theorem alone_made (made : s.use? (.alone command) = some (answer, t)) :
    step command s = (answer, t) ∧ answer ≠ .noHandle ∧ answer ≠ .wouldBlock := by
  simp only [use?] at made
  split at made
  · cases made
  · cases made
  · next unhandled unblocked =>
    have stepped := Option.some.inj made
    refine ⟨stepped, ?_, ?_⟩
    · rintro rfl
      exact unhandled t stepped
    · rintro rfl
      exact unblocked t stepped

theorem alone_makes (stepped : step command s = (answer, t)) (handled : answer ≠ .noHandle)
    (unblocked : answer ≠ .wouldBlock) : s.use? (.alone command) = some (answer, t) := by
  simp only [use?, stepped]
  split
  · next same => cases same; exact absurd rfl handled
  · next same => cases same; exact absurd rfl unblocked
  · rfl

-- It need not wait, and this is what comes of it.
def Tells (s : SharedQueue α) (command : QueueCommand α) (answer : QueueAnswer α) : Prop :=
  ∃ t, s.use? (.alone command) = some (answer, t)

theorem tells_iff (handled : answer ≠ .noHandle) (unblocked : answer ≠ .wouldBlock) :
    s.Tells command answer ↔ (step command s).1 = answer := by
  constructor
  · rintro ⟨t, made⟩
    rw [(alone_made made).1]
  · intro same
    exact ⟨(step command s).2, alone_makes (Prod.ext same rfl) handled unblocked⟩

theorem put_refused (held : holds s.producers p = true) (a : α) :
    s.Tells (.put p a) .refused ↔ ∀ c, holds s.consumers c = false := by
  have gone : s.queue.put a = .refused ↔ ∀ c, holds s.consumers c = false := Queue.put_eq_refused.trans none_held
  refine Iff.trans (tells_iff nofun nofun) (Iff.trans ?_ gone)
  simp only [step, actThroughProducer, if_pos held]
  split
  · next put => simp [put]
  · next put => simp [put]
  · next put => simp [put]

theorem runs_of_replay {uses : List (QueueUse α)} (replayed : s.replay? uses = some (log, t)) : Runs s log t := by
  induction uses generalizing s log with
  | nil => cases replayed; exact .nil
  | cons use rest ih =>
    obtain ⟨⟨answer, next⟩, made, replayed⟩ := Option.bind_eq_some_iff.mp replayed
    obtain ⟨⟨log, last⟩, behind, same⟩ := Option.bind_eq_some_iff.mp replayed
    cases same
    exact .cons made (ih behind)

-- Without a buffer an item goes straight over, also to a consumer that only looks whether there is one.
example : (bounded 0 : SharedQueue Nat).replay? [.handOver 0 0 .tryTake 7] =
    some ([(.handOver 0 0 .tryTake 7, .item 7)], bounded 0) := rfl

end GuardedWork.SharedQueue
