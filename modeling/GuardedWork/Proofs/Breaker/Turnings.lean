import GuardedWork.Breaker.Use
import GuardedWork.Proofs.Breaker.Events

namespace GuardedWork

namespace Breaker

variable {ε α : Type} {b : Breaker} {action : BreakerAction ε α} {checked finished : UInt64} {attempt : Attempt ε α}

def cleared (b : Breaker) : Breaker := { b with memory.failures := 0 }

-- With one more failure, at this reading.
def marked (finished : UInt64) (b : Breaker) : Breaker :=
  { b with memory := ⟨b.memory.state, b.grown, finished⟩ }

inductive Turning (b : Breaker) : BreakerAction ε α → Turned → Prop where
  | rejected {checked : UInt64} (opened : b.memory.state = .opened) (early : checked.toNat < b.retryAt) :
      Turning b (.enter checked) ⟨b, [.rejected], false⟩
  | admitted {checked : UInt64} (unopened : b.memory.state ≠ .opened) : Turning b (.enter checked) b.stay
  | probing {checked : UInt64} (opened : b.memory.state = .opened) (due : b.retryAt ≤ checked.toNat) :
      Turning b (.enter checked) (b.turn .halfOpen)
  | succeeded {value : α} {finished : UInt64} (unprobing : b.memory.state ≠ .halfOpen) :
      Turning b (.leave (.returned value) finished) b.cleared.stay
  | closing {value : α} {finished : UInt64} (probing : b.memory.state = .halfOpen) :
      Turning b (.leave (.returned value) finished) (b.cleared.turn .closed)
  | counted {error : ε} {finished : UInt64} (unprobing : b.memory.state ≠ .halfOpen)
      (below : b.memory.state = .closed → b.grown < b.rule.threshold.toNat) :
      Turning b (.leave (.failed error) finished) (b.marked finished).stay
  | opening {error : ε} {finished : UInt64} (unopened : b.memory.state ≠ .opened)
      (reached : b.memory.state = .closed → b.rule.threshold.toNat ≤ b.grown) :
      Turning b (.leave (.failed error) finished) ((b.marked finished).turn .opened)
  | panicked {finished : UInt64} : Turning b (.leave .panicked finished) b.stay
  | reset (closed : b.memory.state = .closed) : Turning b .reset { b with memory := .initial }.stay
  | forced (unclosed : b.memory.state ≠ .closed) (returns : (b.turn .closed).unwound = false) :
      Turning b .reset ⟨{ b with memory := .initial }, (b.turn .closed).signals, false⟩
  | unwound (unclosed : b.memory.state ≠ .closed) (panics : (b.turn .closed).unwound = true) :
      Turning b .reset (b.turn .closed)
  | listening {ls : List Listener} : Turning b (.listen ls) (b.listen ls).stay
  | unlistening : Turning b .unlisten b.unlisten.stay
  | swaying {panics : Nat → BreakerState → Bool} : Turning b (.sway panics) (b.swayed panics).stay

theorem enter_turning (b : Breaker) (checked : UInt64) :
    Turning b (.enter checked : BreakerAction ε α) (b.enter checked) := by
  unfold enter
  split
  · next closed => exact .admitted (by simp [closed])
  · next halfOpen => exact .admitted (by simp [halfOpen])
  · next opened =>
    split
    · next early => exact .rejected opened early
    · next due => exact .probing opened (Nat.le_of_not_lt due)

theorem success_turning (b : Breaker) (value : α) (finished : UInt64) :
    Turning b (.leave (.returned value) finished : BreakerAction ε α) b.onSuccess := by
  unfold onSuccess
  dsimp only
  split
  · next probing => exact .closing probing
  · next unprobing => exact .succeeded unprobing

theorem failure_turning (b : Breaker) (error : ε) (finished : UInt64) :
    Turning b (.leave (.failed error) finished : BreakerAction ε α) (b.onFailure (some finished)) := by
  unfold onFailure
  dsimp only
  split
  · next probing => exact .opening (by simp [probing]) (by simp [probing])
  · next closed =>
    split
    · next reached => exact .opening (by simp [closed]) fun _ => reached
    · next below => exact .counted (by simp [closed]) fun _ => Nat.lt_of_not_le below
  · next opened => exact .counted (by simp [opened]) (by simp [opened])

theorem reset_turning (b : Breaker) : Turning b (.reset : BreakerAction ε α) b.reset := by
  unfold Breaker.reset
  split
  · next closed => exact .reset closed
  · next unclosed =>
    dsimp only
    split
    · next panics => exact .unwound unclosed panics
    · next panicless =>
      have returns : (b.turn .closed).unwound = false := Bool.eq_false_iff.mpr panicless
      rw [returns]
      exact .forced unclosed returns

theorem act_turning (b : Breaker) (action : BreakerAction ε α) : Turning b action (b.act action) := by
  cases action with
  | enter checked => exact enter_turning b checked
  | leave attempt finished =>
    cases attempt with
    | returned value => exact success_turning b value finished
    | failed error => exact failure_turning b error finished
    | panicked => exact .panicked
  | reset => exact reset_turning b
  | listen ls => exact .listening
  | unlisten => exact .unlistening
  | sway panics => exact .swaying

theorem entered_unopened (goesOn : b.answer? (.enter checked : BreakerAction ε α) = none) :
    (b.enter checked).breaker.memory.state ≠ .opened := by
  cases state : b.memory.state with
  | closed | halfOpen => simp [enter, stay, state]
  | opened =>
    by_cases early : checked.toNat < b.retryAt
    · simp [answer?, state, early] at goesOn
    · simp [enter, state, early, turn_breaker, inState]

theorem carryOut_settles (b : Breaker) (attempt : Attempt ε α) (finished : UInt64) :
    b.carryOut attempt (some finished) = ⟨(b.settle attempt finished).breaker, (b.settle attempt finished).signals, true,
      if (b.settle attempt finished).unwound then .panicked else attempt.answer⟩ := by
  cases attempt <;> rfl

theorem call_in_two_actions (b : Breaker) (checked : UInt64) (attempt : Attempt ε α) (finished : UInt64) :
    let entered := b.act (.enter checked : BreakerAction ε α)
    let left := entered.breaker.act (.leave attempt finished)
    b.call (some checked) attempt (some finished) =
      match b.answer? (.enter checked : BreakerAction ε α) with
      | some answer => ⟨entered.breaker, entered.signals, false, answer⟩
      | none => ⟨left.breaker, entered.signals ++ left.signals, true,
          if left.unwound then .panicked else attempt.answer⟩ := by
  intro entered left
  have carried : entered.breaker.carryOut attempt (some finished) =
      ⟨left.breaker, left.signals, true, if left.unwound then .panicked else attempt.answer⟩ :=
    carryOut_settles entered.breaker attempt finished
  by_cases opened : b.memory.state = .opened
  · by_cases early : checked.toNat < b.retryAt
    · have rejected : entered = ⟨b, [.rejected], false⟩ := by simp [entered, act, enter, opened, early]
      simp [early_call, answer?, rejected, opened, early]
    · have probing : entered = b.turn .halfOpen := by simp [entered, act, enter, opened, early]
      rw [probing] at carried
      cases panics : (b.turn .halfOpen).unwound <;> simp [call, answer?, enter, probing, opened, early, panics, carried]
  · have admitted : entered = b.stay := by
      cases state : b.memory.state <;> simp_all [entered, act, enter]
    have unanswered : b.answer? (.enter checked : BreakerAction ε α) = none := by
      have returns : (b.enter checked).unwound = false := congrArg Turned.unwound admitted
      simp [answer?, opened, returns]
    rw [unopened_call opened, unanswered, admitted]
    rw [admitted] at carried
    exact carried

end Breaker

namespace BreakerUse

variable {ε α : Type} {s t u : BreakerUse} {action : BreakerAction ε α} {m : BreakerMoment ε α}
  {past earlier later : List (BreakerMoment ε α)} {actions : List (BreakerAction ε α)}

theorem step_inv (stepped : s.step? action = some (m, t)) :
    s.admits action = true ∧ m = ⟨action, s.breaker, s.breaker.act action, s.breaker.answer? action⟩ ∧
      t = ⟨(s.breaker.act action).breaker, s.runsOn action⟩ := by
  unfold step? at stepped
  split at stepped
  · next admitted => cases stepped; exact ⟨admitted, rfl, rfl⟩
  · cases stepped

theorem runs_keep {P : List (BreakerMoment ε α) → BreakerUse → Prop} (first : P [] s)
    (keeps : ∀ {past s action m t}, P past s → s.step? action = some (m, t) → P (past ++ [m]) t)
    (run : Runs s past t) : P past t := by
  suffices further : ∀ {earlier later s t}, P earlier s → Runs s later t → P (earlier ++ later) t from further first run
  intro earlier later s t kept run
  induction run generalizing earlier with
  | nil => rwa [List.append_nil]
  | @cons s t u action m rest stepped _ ih =>
    have whole := ih (keeps kept stepped)
    rwa [List.append_assoc] at whole

-- Behind any first part of a run stands the use that its next moment is of.
theorem runs_at (run : Runs s (earlier ++ m :: later) t) :
    ∃ before after action, Runs s earlier before ∧ before.step? action = some (m, after) := by
  induction earlier generalizing s with
  | nil => cases run with
    | cons stepped _ => exact ⟨_, _, _, .nil, stepped⟩
  | cons first earlier ih => cases run with
    | cons stepped rest =>
      obtain ⟨before, after, action, through, last⟩ := ih rest
      exact ⟨before, after, action, .cons stepped through, last⟩

theorem runs_of_replay (replayed : s.replay? actions = some (past, t)) : Runs s past t := by
  induction actions generalizing s past with
  | nil => cases replayed; exact .nil
  | cons action rest ih =>
    obtain ⟨⟨m, next⟩, stepped, replayed⟩ := Option.bind_eq_some_iff.mp replayed
    obtain ⟨⟨moments, u⟩, replayed, same⟩ := Option.bind_eq_some_iff.mp replayed
    cases same
    exact .cons stepped (ih replayed)

-- A call with nobody between its actions is a run of one of them or both.
theorem call_runs (b : Breaker) (checked : UInt64) (attempt : Attempt ε α) (finished : UInt64) :
    ∃ past : List (BreakerMoment ε α), Runs (start b) past (start (b.call (some checked) attempt (some finished)).breaker) ∧
      (past.flatMap fun m => m.turned.signals) = (b.call (some checked) attempt (some finished)).signals ∧
      past.getLast?.bind BreakerMoment.answer = some (b.call (some checked) attempt (some finished)).answer := by
  have call := Breaker.call_in_two_actions b checked attempt finished
  dsimp only at call
  rw [call]
  cases answered : b.answer? (.enter checked : BreakerAction ε α) with
  | some answer =>
    have stepped : (start b).step? (.enter checked : BreakerAction ε α) =
        some (⟨.enter checked, b, b.act (.enter checked : BreakerAction ε α), some answer⟩,
          start (b.act (.enter checked : BreakerAction ε α)).breaker) := by
      simp [step?, admits, start, runsOn, answered]
    exact ⟨_, .cons stepped .nil, List.append_nil _, rfl⟩
  | none =>
    have entered : (start b).step? (.enter checked : BreakerAction ε α) =
        some (⟨.enter checked, b, b.act (.enter checked : BreakerAction ε α), none⟩,
          ⟨(b.act (.enter checked : BreakerAction ε α)).breaker, true⟩) := by
      simp [step?, admits, start, runsOn, answered]
    have left : BreakerUse.step? (.leave attempt finished) ⟨(b.act (.enter checked : BreakerAction ε α)).breaker, true⟩ =
        some (⟨.leave attempt finished, _, _, _⟩, _) := rfl
    exact ⟨_, .cons entered (.cons left .nil), congrArg _ (List.append_nil _), rfl⟩

end BreakerUse
end GuardedWork
