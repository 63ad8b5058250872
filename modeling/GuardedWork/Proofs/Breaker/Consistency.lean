import GuardedWork.Proofs.Breaker.History
import GuardedWork.Proofs.Breaker.Turnings

namespace GuardedWork

variable {ε α : Type}

namespace BreakerMoment

-- What decides the count anew: an operation that returns, or a reset.
def settles (m : BreakerMoment ε α) : Bool :=
  match m.action with
  | .reset | .leave (.returned _) _ | .leave (.failed _) _ => true
  | _ => false

-- A reset that ends with the panic of a listener.
def cutShort (m : BreakerMoment ε α) : Bool := (m.action matches .reset) && m.turned.unwound

-- Whether the last to settle anything was cut short.
def relapsed (past : List (BreakerMoment ε α)) : Bool := (past.reverse.find? settles).any cutShort

theorem relapsed_concat (past : List (BreakerMoment ε α)) (m : BreakerMoment ε α) :
    relapsed (past ++ [m]) = if m.settles then m.cutShort else relapsed past := by
  rw [relapsed, List.reverse_append, List.reverse_singleton, List.singleton_append, List.find?_cons]
  cases m.settles <;> rfl

end BreakerMoment

namespace BreakerUse

open BreakerMoment (relapsed relapsed_concat)

variable {rule : Rule} {b : Breaker} {s t : BreakerUse} {action : BreakerAction ε α} {m : BreakerMoment ε α}
  {past : List (BreakerMoment ε α)}

structure Sound (rule : Rule) (past : List (BreakerMoment ε α)) (s : BreakerUse) : Prop where
  bound : s.breaker.rule = rule
  reached : rule.threshold.toNat ≤ s.breaker.memory.failures ↔ s.breaker.memory.state ≠ .closed ∨ relapsed past = true
  unopened : s.running = true → s.breaker.memory.state ≠ .opened

theorem step_unopened (stepped : s.step? action = some (m, t))
    (unopened : s.running = true → s.breaker.memory.state ≠ .opened) (running : t.running = true) :
    t.breaker.memory.state ≠ .opened := by
  obtain ⟨_, rfl, rfl⟩ := step_inv stepped
  cases action with
  | enter checked => exact Breaker.entered_unopened (Option.isNone_iff_eq_none.mp running)
  | leave | reset => cases running
  | listen | unlisten | sway => exact unopened running

theorem closed_of_neither {state : BreakerState} (unopened : state ≠ .opened) (unprobing : state ≠ .halfOpen) :
    state = .closed := by
  cases state with
  | closed => rfl
  | halfOpen => exact absurd rfl unprobing
  | opened => exact absurd rfl unopened

theorem grown_reached (reached : b.rule.threshold.toNat ≤ b.memory.failures) : b.rule.threshold.toNat ≤ b.grown :=
  Nat.le_min.mpr ⟨Nat.le_succ_of_le reached, Breaker.threshold_within b⟩

theorem turning_reached {turned : Turned} {answer : Option (Answer ε α)} (positive : b.rule.threshold.toNat ≠ 0)
    (unopened : ∀ attempt finished, action = .leave attempt finished → b.memory.state ≠ .opened)
    (reached : b.rule.threshold.toNat ≤ b.memory.failures ↔ b.memory.state ≠ .closed ∨ relapsed past = true)
    (turning : b.Turning action turned) :
    b.rule.threshold.toNat ≤ turned.breaker.memory.failures ↔
      turned.breaker.memory.state ≠ .closed ∨ relapsed (past ++ [⟨action, b, turned, answer⟩]) = true := by
  rw [relapsed_concat]
  cases turning with
  | rejected | admitted | panicked | listening | unlistening | swaying => exact reached
  | probing opened =>
    have enough := reached.mpr (.inl (by simp [opened]))
    exact iff_of_true enough (.inl (by simp [Breaker.turn_breaker, Breaker.inState]))
  | succeeded unprobing =>
    have closed := closed_of_neither (unopened _ _ rfl) unprobing
    simp [BreakerMoment.settles, BreakerMoment.cutShort, Breaker.stay, Breaker.cleared, closed, positive]
  | closing => simp [BreakerMoment.settles, BreakerMoment.cutShort, Breaker.turn_breaker, Breaker.inState, Breaker.cleared, positive]
  | counted unprobing below =>
    have closed := closed_of_neither (unopened _ _ rfl) unprobing
    have few := below closed
    simp [BreakerMoment.settles, BreakerMoment.cutShort, Breaker.stay, Breaker.marked, closed, few]
  | opening unopened enough =>
    have enough : b.rule.threshold.toNat ≤ b.grown := by
      by_cases closed : b.memory.state = .closed
      · exact enough closed
      · exact grown_reached (reached.mpr (.inl closed))
    exact iff_of_true enough (.inl (by simp [Breaker.turn_breaker, Breaker.inState]))
  | reset | forced =>
    simp [BreakerMoment.settles, BreakerMoment.cutShort, Breaker.stay, BreakerMemory.initial, positive]
  | unwound unclosed panics =>
    have enough := reached.mpr (.inl unclosed)
    exact iff_of_true enough (.inr (by simp [BreakerMoment.settles, BreakerMoment.cutShort, panics]))

theorem turning_rule {turned : Turned} (turning : b.Turning action turned) : turned.breaker.rule = b.rule := by
  cases turning <;> rfl

theorem step_sound (positive : rule.threshold.toNat ≠ 0) (sound : Sound rule past s)
    (stepped : s.step? action = some (m, t)) : Sound rule (past ++ [m]) t := by
  have unopened := step_unopened stepped sound.unopened
  obtain ⟨bound, reached, busy⟩ := sound
  obtain ⟨admitted, rfl, rfl⟩ := step_inv stepped
  have turning := Breaker.act_turning s.breaker action
  have waits : ∀ attempt finished, action = .leave attempt finished → s.breaker.memory.state ≠ .opened := by
    rintro attempt finished rfl
    exact busy admitted
  subst bound
  refine ⟨turning_rule turning, ?_, unopened⟩
  exact turning_reached positive waits reached turning

theorem runs_sound (built : Breaker.ofRule rule = .ok b) (run : Runs (start b) past s) : Sound rule past s := by
  obtain ⟨rfl, _, positive⟩ := Breaker.ofRule_eq built
  have positive : rule.threshold.toNat ≠ 0 := fun zero => positive (UInt32.toNat_inj.mp zero)
  refine runs_keep (P := Sound rule) ⟨rfl, ?_, fun running => by cases running⟩ (step_sound positive) run
  simp [start, BreakerMemory.initial, relapsed, positive]

-- At any moment, also while an operation runs. What a reset leaves behind is decided by its listeners.
theorem consistent_but_for_cut_resets (built : Breaker.ofRule rule = .ok b) (run : Runs (start b) past s) :
    (s.breaker.memory.state ≠ .closed → rule.threshold.toNat ≤ s.breaker.memory.failures) ∧
      (s.breaker.memory.state = .closed →
        (s.breaker.memory.failures < rule.threshold.toNat ↔ relapsed past = false)) ∧
      ∀ (m : BreakerMoment ε α) (t : BreakerUse), s.step? .reset = some (m, t) →
        (m.turned.unwound = false → t.breaker.memory = .initial) ∧
          (m.turned.unwound = true → s.breaker.memory.state ≠ .closed ∧
            t.breaker.memory = { s.breaker.memory with state := .closed } ∧ relapsed (past ++ [m]) = true) := by
  have sound := runs_sound built run
  refine ⟨fun unclosed => sound.reached.mpr (.inl unclosed), ?_, ?_⟩
  · intro closed
    rw [← Nat.not_le, sound.reached, Bool.eq_false_iff]
    simp [closed]
  · intro m t stepped
    obtain ⟨_, rfl, rfl⟩ := step_inv stepped
    have turning : Breaker.Turning s.breaker (.reset : BreakerAction ε α) s.breaker.reset :=
      Breaker.reset_turning s.breaker
    dsimp only [Breaker.act]
    generalize s.breaker.reset = turned at turning
    cases turning with
    | reset closed => exact ⟨fun _ => rfl, nofun⟩
    | forced unclosed returns => exact ⟨fun _ => rfl, nofun⟩
    | unwound unclosed panics =>
      refine ⟨fun returns => absurd panics (by simp [returns]), fun _ => ⟨unclosed, rfl, ?_⟩⟩
      rw [relapsed_concat]
      simp [BreakerMoment.settles, BreakerMoment.cutShort, panics]

-- The listener panics when the breaker closes, so that the reset of the open breaker is cut short.
def fragile : Breaker := ⟨⟨"store", 2, 100⟩, .initial, []⟩

def failing (finished : UInt64) : List (BreakerAction Unit Unit) := [.enter finished, .leave (.failed ()) finished]

def forcedShut : List (BreakerAction Unit Unit) :=
  .listen [⟨"log", fun state => state == .closed⟩] :: failing 10 ++ failing 20 ++ [.reset]

-- A panic makes nothing good, and the next failure opens the breaker at once.
def neverMended : List (BreakerAction Unit Unit) :=
  forcedShut ++ [.enter 30, .leave .panicked 31] ++ failing 40 ++ [.reset, .sway fun _ _ => false]

def fragileAfter (actions : List (BreakerAction Unit Unit)) : List (BreakerMoment Unit Unit) × BreakerUse :=
  (replay? actions (start fragile)).getD ([], start fragile)

theorem forcedShut_runs : Runs (start fragile) (fragileAfter forcedShut).1 (fragileAfter forcedShut).2 := by
  have replayed : replay? forcedShut (start fragile) = some (fragileAfter forcedShut) := rfl
  exact runs_of_replay replayed

theorem neverMended_runs : Runs (start fragile) (fragileAfter neverMended).1 (fragileAfter neverMended).2 := by
  have replayed : replay? neverMended (start fragile) = some (fragileAfter neverMended) := rfl
  exact runs_of_replay replayed

theorem cut_reset_keeps_failures : Breaker.ofRule ⟨"store", 2, 100⟩ = .ok fragile ∧
    Runs (start fragile) (fragileAfter forcedShut).1 (fragileAfter forcedShut).2 ∧
    (fragileAfter forcedShut).2.running = false ∧
    (fragileAfter forcedShut).2.breaker.memory = ⟨.closed, 2, 20⟩ ∧
    ¬((fragileAfter forcedShut).2.breaker.memory.state = .closed →
      (fragileAfter forcedShut).2.breaker.memory.failures < fragile.rule.threshold.toNat) :=
  ⟨rfl, forcedShut_runs, rfl, rfl, by decide⟩

theorem never_mended_consistent : Runs (start fragile) (fragileAfter neverMended).1 (fragileAfter neverMended).2 ∧
    (fragileAfter neverMended).2.breaker.memory = ⟨.closed, 3, 40⟩ ∧ relapsed (fragileAfter neverMended).1 = true ∧
    ∃ m t, (fragileAfter neverMended).2.step? (.reset : BreakerAction Unit Unit) = some (m, t) ∧
      m.turned.unwound = false ∧ t.breaker.memory = .initial := by
  have built : Breaker.ofRule ⟨"store", 2, 100⟩ = .ok fragile := rfl
  have told := consistent_but_for_cut_resets built neverMended_runs
  have unmended : ¬relapsed (fragileAfter neverMended).1 = false := mt (told.2.1 rfl).mpr (by decide)
  exact ⟨neverMended_runs, rfl, (Bool.not_eq_false _).mp unmended, _, _, rfl, rfl, (told.2.2 _ _ rfl).1 rfl⟩

end BreakerUse
end GuardedWork
