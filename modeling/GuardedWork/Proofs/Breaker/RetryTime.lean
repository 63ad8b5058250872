import GuardedWork.Proofs.Breaker.Notices
import GuardedWork.Proofs.Breaker.Window

namespace GuardedWork

variable {ε α : Type}

-- Whether an operation is carried out from here on.
def BreakerMoment.invokes (m : BreakerMoment ε α) : Bool := (m.action matches .enter _) && m.answer.isNone

namespace BreakerUse

open BreakerMoment

variable {rule : Rule} {b : Breaker} {s t u v : BreakerUse} {action : BreakerAction ε α} {m last : BreakerMoment ε α}
  {past later : List (BreakerMoment ε α)} {now reading : UInt64} {memory : BreakerMemory} {notice : BreakerOpen}

-- Behind a rejection, while no operation is invoked and nothing is reset. Only a listener that panics when it
-- is told of a probe takes the breaker out of its open state then.
structure Waiting (rule : Rule) (memory : BreakerMemory) (later : List (BreakerMoment ε α)) (s : BreakerUse) : Prop where
  bound : s.breaker.rule = rule
  resting : s.running = false
  kept : (∀ m ∈ later, m.turned.unwound = false) → s.breaker.memory = memory
  cut : (∃ m ∈ later, m.turned.unwound = true) → s.breaker.memory.state = .halfOpen

theorem rejected_iff (stepped : s.step? (.enter reading) = some (m, t)) :
    m.isRejected = true ↔ s.breaker.memory.state = .opened ∧ reading.toNat < s.breaker.retryAt := by
  obtain ⟨_, rfl, _⟩ := step_inv stepped
  dsimp only [isRejected, Breaker.answer?]
  split
  · next early => simp [early, Answer.isRejected, CallError.isRejected]
  · next through => split <;> simp [through, Answer.isRejected]

theorem rejected_answer (stepped : s.step? (.enter reading) = some (m, t)) (rejected : m.isRejected = true) :
    m.answer = some (.refused (.rejected ⟨s.breaker.rule.name, s.breaker.retryAt - reading.toNat⟩)) := by
  have early := (rejected_iff stepped).mp rejected
  obtain ⟨_, rfl, _⟩ := step_inv stepped
  exact if_pos early

-- A call that invokes nothing is rejected or cut short.
theorem uninvoked_turning (answered : (b.answer? (.enter reading : BreakerAction ε α)).isSome = true) :
    b.enter reading = ⟨b, [.rejected], false⟩ ∨ b.enter reading = b.turn .halfOpen ∧ (b.turn .halfOpen).unwound = true := by
  cases state : b.memory.state with
  | closed | halfOpen => simp [Breaker.answer?, Breaker.enter, Breaker.stay, state] at answered
  | opened =>
    by_cases early : reading.toNat < b.retryAt
    · exact .inl (by simp [Breaker.enter, state, early])
    · have probing : b.enter reading = b.turn .halfOpen := by simp [Breaker.enter, state, early]
      exact .inr ⟨probing, by simpa [Breaker.answer?, probing, early] using answered⟩

theorem step_waiting (waiting : Waiting rule memory later s)
    (stepped : s.step? action = some (m, t)) (uninvoked : m.invokes = false) (unreset : m.byReset = false) :
    Waiting rule memory (later ++ [m]) t := by
  obtain ⟨admitted, rfl, rfl⟩ := step_inv stepped
  obtain ⟨bound, resting, kept, cut⟩ := waiting
  have beside : (s.breaker.act action).breaker.rule = rule → s.runsOn action = false →
      (s.breaker.act action).unwound = false → (s.breaker.act action).breaker.memory = s.breaker.memory →
      Waiting rule memory (later ++ [⟨action, s.breaker, s.breaker.act action, s.breaker.answer? action⟩])
        ⟨(s.breaker.act action).breaker, s.runsOn action⟩ := by
    intro sameRule stillResting returns same
    refine ⟨sameRule, stillResting, ?_, ?_⟩
    · intro all
      rw [same]
      exact kept fun w inside => all w (List.mem_append_left _ inside)
    · rintro ⟨w, inside, panics⟩
      rw [same]
      rcases List.mem_append.mp inside with before | here
      · exact cut ⟨w, before, panics⟩
      · rw [List.mem_singleton.mp here, returns] at panics
        cases panics
  cases action with
  | enter reading =>
    have unstarted : s.runsOn (.enter reading : BreakerAction ε α) = false := uninvoked
    have answered : (s.breaker.answer? (.enter reading : BreakerAction ε α)).isSome = true := by
      simpa [runsOn] using unstarted
    rcases uninvoked_turning answered with rejected | ⟨probing, panics⟩
    · have act : s.breaker.act (.enter reading : BreakerAction ε α) = ⟨s.breaker, [.rejected], false⟩ := rejected
      exact beside (by rw [act]; exact bound) unstarted (by rw [act]) (by rw [act])
    · have act : s.breaker.act (.enter reading : BreakerAction ε α) = s.breaker.turn .halfOpen := probing
      rw [act]
      refine ⟨bound, unstarted, ?_, fun _ => rfl⟩
      intro all
      have returns := all _ (List.mem_append_right _ List.mem_cons_self)
      rw [panics] at returns
      cases returns
  | leave attempt finished =>
    rw [admits, resting] at admitted
    cases admitted
  | reset => cases unreset
  | listen ls => exact beside bound resting rfl rfl
  | unlisten => exact beside bound resting rfl rfl
  | sway panics => exact beside bound resting rfl rfl

theorem runs_waiting (waiting : Waiting rule memory past s) (run : Runs s later t)
    (idle : ∀ m ∈ later, m.invokes = false ∧ m.byReset = false) : Waiting rule memory (past ++ later) t := by
  induction run generalizing past with
  | nil => rwa [List.append_nil]
  | @cons s t u action m rest stepped _ ih =>
    obtain ⟨uninvoked, unreset⟩ := idle m List.mem_cons_self
    have next := step_waiting waiting stepped uninvoked unreset
    have whole := ih next fun w inside => idle w (List.mem_cons_of_mem _ inside)
    rwa [List.append_assoc] at whole

-- The numbers of a rejection, by what the breaker remembers of the last failure.
theorem announced_numbers (early : now.toNat < b.retryAt) :
    1 ≤ b.retryAt - now.toNat ∧ now.toNat + (b.retryAt - now.toNat) = b.rule.reopensAt b.memory.lastFailureMs ∧
      now.toNat + (b.retryAt - now.toNat) ≤ UInt64.size - 1 ∧
      (b.memory.lastFailureMs ≤ now → b.retryAt - now.toNat ≤ b.rule.retryTimeoutMs.toNat) := by
  have whole : now.toNat + (b.retryAt - now.toNat) = b.retryAt := Nat.add_sub_cancel' (Nat.le_of_lt early)
  refine ⟨Nat.sub_pos_of_lt early, whole, ?_, ?_⟩
  · rw [whole]
    exact Nat.min_le_right ..
  · intro behind
    have failed : b.memory.lastFailureMs.toNat ≤ now.toNat := UInt64.le_iff_toNat_le.mp behind
    have most : b.retryAt ≤ b.memory.lastFailureMs.toNat + b.rule.retryTimeoutMs.toNat := Nat.min_le_left ..
    omega

theorem rejected_waiting (bound : s.breaker.rule = rule) (stepped : s.step? (.enter now) = some (m, t))
    (rejected : m.isRejected = true) : Waiting rule s.breaker.memory ([] : List (BreakerMoment ε α)) t := by
  obtain ⟨opened, early⟩ := (rejected_iff stepped).mp rejected
  obtain ⟨admitted, rfl, rfl⟩ := step_inv stepped
  have act : s.breaker.act (.enter now : BreakerAction ε α) = ⟨s.breaker, [.rejected], false⟩ := by
    simp [Breaker.act, Breaker.enter, opened, early]
  rw [act]
  refine ⟨bound, ?_, fun _ => rfl, by simp⟩
  simp [runsOn, Breaker.answer?, opened, early]

theorem waiting_rejects (waiting : Waiting rule memory later s) (opened : memory.state = .opened)
    (stepped : s.step? (.enter reading) = some (m, t)) : m.isRejected = true ↔
      reading.toNat < rule.reopensAt memory.lastFailureMs ∧ ∀ w ∈ later, w.turned.unwound = false := by
  rw [rejected_iff stepped]
  by_cases uncut : ∀ w ∈ later, w.turned.unwound = false
  · have same := waiting.kept uncut
    have retries : s.breaker.retryAt = rule.reopensAt memory.lastFailureMs := by
      rw [Breaker.retryAt, same, waiting.bound]
      rfl
    rw [same, retries]
    exact (and_iff_right opened).trans (and_iff_left uncut).symm
  · have cut : ∃ w ∈ later, w.turned.unwound = true := by simpa using uncut
    simp [waiting.cut cut, uncut]

-- A listener that panics when it is told of a probe has used the window up, although no operation was invoked.
theorem announced_time_exact {m : BreakerMoment ε α} (built : Breaker.ofRule rule = .ok b) (run : Runs (start b) past s)
    (stepped : s.step? (.enter now) = some (m, t)) (rejected : m.answer = some (.refused (.rejected notice))) :
    notice.name = rule.name ∧ 1 ≤ notice.retryInMs ∧
      now.toNat + notice.retryInMs = rule.reopensAt s.breaker.memory.lastFailureMs ∧
      now.toNat + notice.retryInMs ≤ UInt64.size - 1 ∧
      (s.breaker.memory.lastFailureMs ≤ now → notice.retryInMs ≤ rule.retryTimeoutMs.toNat) ∧
      ∀ (later : List (BreakerMoment ε α)) (u : BreakerUse) (reading : UInt64) (last : BreakerMoment ε α) v, Runs t later u →
        (∀ w ∈ later, w.invokes = false ∧ w.byReset = false) → u.step? (.enter reading) = some (last, v) →
        (last.isRejected = true ↔
          reading.toNat < now.toNat + notice.retryInMs ∧ ∀ w ∈ later, w.turned.unwound = false) ∧
        (last.isRejected = true → last.answer =
          some (.refused (.rejected ⟨rule.name, now.toNat + notice.retryInMs - reading.toNat⟩))) := by
  have bound := (runs_sound built run).bound
  have turnedAway : m.isRejected = true := by simp [isRejected, rejected, Answer.isRejected, CallError.isRejected]
  obtain ⟨opened, early⟩ := (rejected_iff stepped).mp turnedAway
  have announced := rejected_answer stepped turnedAway
  rw [rejected] at announced
  cases announced
  obtain ⟨positive, ends, within, short⟩ := announced_numbers early
  rw [bound] at ends short
  refine ⟨congrArg Rule.name bound, positive, ends, within, short, ?_⟩
  intro later u reading last v during idle asked
  have waiting := runs_waiting (rejected_waiting bound stepped turnedAway) during idle
  rw [List.nil_append] at waiting
  have decides := waiting_rejects waiting opened asked
  rw [ends]
  refine ⟨decides, ?_⟩
  intro again
  have same := waiting.kept (decides.mp again).2
  have retries : u.breaker.retryAt = rule.reopensAt s.breaker.memory.lastFailureMs := by
    rw [Breaker.retryAt, same, waiting.bound]
    rfl
  rw [rejected_answer asked again, waiting.bound, retries]

-- A listener that panics when the breaker turns half open, and one failure, at this reading.
def brittle : Breaker := ⟨⟨"store", 1, 100⟩, .initial, []⟩

def brittleFails (finished : UInt64) : List (BreakerAction Unit Unit) :=
  [.listen [⟨"log", fun state => state == .halfOpen⟩], .enter 0, .leave (.failed ()) finished]

def played (actions : List (BreakerAction Unit Unit)) (s : BreakerUse) : List (BreakerMoment Unit Unit) × BreakerUse :=
  (replay? actions s).getD ([], s)

-- The clock steps back behind the call that is cut short, and the breaker does not look at it any more.
theorem cut_probe_ends_window :
    let failed := (played (brittleFails 1000) (start brittle)).2
    let told := (played [.enter 1050] failed).2
    let cut := (played [.enter 1100] told).2
    Breaker.ofRule ⟨"store", 1, 100⟩ = .ok brittle ∧
      Runs (start brittle) (played (brittleFails 1000) (start brittle)).1 failed ∧
      (∃ m : BreakerMoment Unit Unit, failed.step? (.enter 1050) = some (m, told) ∧
        m.answer = some (.refused (.rejected ⟨"store", 50⟩))) ∧
      Runs told (played [.enter 1100] told).1 cut ∧
      (∀ w ∈ (played [.enter 1100] told).1, w.invokes = false ∧ w.byReset = false) ∧
      ∃ (last : BreakerMoment Unit Unit) (v : BreakerUse), cut.step? (.enter 1050) = some (last, v) ∧
        ¬(last.isRejected = true ↔ (1050 : UInt64).toNat < (1050 : UInt64).toNat + 50) := by
  intro failed told cut
  have begun : replay? (brittleFails 1000) (start brittle) = some (played (brittleFails 1000) (start brittle)) := rfl
  have further : replay? [.enter 1100] told = some (played [.enter 1100] told) := rfl
  exact ⟨rfl, runs_of_replay begun, ⟨_, rfl, by decide⟩, runs_of_replay further, by decide, _, _, rfl, by decide⟩

-- So near to the end of the clock that the window ends with its last reading.
def lateWaits : List (BreakerAction Unit Unit) :=
  [.enter 5, .listen [⟨"trace", fun _ => false⟩], .enter 18446744073709551610, .unlisten]

theorem late_announced_exact :
    let failed := (played (brittleFails 18446744073709551600) (start brittle)).2
    let told := (played [.enter 18446744073709551601] failed).2
    let waited := (played lateWaits told).2
    Runs (start brittle) (played (brittleFails 18446744073709551600) (start brittle)).1 failed ∧
      (∃ m : BreakerMoment Unit Unit, failed.step? (.enter 18446744073709551601) = some (m, told) ∧
        m.answer = some (.refused (.rejected ⟨"store", 14⟩))) ∧
      Runs told (played lateWaits told).1 waited ∧
      (∀ w ∈ (played lateWaits told).1, w.invokes = false ∧ w.byReset = false) ∧
      ∃ (last : BreakerMoment Unit Unit) (v : BreakerUse), waited.step? (.enter 18446744073709551614) = some (last, v) ∧
        last.answer = some (.refused (.rejected ⟨"store", 1⟩)) := by
  intro failed told waited
  have built : Breaker.ofRule ⟨"store", 1, 100⟩ = .ok brittle := rfl
  have begun : replay? (brittleFails 18446744073709551600) (start brittle) =
      some (played (brittleFails 18446744073709551600) (start brittle)) := rfl
  have further : replay? lateWaits told = some (played lateWaits told) := rfl
  have idle : ∀ w ∈ (played lateWaits told).1, w.invokes = false ∧ w.byReset = false := by decide
  have during := runs_of_replay further
  have stepped : failed.step? (.enter 18446744073709551601 : BreakerAction Unit Unit) = some (_, told) := rfl
  have rejected : failed.breaker.answer? (.enter 18446744073709551601 : BreakerAction Unit Unit) =
      some (.refused (.rejected ⟨"store", 14⟩)) := by decide
  have asked : waited.step? (.enter 18446744073709551614 : BreakerAction Unit Unit) = some (_, _) := rfl
  have announced := announced_time_exact built (runs_of_replay begun) stepped rejected
  have answers := announced.2.2.2.2.2 _ waited 18446744073709551614 _ _ during idle asked
  have early : (18446744073709551614 : UInt64).toNat < (18446744073709551601 : UInt64).toNat + 14 := by decide
  exact ⟨runs_of_replay begun, ⟨_, stepped, rejected⟩, during, idle, _, _, asked, answers.2 (answers.1.mpr ⟨early, by decide⟩)⟩

end BreakerUse
end GuardedWork
