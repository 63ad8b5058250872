import GuardedWork.Clock
import GuardedWork.Proofs.Breaker.Consistency

namespace GuardedWork

variable {ε α : Type}

-- The reading at the last failure that still counts.
def BreakerMoment.failing (known : Option UInt64) (m : BreakerMoment ε α) : Option UInt64 :=
  match m.action with
  | .leave (.failed _) finished => some finished
  | .reset => if m.turned.unwound then known else none
  | _ => known

def BreakerMoment.lastFailed (past : List (BreakerMoment ε α)) : Option UInt64 := past.foldl failing none

-- Whether the breaker turned half open for the call.
def Called.letThrough (c : Called ε α) : Bool :=
  c.signals.any fun
    | .changed .opened .halfOpen _ => true
    | _ => false

namespace Clock

-- Whole milliseconds since the epoch.
def millis (c : Clock) : Nat := c.nanos.toNat / 1000000

variable {c : Clock}

theorem reading_millis (since : 0 ≤ c.nanos) (within : c.millis < UInt64.size) : c.reading.toNat = c.millis := by
  have whole : c.nanos.tdiv nanosPerMilli = c.millis := by
    rw [Int.tdiv_eq_ediv_of_nonneg since]
    simp only [millis, nanosPerMilli]
    omega
  have fits : (c.nanos.tdiv nanosPerMilli % (UInt64.size : Int)).toNat = c.millis := by
    rw [whole, Int.emod_eq_of_lt (Int.natCast_nonneg _) (Int.ofNat_lt.mpr within), Int.toNat_natCast]
  rw [reading, fits]
  exact UInt64.toNat_ofNat_of_lt within

end Clock

namespace Duration

variable {d : Duration}

theorem clampedMillis_toNat (d : Duration) : d.clampedMillis.toNat = min (d.totalNanos / 1000000) (UInt64.size - 1) := by
  apply UInt64.toNat_ofNat_of_lt
  exact Nat.lt_of_le_of_lt (Nat.min_le_right ..) (by decide)

end Duration

namespace Breaker

variable {b : Breaker} {checked finished : Option UInt64} {attempt : Attempt ε α} {now : UInt64}

theorem due_call (opened : b.memory.state = .opened) (due : b.retryAt ≤ now.toNat) :
    (b.call (some now) attempt finished).letThrough = true ∧
      (b.call (some now) attempt finished).invoked = !(b.turn .halfOpen).unwound := by
  have late : ¬now.toNat < b.retryAt := Nat.not_lt.mpr due
  have announced : (b.turn .halfOpen).signals = .changed .opened .halfOpen b.memory.failures :: (b.turn .halfOpen).signals.tail := by
    rw [← opened]
    rfl
  cases panics : (b.turn .halfOpen).unwound with
  | true =>
    simp only [call, opened, if_neg late, panics, if_true, Called.letThrough]
    rw [announced]
    exact ⟨rfl, rfl⟩
  | false =>
    simp only [call, opened, if_neg late, panics, Bool.false_eq_true, if_false, Called.letThrough]
    rw [announced]
    exact ⟨rfl, carryOut_invoked⟩

theorem unread_call (opened : b.memory.state = .opened) : b.call none attempt finished = ⟨b, [], false, .panicked⟩ := by
  simp [call, opened]

theorem rejected_call (opened : b.memory.state = .opened) (early : now.toNat < b.retryAt) :
    (b.call (some now) attempt finished).letThrough = false := by
  simp [call, opened, early, Called.letThrough]

theorem letThrough_iff (opened : b.memory.state = .opened) : (b.call checked attempt finished).letThrough = true ↔
    ∃ now, checked = some now ∧ b.retryAt ≤ now.toNat := by
  cases checked with
  | none => simp [unread_call opened, Called.letThrough]
  | some now =>
    by_cases early : now.toNat < b.retryAt
    · simp [rejected_call opened early, early]
    · simp [due_call opened (Nat.le_of_not_lt early), Nat.le_of_not_lt early]

end Breaker

namespace BreakerUse

open BreakerMoment

variable {rule : Rule} {b : Breaker} {s t : BreakerUse} {action : BreakerAction ε α} {m : BreakerMoment ε α}
  {past : List (BreakerMoment ε α)} {reading : UInt64} {k : UInt32} {d : Duration} {f n : Clock}

theorem step_remembers (known : ∀ r, lastFailed past = some r → s.breaker.memory.lastFailureMs = r)
    (stepped : s.step? action = some (m, t)) (r : UInt64) (failed : lastFailed (past ++ [m]) = some r) :
    t.breaker.memory.lastFailureMs = r := by
  rw [lastFailed, List.foldl_append] at failed
  obtain ⟨_, rfl, rfl⟩ := step_inv stepped
  have turning := Breaker.act_turning s.breaker action
  dsimp only at turning ⊢
  generalize s.breaker.act action = turned at turning failed
  cases turning with
  | counted | opening => exact Option.some.inj failed
  | reset | forced => cases failed
  | unwound _ panics =>
    exact known r ((if_pos panics).symm.trans failed)
  | _ => exact known r failed

theorem runs_remember (run : Runs (start b) past s)
    (failed : lastFailed past = some reading) : s.breaker.memory.lastFailureMs = reading := by
  refine runs_keep (P := fun past s => ∀ r, lastFailed past = some r → s.breaker.memory.lastFailureMs = r) nofun ?_ run
    reading failed
  intro past s action m t known stepped r failed
  exact step_remembers known stepped r failed

-- The clamp and the saturated sum only matter where no reading is late enough anyway.
theorem due_millis {timeout failure check : Nat} (within : check < UInt64.size - 1) :
    min (failure + min timeout (UInt64.size - 1)) (UInt64.size - 1) ≤ check ↔ failure + timeout ≤ check := by
  omega

theorem letThrough_millis (built : Breaker.ofRule (.ofDuration Rule.standardName k d) = .ok b)
    (run : Runs (start b) past s) (failed : lastFailed past = some reading) (recorded : f.reading? = some reading)
    (opened : s.breaker.memory.state = .opened) (since : 0 ≤ f.nanos) (later : f.nanos ≤ n.nanos)
    (within : n.millis < UInt64.size - 1) (attempt : Attempt ε α) (finished : Option UInt64) :
    (s.breaker.call n.reading? attempt finished).letThrough = true ↔
      n.hasDate = true ∧ f.millis + d.totalNanos / 1000000 ≤ n.millis := by
  have before : f.millis ≤ n.millis := Nat.div_le_div_right (Int.toNat_le_toNat later)
  have fits : n.millis < UInt64.size := Nat.lt_of_lt_of_le within (Nat.sub_le ..)
  have failure : s.breaker.memory.lastFailureMs.toNat = f.millis := by
    rw [runs_remember run failed]
    obtain ⟨_, same⟩ := Option.ite_none_right_eq_some.mp recorded
    cases same
    exact Clock.reading_millis since (Nat.lt_of_le_of_lt before fits)
  have retries : s.breaker.retryAt = min (f.millis + min (d.totalNanos / 1000000) (UInt64.size - 1)) (UInt64.size - 1) := by
    rw [Breaker.retryAt, failure, (runs_sound built run).bound, Rule.ofDuration, Duration.clampedMillis_toNat]
  rw [Breaker.letThrough_iff opened, retries, Clock.reading?]
  cases dated : n.hasDate with
  | false => simp
  | true =>
    have checked := Clock.reading_millis (Int.le_trans since later) fits
    simpa only [if_true, Option.some.injEq, exists_eq_left', checked, true_and] using due_millis within

-- An instant without a date, past the year 9999, cannot be looked at, and the call that tries to panics.
theorem elapsed_within_two_millis (built : Breaker.ofRule (.ofDuration Rule.standardName k d) = .ok b)
    (run : Runs (start b) past s) (failed : lastFailed past = some reading) (recorded : f.reading? = some reading)
    (opened : s.breaker.memory.state = .opened) (since : 0 ≤ f.nanos) (later : f.nanos ≤ n.nanos)
    (within : n.millis < UInt64.size - 1) (attempt : Attempt ε α) (finished : Option UInt64) :
    let called := s.breaker.call n.reading? attempt finished
    (n.hasDate = true → (d.totalNanos : Int) ≤ n.nanos - f.nanos → called.letThrough = true) ∧
      (n.hasDate = false → called = ⟨s.breaker, [], false, .panicked⟩) ∧
      (called.letThrough = true → called.invoked = !(s.breaker.turn .halfOpen).unwound) ∧
      (called.letThrough = true → (d.totalNanos : Int) - 2 * 1000000 < n.nanos - f.nanos) ∧
      (called.letThrough = true → d.totalNanos % 1000000 = 0 → (d.totalNanos : Int) - 1000000 < n.nanos - f.nanos) ∧
      ((UInt64.size - 1) * 1000000 < d.totalNanos → called.letThrough = false) := by
  intro called
  have decided : called.letThrough = true ↔ n.hasDate = true ∧ f.millis + d.totalNanos / 1000000 ≤ n.millis :=
    letThrough_millis built run failed recorded opened since later within attempt finished
  simp only [Clock.millis] at decided within
  refine ⟨?_, ?_, ?_, ?_, ?_, ?_⟩
  · intro dated elapsed
    exact decided.mpr ⟨dated, by omega⟩
  · intro undated
    have unread : n.reading? = none := if_neg (Bool.eq_false_iff.mp undated)
    simp only [called, unread]
    exact Breaker.unread_call opened
  · intro through
    obtain ⟨now, checked, due⟩ := (Breaker.letThrough_iff opened).mp through
    simp only [called, checked]
    exact (Breaker.due_call opened due).2
  · intro through
    have due := (decided.mp through).2
    omega
  · intro through whole
    have due := (decided.mp through).2
    omega
  · intro huge
    apply Bool.eq_false_iff.mpr
    intro through
    have due := (decided.mp through).2
    have timeout : UInt64.size - 1 ≤ d.totalNanos / 1000000 := (Nat.le_div_iff_mul_le (by decide)).mpr (Nat.le_of_lt huge)
    omega

-- One failure opens it, observed right behind the operation.
def impatient (timeout : Duration) : Breaker := ⟨.ofDuration Rule.standardName 1 timeout, .initial, []⟩

def failedAt (reading : UInt64) (timeout : Duration) : List (BreakerMoment Unit Unit) × BreakerUse :=
  (replay? [.enter 0, .leave (.failed ()) reading] (start (impatient timeout))).getD ([], start (impatient timeout))

-- The first instant of the year 10000.
def undated : Clock := ⟨253402300800000000000⟩

theorem undated_check_panics :
    Breaker.ofRule (.ofDuration Rule.standardName 1 ⟨0, 1000000⟩) = .ok (impatient ⟨0, 1000000⟩) ∧
      Runs (start (impatient ⟨0, 1000000⟩)) (failedAt 0 ⟨0, 1000000⟩).1 (failedAt 0 ⟨0, 1000000⟩).2 ∧
      lastFailed (failedAt 0 ⟨0, 1000000⟩).1 = some 0 ∧ Clock.reading? ⟨0⟩ = some 0 ∧
      (failedAt 0 ⟨0, 1000000⟩).2.breaker.memory.state = .opened ∧ undated.millis < UInt64.size - 1 ∧
      ((⟨0, 1000000⟩ : Duration).totalNanos : Int) ≤ undated.nanos - 0 ∧
      ((failedAt 0 ⟨0, 1000000⟩).2.breaker.call undated.reading? (.returned () : Attempt Unit Unit) none).letThrough = false ∧
      ((failedAt 0 ⟨0, 1000000⟩).2.breaker.call undated.reading? (.returned () : Attempt Unit Unit) none).answer = .panicked := by
  have replayed : replay? [.enter 0, .leave (.failed ()) 0] (start (impatient ⟨0, 1000000⟩)) =
      some (failedAt 0 ⟨0, 1000000⟩) := rfl
  exact ⟨rfl, runs_of_replay replayed, rfl, by decide, rfl, by decide, by decide, by decide, by decide⟩

-- One nanosecond on, where the timeout is one short of two milliseconds.
theorem hasty_within_two_millis :
    let failed := (failedAt 0 ⟨0, 1999999⟩).2
    let called := failed.breaker.call (Clock.reading? ⟨1000000⟩) (.returned () : Attempt Unit Unit) none
    Runs (start (impatient ⟨0, 1999999⟩)) (failedAt 0 ⟨0, 1999999⟩).1 failed ∧
      Clock.reading? ⟨999999⟩ = some 0 ∧ called.letThrough = true ∧ called.invoked = true ∧
      ((⟨0, 1999999⟩ : Duration).totalNanos : Int) - 2 * 1000000 < 1000000 - 999999 := by
  intro failed called
  have replayed : replay? [.enter 0, .leave (.failed ()) 0] (start (impatient ⟨0, 1999999⟩)) =
      some (failedAt 0 ⟨0, 1999999⟩) := rfl
  have run := runs_of_replay replayed
  have built : Breaker.ofRule (.ofDuration Rule.standardName 1 ⟨0, 1999999⟩) = .ok (impatient ⟨0, 1999999⟩) := rfl
  have through : called.letThrough = true := by decide
  have recorded : Clock.reading? ⟨999999⟩ = some 0 := by decide
  have elapsed := elapsed_within_two_millis (f := ⟨999999⟩) (n := ⟨1000000⟩) built run rfl recorded rfl (by decide)
    (by decide) (by decide) (.returned () : Attempt Unit Unit) none
  exact ⟨run, recorded, through, elapsed.2.2.1 through, elapsed.2.2.2.1 through⟩

end BreakerUse
end GuardedWork
