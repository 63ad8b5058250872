import GuardedWork.Proofs.Breaker.History

namespace GuardedWork

-- A call whose operation fails, if it is carried out at all; with the clock at its look at the breaker, read or
-- not, and at the end of the operation.
structure DownCall (ε : Type) where
  checked : UInt64
  error : ε
  finished : UInt64

-- With what came of it.
abbrev DownEntry (ε α : Type) := DownCall ε × Called ε α

namespace DownEntry

variable {ε α : Type}

def readings (entry : DownEntry ε α) : List UInt64 :=
  entry.1.checked :: if entry.2.invoked then [entry.1.finished] else []

def invokedBy (t : Nat) (entry : DownEntry ε α) : Bool := entry.2.invoked && entry.1.checked.toNat ≤ t

-- Of all the calls in their order.
def Steady (entries : List (DownEntry ε α)) : Prop :=
  (entries.flatMap readings).Pairwise (· ≤ ·) ∧ ∀ reading ∈ entries.flatMap readings, reading.toNat < UInt64.size - 1

def invocations (entries : List (DownEntry ε α)) : List (DownEntry ε α) := entries.filter fun entry => entry.2.invoked

variable {entry other : DownEntry ε α} {entries : List (DownEntry ε α)}

theorem Steady.tail (steady : Steady (entry :: entries)) : Steady entries := by
  obtain ⟨inOrder, early⟩ := steady
  rw [List.flatMap_cons] at inOrder early
  refine ⟨(List.pairwise_append.mp inOrder).2.1, ?_⟩
  intro reading inside
  exact early reading (List.mem_append_right _ inside)

theorem Steady.checked (steady : Steady (entry :: entries)) : entry.1.checked.toNat < UInt64.size - 1 := by
  apply steady.2
  simp [readings]

theorem Steady.finished (steady : Steady (entry :: entries)) (invoked : entry.2.invoked = true) :
    entry.1.checked ≤ entry.1.finished := by
  have inOrder := steady.1
  simp only [List.flatMap_cons, readings, invoked, if_true] at inOrder
  exact List.rel_of_pairwise_cons inOrder (by simp)

theorem Steady.among (steady : Steady (entry :: entries)) (invoked : entry.2.invoked = true) (inside : other ∈ entries)
    (also : other.2.invoked = true) : entry.1.finished ≤ other.1.finished := by
  have inOrder := steady.1
  rw [List.flatMap_cons] at inOrder
  apply (List.pairwise_append.mp inOrder).2.2
  · simp [readings, invoked]
  · exact List.mem_flatMap.mpr ⟨other, inside, by simp [readings, also]⟩

theorem mem_invocations : entry ∈ invocations entries ↔ entry ∈ entries ∧ entry.2.invoked = true := List.mem_filter

-- Of calls whose n-th operation, counted from zero, failed at f and opened the breaker for this timeout.
structure Budget (n f timeout t : Nat) (entries : List (DownEntry ε α)) : Prop where
  least : n + 1 ≤ entries.countP (invokedBy t)
  most : entries.countP (invokedBy t) ≤ n + 1 + (t - f) / timeout
  opened : ∀ i other, n ≤ i → (invocations entries)[i]? = some other → other.2.breaker.memory.state = .opened

variable {n f timeout t : Nat}

theorem invocations_cons (invoked : entry.2.invoked = true) :
    invocations (entry :: entries) = entry :: invocations entries := List.filter_cons_of_pos invoked

theorem count_cons (invoked : entry.2.invoked = true) (within : entry.1.checked.toNat ≤ t) :
    (entry :: entries).countP (invokedBy t) = entries.countP (invokedBy t) + 1 := by
  apply List.countP_cons_of_pos
  simp [invokedBy, invoked, within]

theorem Budget.first (invoked : entry.2.invoked = true) (within : entry.1.checked.toNat ≤ t)
    (opens : entry.2.breaker.memory.state = .opened) (few : entries.countP (invokedBy t) ≤ (t - f) / timeout)
    (stays : ∀ other ∈ entries, other.2.breaker.memory.state = .opened) : Budget 0 f timeout t (entry :: entries) := by
  have count : (entry :: entries).countP (invokedBy t) = entries.countP (invokedBy t) + 1 := count_cons invoked within
  refine ⟨by omega, by omega, ?_⟩
  intro i other _ found
  rw [invocations_cons invoked] at found
  rcases List.mem_cons.mp (List.mem_of_getElem? found) with rfl | inside
  · exact opens
  · exact stays other (mem_invocations.mp inside).1

theorem Budget.before (budget : Budget n f timeout t entries) (invoked : entry.2.invoked = true)
    (within : entry.1.checked.toNat ≤ t) : Budget (n + 1) f timeout t (entry :: entries) := by
  obtain ⟨least, most, opened⟩ := budget
  have count : (entry :: entries).countP (invokedBy t) = entries.countP (invokedBy t) + 1 := count_cons invoked within
  refine ⟨by omega, by omega, ?_⟩
  intro i other above found
  rw [invocations_cons invoked] at found
  cases i with
  | zero => cases above
  | succ i => exact opened i other (Nat.le_of_succ_le_succ above) found

end DownEntry

namespace Breaker

open DownEntry

variable {ε α : Type} {b : Breaker} {c : DownCall ε} {calls : List (DownCall ε)} {entry : DownEntry ε α}
  {entries : List (DownEntry ε α)} {n t : Nat} {f : UInt64} {rule : Rule} {ls : List Listener}

-- One call after the other, as the lock lets them in.
def failingCalls : List (DownCall ε) → Breaker → List (DownEntry ε α)
  | [], _ => []
  | c :: rest, b =>
    let called := b.call (some c.checked) (.failed c.error) (some c.finished)
    (c, called) :: failingCalls rest called.breaker

def afterFailure (b : Breaker) (finished : UInt64) : Breaker := { b with memory :=
  ⟨if b.memory.state = .closed ∧ b.grown < b.rule.threshold.toNat then .closed else .opened, b.grown, finished⟩ }

-- What can come of such a call.
inductive Meets (b : Breaker) (c : DownCall ε) : Called ε α → Prop where
  | rejected (opened : b.memory.state = .opened) (early : c.checked.toNat < b.retryAt) :
      Meets b c ⟨b, [.rejected], false, .refused (.rejected ⟨b.rule.name, b.retryAt - c.checked.toNat⟩)⟩
  | failed {signals : List Signal} (free : b.Free c.checked) :
      Meets b c ⟨b.afterFailure c.finished, signals, true, .refused (.failed c.error)⟩

theorem onFailure_returns (undisturbed : b.Undisturbed) (finished : UInt64) :
    (b.onFailure (some finished)).unwound = false := by
  have returns (memory : BreakerMemory) : (Breaker.turn .opened { b with memory }).unwound = false :=
    turn_returns (b := { b with memory }) undisturbed .opened
  unfold onFailure
  dsimp only
  split
  · exact returns _
  · split
    · exact returns _
    · rfl
  · rfl

theorem carryOut_down (undisturbed : b.Undisturbed) (error : ε) (finished : UInt64) :
    ∃ signals, (b.carryOut (.failed error) (some finished) : Called ε α) =
      ⟨b.afterFailure finished, signals, true, .refused (.failed error)⟩ := by
  refine ⟨(b.onFailure (some finished)).signals, ?_⟩
  simp only [carryOut, onFailure_breaker, onFailure_returns undisturbed, afterFailure]
  rfl

theorem call_meets (undisturbed : b.Undisturbed) (c : DownCall ε) :
    Meets b c (b.call (some c.checked) (.failed c.error) (some c.finished) : Called ε α) := by
  by_cases opened : b.memory.state = .opened
  · by_cases early : c.checked.toNat < b.retryAt
    · rw [early_call opened early]
      exact .rejected opened early
    · have returns := turn_returns undisturbed .halfOpen
      obtain ⟨signals, carried⟩ := carryOut_down (α := α) (b := b.inState .halfOpen) undisturbed c.error c.finished
      have after : (b.inState .halfOpen).afterFailure c.finished = b.afterFailure c.finished := by
        simp [afterFailure, inState, opened, grown]
      simp only [call, opened, if_neg early, returns, turn_breaker, carried, after]
      exact .failed fun _ => Nat.le_of_not_lt early
  · obtain ⟨signals, carried⟩ := carryOut_down undisturbed c.error c.finished
    rw [unopened_call opened, carried]
    exact .failed fun now => absurd now opened

theorem meets_same {called : Called ε α} (meets : Meets b c called) :
    called.breaker.rule = b.rule ∧ called.breaker.listeners = b.listeners := by
  cases meets with
  | rejected => exact ⟨rfl, rfl⟩
  | failed => exact ⟨rfl, rfl⟩

inductive FailingRun : Breaker → List (DownEntry ε α) → Prop where
  | nil {b : Breaker} : FailingRun b []
  | cons {b : Breaker} {c : DownCall ε} {called : Called ε α} {entries : List (DownEntry ε α)}
      (meets : Meets b c called) (rest : FailingRun called.breaker entries) : FailingRun b ((c, called) :: entries)

theorem failingCalls_run (undisturbed : b.Undisturbed) : FailingRun b (failingCalls calls b : List (DownEntry ε α)) := by
  induction calls generalizing b with
  | nil => exact .nil
  | cons c rest ih =>
    have meets := call_meets (α := α) undisturbed c
    refine .cons meets (ih ?_)
    rwa [Undisturbed, (meets_same meets).2]

theorem failingRun_answers (run : FailingRun b entries) : ∀ entry ∈ entries,
    (entry.2.invoked = true → entry.2.answer = .refused (.failed entry.1.error)) ∧
      (entry.2.invoked = false → ∃ ms, entry.2.answer = .refused (.rejected ⟨b.rule.name, ms⟩)) := by
  induction run with
  | nil => simp
  | @cons b c called entries meets rest ih =>
    rw [(meets_same meets).1] at ih
    refine List.forall_mem_cons.mpr ⟨?_, ih⟩
    cases meets with
    | rejected opened early => exact ⟨nofun, fun _ => ⟨_, rfl⟩⟩
    | failed free => exact ⟨fun _ => rfl, nofun⟩

theorem opened_stays (run : FailingRun b entries) (opened : b.memory.state = .opened) :
    ∀ entry ∈ entries, entry.2.breaker.memory.state = .opened := by
  induction run with
  | nil => simp
  | @cons b c called entries meets rest ih =>
    have still : called.breaker.memory.state = .opened := by
      cases meets with
      | rejected opened early => exact opened
      | failed free => simp [afterFailure, opened]
    exact List.forall_mem_cons.mpr ⟨still, ih still⟩

-- A failure uses up a whole timeout of the time that is left.
theorem spent_timeout {T g h : Nat} (timed : 0 < T) (waited : g + T ≤ h) (now : h ≤ t) :
    (t - h) / T + 1 ≤ (t - g) / T := by
  have left : t - g = t - g - T + T := by omega
  rw [left, Nat.add_div_right _ timed]
  exact Nat.succ_le_succ (Nat.div_le_div_right (by omega))

-- No reading is as late as the last one, so that a probe is a whole timeout behind the failure before it.
theorem probe_waits {checked : UInt64} (due : b.retryAt ≤ checked.toNat) (early : checked.toNat < UInt64.size - 1) :
    b.memory.lastFailureMs.toNat + b.rule.retryTimeoutMs.toNat ≤ checked.toNat := by
  rw [retryAt] at due
  omega

theorem opened_budget (run : FailingRun b entries) (timed : 0 < b.rule.retryTimeoutMs.toNat)
    (opened : b.memory.state = .opened) (steady : Steady entries) (t : Nat) :
    entries.countP (invokedBy t) ≤ (t - b.memory.lastFailureMs.toNat) / b.rule.retryTimeoutMs.toNat := by
  induction run with
  | nil => exact Nat.zero_le _
  | @cons b c called entries meets rest ih =>
    have still := opened_stays (.cons meets rest) opened _ List.mem_cons_self
    have same := (meets_same meets).1
    have later := ih (by rwa [same]) still steady.tail
    rw [same] at later
    cases meets with
    | rejected _ early =>
      rw [List.countP_cons_of_neg (by simp [invokedBy])]
      exact later
    | failed free =>
      have waited := probe_waits (free opened) steady.checked
      have ends : c.checked.toNat ≤ c.finished.toNat := steady.finished rfl
      by_cases now : c.checked.toNat ≤ t
      · rw [count_cons rfl now]
        have less := Nat.sub_le_sub_left ends t
        apply Nat.le_trans (Nat.succ_le_succ later)
        apply Nat.le_trans (Nat.succ_le_succ (Nat.div_le_div_right less))
        exact spent_timeout timed waited now
      · rw [List.countP_cons_of_neg (by simp [invokedBy, now])]
        apply Nat.le_trans later
        apply Nat.div_le_div_right
        exact Nat.sub_le_sub_left (Nat.le_trans (Nat.le_of_add_right_le waited) ends) t

theorem closed_meets {called : Called ε α} (meets : Meets b c called) (closed : b.memory.state = .closed) :
    called.invoked = true ∧ called.breaker = b.afterFailure c.finished := by
  cases meets with
  | rejected opened =>
    rw [closed] at opened
    cases opened
  | failed => exact ⟨rfl, rfl⟩

-- With n failures to come before the one that opens the breaker, which is that of this entry.
theorem closed_budget (run : FailingRun b entries) (timed : 0 < b.rule.retryTimeoutMs.toNat)
    (closed : b.memory.state = .closed) (left : b.memory.failures + n + 1 = b.rule.threshold.toNat)
    (steady : Steady entries) (last : (invocations entries)[n]? = some entry)
    (reached : entry.1.finished.toNat ≤ t) :
    Budget n entry.1.finished.toNat b.rule.retryTimeoutMs.toNat t entries := by
  induction run generalizing n with
  | nil => simp [invocations] at last
  | @cons b c called entries meets rest ih =>
    have same := (meets_same meets).1
    obtain ⟨invoked, failed⟩ := closed_meets meets closed
    have ends : c.checked.toNat ≤ c.finished.toNat := steady.finished invoked
    have grows : b.grown = b.memory.failures + 1 := by
      have fits := threshold_within b
      rw [grown]
      omega
    rw [invocations_cons invoked] at last
    cases n with
    | zero =>
      cases last
      have opens : called.breaker.memory.state = .opened := by
        rw [failed]
        exact if_neg fun below => by omega
      have latest : called.breaker.memory.lastFailureMs = c.finished := by rw [failed]; rfl
      have few := opened_budget rest (by rwa [same]) opens steady.tail t
      rw [same, latest] at few
      exact .first invoked (Nat.le_trans ends reached) opens few (opened_stays rest opens)
    | succ n =>
      have shuts : called.breaker.memory.state = .closed := by
        rw [failed]
        exact if_pos ⟨closed, by omega⟩
      have count : called.breaker.memory.failures + n + 1 = called.breaker.rule.threshold.toNat := by
        rw [same, failed]
        simp only [afterFailure]
        omega
      have budget := ih (by rwa [same]) shuts count steady.tail last
      rw [same] at budget
      have inside := mem_invocations.mp (List.mem_of_getElem? last)
      have within : c.finished.toNat ≤ t := Nat.le_trans (steady.among invoked inside.1 inside.2) reached
      exact budget.before invoked (Nat.le_trans ends within)

-- Behind the failure that opens the breaker each further one puts off the next by a whole timeout.
theorem call_budget_kept (built : Breaker.ofRule rule = .ok b) (timed : rule.retryTimeoutMs ≠ 0)
    (returns : ∀ l ∈ ls, ∀ state, l.panicsOn state = false) {kth : DownEntry ε α}
    (steady : Steady (failingCalls calls (b.listen ls) : List (DownEntry ε α)))
    (last : (invocations (failingCalls calls (b.listen ls)))[rule.threshold.toNat - 1]? = some kth)
    (reached : kth.1.finished.toNat ≤ t) :
    let entries : List (DownEntry ε α) := failingCalls calls (b.listen ls)
    (∀ entry ∈ invocations entries, entry.2.answer = .refused (.failed entry.1.error)) ∧
      entries.countP (invokedBy t) ≤
        rule.threshold.toNat + (t - kth.1.finished.toNat) / rule.retryTimeoutMs.toNat ∧
      (t < kth.1.finished.toNat + rule.retryTimeoutMs.toNat →
        entries.countP (invokedBy t) = rule.threshold.toNat) ∧
      (∀ entry ∈ entries, entry.1.checked.toNat ≤ t → entry.2.invoked = false →
        ∃ ms, entry.2.answer = .refused (.rejected ⟨rule.name, ms⟩)) ∧
      ∀ i entry, rule.threshold.toNat ≤ i + 1 → (invocations entries)[i]? = some entry →
        entry.2.breaker.memory.state = .opened := by
  intro entries
  obtain ⟨rfl, _, positive⟩ := ofRule_eq built
  have run : FailingRun (listen ls ⟨rule, .initial, []⟩) entries := failingCalls_run returns
  have answers := failingRun_answers run
  have threshold : 0 < rule.threshold.toNat := Nat.pos_of_ne_zero fun zero => positive (UInt32.toNat_inj.mp zero)
  have timeout : 0 < rule.retryTimeoutMs.toNat := Nat.pos_of_ne_zero fun zero => timed (UInt64.toNat_inj.mp zero)
  have left : 0 + (rule.threshold.toNat - 1) + 1 = rule.threshold.toNat := by omega
  have budget : Budget (rule.threshold.toNat - 1) kth.1.finished.toNat rule.retryTimeoutMs.toNat t entries :=
    closed_budget run timeout rfl left steady last reached
  obtain ⟨least, most, opened⟩ := budget
  rw [Nat.sub_add_cancel threshold] at least most
  refine ⟨?_, most, ?_, ?_, ?_⟩
  · intro entry inside
    obtain ⟨among, invoked⟩ := mem_invocations.mp inside
    exact (answers entry among).1 invoked
  · intro soon
    rw [Nat.div_eq_of_lt (by omega)] at most
    omega
  · intro entry among _ uninvoked
    exact (answers entry among).2 uninvoked
  · intro i entry above found
    exact opened i entry (by omega) found

-- Two failures, and then a probe whenever one is let through; the third probe comes behind the time looked at.
def downRule : Rule := ⟨"store", 2, 100⟩

def downCalls : List (DownCall Unit) :=
  [⟨0, (), 5⟩, ⟨5, (), 10⟩, ⟨50, (), 0⟩, ⟨110, (), 110⟩, ⟨209, (), 0⟩, ⟨210, (), 230⟩, ⟨330, (), 331⟩]

theorem down_budget_kept : ∃ b : Breaker, Breaker.ofRule downRule = .ok b ∧
    let entries : List (DownEntry Unit Unit) := failingCalls downCalls (b.listen [⟨"log", fun _ => false⟩])
    Steady entries ∧ (invocations entries)[1]?.map (fun entry => entry.1.finished) = some 10 ∧
      entries.countP (invokedBy 215) = 4 ∧ entries.countP (invokedBy 215) ≤ 2 + (215 - 10) / 100 ∧
      entries.countP (invokedBy 109) = 2 ∧
      (∀ entry ∈ entries, entry.1.checked.toNat ≤ 215 → entry.2.invoked = false →
        ∃ ms, entry.2.answer = .refused (.rejected ⟨"store", ms⟩)) ∧
      ∀ i entry, 2 ≤ i + 1 → (invocations entries)[i]? = some entry → entry.2.breaker.memory.state = .opened := by
  have built : Breaker.ofRule downRule = .ok ⟨downRule, .initial, []⟩ := rfl
  let entries : List (DownEntry Unit Unit) :=
    failingCalls downCalls (listen [⟨"log", fun _ => false⟩] ⟨downRule, .initial, []⟩)
  have readings : entries.flatMap readings = [0, 5, 5, 10, 50, 110, 110, 209, 210, 230, 330, 331] := rfl
  have steady : Steady entries := by
    rw [Steady, readings]
    exact ⟨by decide, by simp [UInt64.size]⟩
  have kept (t : Nat) (reached : 10 ≤ t) := call_budget_kept (t := t) built (by decide) (by simp) steady rfl reached
  obtain ⟨_, most, _, rejected, opened⟩ := kept 215 (by decide)
  obtain ⟨_, _, settled, _, _⟩ := kept 109 (by decide)
  exact ⟨_, built, steady, rfl, by decide, most, settled (by decide), rejected, opened⟩

end Breaker
end GuardedWork
