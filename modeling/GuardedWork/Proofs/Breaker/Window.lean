import GuardedWork.Proofs.Breaker.Events

namespace GuardedWork

-- The first reading at which a call goes through after a failure at this one.
def Rule.reopensAt (rule : Rule) (reading : UInt64) : Nat :=
  min (reading.toNat + rule.retryTimeoutMs.toNat) (UInt64.size - 1)

def Observed.isReturn : Observed → Bool
  | succeeded | failed _ => true
  | rejected | panicked | reset => false

namespace Breaker

variable {ε α : Type} {b c d : Breaker} {rule : Rule} {ls : List Listener} {events waiting : List (BreakerEvent ε α)}
  {event : BreakerEvent ε α} {history seen : List Observed} {o : Observed} {memory : BreakerMemory}
  {reading checked finished : UInt64} {attempt : Attempt ε α}

-- The last of the events was a failed operation, finished at this reading, and the breaker is open.
def LeftOpen (events : List (BreakerEvent ε α)) (b c : Breaker) (reading : UInt64) : Prop :=
  ∃ history, live events b [] = (c, .failed reading :: history) ∧ c.memory.state = .opened

-- No call is rejected before one has returned.
def LetsThrough (ε α : Type) (b : Breaker) : Prop :=
  ∀ (later : List (BreakerEvent ε α)) (after : Breaker) (seen : List Observed), live later b [] = (after, seen) →
    (∀ o ∈ seen, o.isReturn = false) → (∀ o ∈ seen, o ≠ .rejected) ∧
      ∀ (checked : UInt64) (attempt : Attempt ε α) (finished : UInt64),
        (after.call (some checked) attempt (some finished)).invoked = true

-- What an operation that was carried out leaves behind, as the last of the events.
def Decides (events : List (BreakerEvent ε α)) (b after : Breaker) (finished : UInt64) : Attempt ε α → Prop
  | .failed _ => LeftOpen events b after finished
  | .returned _ => after.memory.state = .closed ∧ after.memory.failures = 0
  | .panicked => LetsThrough ε α after

theorem live_append (first second : List (BreakerEvent ε α)) (b : Breaker) (history : List Observed) :
    live (first ++ second) b history = live second (live first b history).1 (live first b history).2 := by
  induction first generalizing b history with
  | nil => rfl
  | cons event rest ih => exact ih _ _

-- What was seen before comes along and changes nothing.
theorem live_history (events : List (BreakerEvent ε α)) (b : Breaker) (history : List Observed) :
    live events b history = ((live events b []).1, (live events b []).2 ++ history) := by
  induction events generalizing b history with
  | nil => rfl
  | cons event rest ih =>
    rw [live, live, ih _ (_ :: history), ih _ [_]]
    simp

theorem move_reading (move : b.Move event (.failed reading) memory) : memory.lastFailureMs = reading := by
  cases move <;> rfl

theorem live_reading (undisturbed : b.Undisturbed) (lived : live events b [] = (c, .failed reading :: history)) :
    c.memory.lastFailureMs = reading := by
  have kept : (∀ r rest, (live events b []).2 = .failed r :: rest → (live events b []).1.memory.lastFailureMs = r) ∧
      (live events b []).1.Undisturbed := by
    refine live_keep (P := fun c seen => ∀ r rest, seen = .failed r :: rest → c.memory.lastFailureMs = r) events
      undisturbed (by simp) ?_
    intro b history event seen memory _ move r rest latest
    cases latest
    exact move_reading move
  rw [lived] at kept
  exact kept.1 reading history rfl

theorem live_rule (events : List (BreakerEvent ε α)) (undisturbed : b.Undisturbed) (history : List Observed) :
    (live events b history).1.rule = b.rule ∧ (live events b history).1.Undisturbed :=
  live_keep (P := fun c _ => c.rule = b.rule) events undisturbed rfl fun same _ => same

theorem live_rejected (undisturbed : c.Undisturbed) (waited : live waiting c [] = (d, seen))
    (quiet : ∀ o ∈ seen, o = .rejected) : d = c := by
  have kept : ((∀ o ∈ (live waiting c []).2, o = .rejected) → (live waiting c []).1 = c) ∧
      (live waiting c []).1.Undisturbed := by
    refine live_keep (P := fun d seen => (∀ o ∈ seen, o = .rejected) → d = c) waiting undisturbed (fun _ => rfl) ?_
    intro b history event seen memory before move quiet
    have same := before fun o member => quiet o (List.mem_cons_of_mem _ member)
    cases quiet seen List.mem_cons_self
    cases move
    exact same
  rw [waited] at kept
  exact kept.1 quiet

theorem unopened_move (unopened : b.memory.state ≠ .opened) (move : b.Move event o memory) (unreturned : o.isReturn = false) :
    o ≠ .rejected ∧ memory.state ≠ .opened := by
  cases move with
  | rejected opened => exact absurd opened unopened
  | panicked closed => exact ⟨by simp, unopened⟩
  | probePanicked => exact ⟨by simp, by simp⟩
  | reset => exact ⟨by simp, by simp [BreakerMemory.initial]⟩
  | succeeded | counted | tripped | probeFailed => cases unreturned

theorem unopened_through (undisturbed : b.Undisturbed) (unopened : b.memory.state ≠ .opened) : LetsThrough ε α b := by
  intro later after seen lived unreturned
  have kept : ((∀ o ∈ (live later b []).2, o.isReturn = false) →
      (live later b []).1.memory.state ≠ .opened ∧ ∀ o ∈ (live later b []).2, o ≠ .rejected) ∧
      (live later b []).1.Undisturbed := by
    refine live_keep (P := fun b seen => (∀ o ∈ seen, o.isReturn = false) →
      b.memory.state ≠ .opened ∧ ∀ o ∈ seen, o ≠ .rejected) later undisturbed (fun _ => ⟨unopened, by simp⟩) ?_
    intro b history event seen memory before move unreturned
    obtain ⟨closed, none⟩ := before fun o member => unreturned o (List.mem_cons_of_mem _ member)
    obtain ⟨through, still⟩ := unopened_move closed move (unreturned seen List.mem_cons_self)
    exact ⟨still, List.forall_mem_cons.mpr ⟨through, none⟩⟩
  rw [lived] at kept
  obtain ⟨still, none⟩ := kept.1 unreturned
  refine ⟨none, ?_⟩
  intro checked attempt finished
  rw [unopened_call still]
  exact carryOut_invoked

theorem opened_invoked (undisturbed : b.Undisturbed) (opened : b.memory.state = .opened) :
    (b.call (some checked) attempt (some finished)).invoked = false ↔ checked.toNat < b.retryAt := by
  by_cases early : checked.toNat < b.retryAt
  · simp [early_call opened early, early]
  · have through := (probe_call undisturbed opened (Nat.le_of_not_lt early) attempt finished).1
    simp [through, early]

theorem leftOpen_later (failed : LeftOpen events b c reading) (waited : live waiting c [] = (d, seen))
    (invoked : (d.call (some checked) attempt (some finished)).invoked = true)
    (again : (d.call (some checked) attempt (some finished)).breaker.memory.state = .opened)
    (observed : attempt.observed finished = .failed finished) :
    LeftOpen (events ++ waiting ++ [.call checked attempt finished]) b
      (d.call (some checked) attempt (some finished)).breaker finished := by
  obtain ⟨history, lived, _⟩ := failed
  refine ⟨seen ++ .failed reading :: history, ?_, again⟩
  rw [live_append, live_append, lived, live_history waiting, waited]
  simp [live, meet, invoked, observed]

theorem probe_decides (undisturbed : d.Undisturbed) (opened : d.memory.state = .opened)
    (failed : LeftOpen events b c reading) (waited : live waiting c [] = (d, seen))
    (due : d.retryAt ≤ checked.toNat) (attempt : Attempt ε α) (finished : UInt64) :
    Decides (events ++ waiting ++ [.call checked attempt finished]) b
      (d.call (some checked) attempt (some finished)).breaker finished attempt := by
  obtain ⟨invoked, after⟩ := probe_call undisturbed opened due attempt finished
  cases attempt with
  | failed error =>
    refine leftOpen_later failed waited invoked ?_ rfl
    rw [after]
    simp [carryOut, onFailure_breaker, inState]
  | returned value =>
    rw [Decides, after]
    simp [carryOut, onSuccess_breaker, inState]
  | panicked =>
    rw [after]
    exact unopened_through undisturbed (by simp [carryOut, stay, inState])

theorem open_window_kept (built : Breaker.ofRule rule = .ok b)
    (returns : ∀ l ∈ ls, ∀ state, l.panicsOn state = false) (failed : LeftOpen events (b.listen ls) c reading)
    (waited : live waiting c [] = (d, seen)) (quiet : ∀ o ∈ seen, o = .rejected) (checked : UInt64)
    (attempt : Attempt ε α) (finished : UInt64) :
    let called := d.call (some checked) attempt (some finished)
    d = c ∧ (called.invoked = false ↔ checked.toNat < rule.reopensAt reading) ∧
      (called.invoked = false → called.breaker = d ∧ called.signals = [.rejected] ∧
        called.answer = .refused (.rejected ⟨rule.name, rule.reopensAt reading - checked.toNat⟩)) ∧
      (called.invoked = true → Decides (events ++ waiting ++ [.call checked attempt finished]) (b.listen ls)
        called.breaker finished attempt) := by
  intro called
  obtain ⟨rfl, _, _⟩ := ofRule_eq built
  have ⟨history, lived, opened⟩ := failed
  have whole := live_rule events (b := listen ls ⟨rule, .initial, []⟩) returns []
  rw [lived] at whole
  obtain ⟨sameRule, undisturbed⟩ := whole
  have same := live_rejected undisturbed waited quiet
  have retries : d.retryAt = rule.reopensAt reading := by
    rw [same, retryAt, live_reading (b := listen ls ⟨rule, .initial, []⟩) returns lived, sameRule]
    rfl
  have invoked : called.invoked = false ↔ checked.toNat < rule.reopensAt reading := by
    rw [← retries]
    exact opened_invoked (same ▸ undisturbed) (same ▸ opened)
  refine ⟨same, invoked, ?_, ?_⟩
  · intro rejected
    have early : checked.toNat < d.retryAt := retries ▸ invoked.mp rejected
    have answer := early_call (same ▸ opened) early attempt finished
    rw [retries, same, sameRule, ← same] at answer
    simp only [called, answer]
    exact ⟨trivial, trivial, rfl⟩
  · intro through
    have due : d.retryAt ≤ checked.toNat := by
      rw [retries, ← Nat.not_lt, ← invoked, through]
      simp
    exact probe_decides (same ▸ undisturbed) (same ▸ opened) failed waited due attempt finished

-- One failure opens it, so near to the end of the clock that only its last reading lets a probe through.
def lateRule : Rule := ⟨"store", 1, 100⟩

def lateFailure : BreakerEvent Unit Unit := .call 0 (.failed ()) 18446744073709551600

def lateWaiting : List (BreakerEvent Unit Unit) :=
  [.call 18446744073709551601 (.returned ()) 0, .call 18446744073709551614 .panicked 0]

theorem late_window_kept : ∃ b c d : Breaker, ∃ seen, Breaker.ofRule lateRule = .ok b ∧
    LeftOpen [lateFailure] (b.listen [⟨"log", fun _ => false⟩]) c 18446744073709551600 ∧
    live lateWaiting c [] = (d, seen) ∧ seen = [.rejected, .rejected] ∧ d = c ∧
    lateRule.reopensAt 18446744073709551600 = 18446744073709551615 ∧
    (d.call (some 18446744073709551614) (.panicked : Attempt Unit Unit) (some 0)).invoked = false ∧
    LeftOpen ([lateFailure] ++ lateWaiting ++ [.call 18446744073709551615 (.failed ()) 7])
      (b.listen [⟨"log", fun _ => false⟩])
      (d.call (some 18446744073709551615) (.failed () : Attempt Unit Unit) (some 7)).breaker 7 ∧
    LetsThrough Unit Unit (d.call (some 18446744073709551615) (.panicked : Attempt Unit Unit) (some 7)).breaker := by
  have built : Breaker.ofRule lateRule = .ok ⟨lateRule, .initial, []⟩ := rfl
  have failed : LeftOpen [lateFailure] (listen [⟨"log", fun _ => false⟩] ⟨lateRule, .initial, []⟩)
      (live [lateFailure] (listen [⟨"log", fun _ => false⟩] ⟨lateRule, .initial, []⟩) []).1 18446744073709551600 :=
    ⟨[], rfl, rfl⟩
  have waited : live lateWaiting
      (live [lateFailure] (listen [⟨"log", fun _ => false⟩] ⟨lateRule, .initial, []⟩) []).1 [] = (_, _) := rfl
  have kept := open_window_kept built (by simp) failed waited (by decide)
  refine ⟨_, _, _, _, built, failed, waited, rfl, (kept 0 .panicked 0).1, rfl, ?_, ?_, ?_⟩
  · exact (kept 18446744073709551614 .panicked 0).2.1.mpr (by decide)
  · exact (kept 18446744073709551615 (.failed ()) 7).2.2.2 rfl
  · exact (kept 18446744073709551615 .panicked 7).2.2.2 rfl

end Breaker
end GuardedWork
