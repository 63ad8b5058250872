import GuardedWork.Batch
import GuardedWork.Breaker.Configured
import GuardedWork.Config.Among

namespace GuardedWork

variable {α β ρ : Type} {first s : Settings} {log : List LockEntry}

namespace LockEntry

theorem lastInPlace_mem (first : Settings) (log more : List LockEntry) :
    lastInPlace first log ∈ inPlace first (log ++ more) := by
  induction log generalizing first with
  | nil => exact List.mem_cons_self
  | cons e rest ih =>
    have later := ih (e.written?.getD first)
    change lastInPlace (e.written?.getD first) rest ∈ inPlace first (e :: (rest ++ more))
    unfold inPlace at later ⊢
    cases written : e.written? with
    | none => simpa [written] using later
    | some s => simpa [written] using Or.inr later

theorem lastInPlace_append (first : Settings) (log more : List LockEntry) :
    lastInPlace first (log ++ more) = lastInPlace (lastInPlace first log) more := List.foldl_append

theorem lastInPlace_unwritten (unwritten : ∀ e ∈ log, e.use = .read) : lastInPlace first log = first := by
  unfold lastInPlace
  induction log with
  | nil => rfl
  | cons e rest ih =>
    obtain ⟨reads, later⟩ := List.forall_mem_cons.mp unwritten
    have nothing : e.written? = none := by rw [written?, reads]
    rw [List.foldl_cons, nothing]
    exact ih later

end LockEntry

namespace CallAmong

open LockEntry (inPlace lastInPlace)

variable {c d : CallAmong α} {now : List LockEntry} {next : Settings → Procedure α} {result : α} {i : Nat}

theorem step_settings {p q : Procedure β} {w v : Shared} {x : Option Effect} (own : Bool)
    (stepped : p.step? w = some (q, v, x)) : v.settings = lastInPlace w.settings (entryOf? own p v).toList := by
  cases p <;> cases stepped <;> rfl

theorem step_own (reads : c.call = .readSettings next) (stepped : c.step? .own = some (d, now)) :
    now = [⟨true, .read, c.shared.settings⟩] ∧ d.shared = c.shared ∧ d.call = next c.shared.settings := by
  unfold step? at stepped
  rw [reads] at stepped
  cases stepped
  exact ⟨rfl, rfl, rfl⟩

theorem step_other (stepped : c.step? (.other i) = some (d, now)) :
    d.call = c.call ∧ d.shared.settings = lastInPlace c.shared.settings now ∧ ∀ e ∈ now, e.own = false := by
  obtain ⟨q, _, stepped⟩ := Option.bind_eq_some_iff.mp stepped
  obtain ⟨⟨p, w, x⟩, moved, same⟩ := Option.bind_eq_some_iff.mp stepped
  cases same
  refine ⟨rfl, step_settings false moved, fun e member => ?_⟩
  obtain ⟨use, _, same⟩ := Option.map_eq_some_iff.mp (Option.mem_toList.mp member)
  exact same ▸ rfl

theorem runs_of_replay (movers : List Mover) (replayed : c.replay? movers = some (log, d)) : Runs c log d := by
  induction movers generalizing c log with
  | nil => cases replayed; exact .nil
  | cons mover movers ih =>
    obtain ⟨⟨e, now⟩, stepped, replayed⟩ := Option.bind_eq_some_iff.mp replayed
    obtain ⟨⟨later, _⟩, replayed, same⟩ := Option.bind_eq_some_iff.mp replayed
    cases same
    exact .cons stepped (ih replayed)

theorem runs_done (run : Runs c log d) (done : c.call = .done result) :
    d.call = .done result ∧ ∀ e ∈ log, e.own = false := by
  induction run with
  | nil => exact ⟨done, nofun⟩
  | @cons c d _ mover now later stepped _ ih =>
    cases mover with
    | own =>
      unfold step? at stepped
      rw [done] at stepped
      cases stepped
    | other i =>
      obtain ⟨same, _, theirs⟩ := step_other stepped
      obtain ⟨ended, rest⟩ := ih (same.trans done)
      exact ⟨ended, fun e member => (List.mem_append.mp member).elim (theirs e) (rest e)⟩

-- Up to its next reading a call only waits.
theorem runs_reading (run : Runs c log d) (reads : c.call = .readSettings next) (ended : d.call = .done result) :
    ∃ before later m, log = before ++ ⟨true, .read, lastInPlace c.shared.settings before⟩ :: later ∧
      (∀ e ∈ before, e.own = false) ∧ Runs m later d ∧
      m.shared.settings = lastInPlace c.shared.settings before ∧
      m.call = next (lastInPlace c.shared.settings before) := by
  induction run with
  | nil => rw [reads] at ended; cases ended
  | @cons c e _ mover now later stepped rest ih =>
    cases mover with
    | own =>
      obtain ⟨rfl, shared, moves⟩ := step_own reads stepped
      exact ⟨[], later, e, rfl, nofun, rest, congrArg Shared.settings shared, moves⟩
    | other i =>
      obtain ⟨same, settings, theirs⟩ := step_other stepped
      obtain ⟨before, after, m, parts, aside, run, placed, moves⟩ := ih (same.trans reads) ended
      have through : lastInPlace e.shared.settings before = lastInPlace c.shared.settings (now ++ before) := by
        rw [settings, LockEntry.lastInPlace_append]
      rw [through] at parts placed moves
      refine ⟨now ++ before, after, m, ?_, fun x member => ?_, run, placed, moves⟩
      · rw [parts, List.append_assoc]
      · exact (List.mem_append.mp member).elim (theirs x) (aside x)

-- Read at two times, at which these were in place.
def ReadInTurn (first : Settings) (log : List LockEntry) (s t : Settings) : Prop :=
  ∃ before between after, log = before ++ ⟨true, .read, s⟩ :: (between ++ ⟨true, .read, t⟩ :: after) ∧
    (∀ e ∈ before ++ between ++ after, e.own = false) ∧
    s = lastInPlace first before ∧ t = lastInPlace s between ∧ ((∀ e ∈ between, e.use = .read) → s = t)

theorem runs_reading_twice {make : Settings → Settings → α} (run : Runs c log d)
    (reads : c.call = .readSettings fun s => .readSettings fun t => .done (make s t)) (ended : d.call = .done result) :
    ∃ s t, ReadInTurn c.shared.settings log s t ∧ result = make s t := by
  obtain ⟨before, later, m, rfl, aside, run, placed, reads⟩ := runs_reading run reads ended
  obtain ⟨between, after, n, rfl, beside, run, _, done⟩ := runs_reading run reads ended
  obtain ⟨same, behind⟩ := runs_done run done
  rw [placed] at same ⊢
  refine ⟨_, _, ⟨before, between, after, rfl, fun e member => ?_, rfl, rfl, fun unwritten => ?_⟩, ?_⟩
  · rcases List.mem_append.mp member with member | member
    · exact (List.mem_append.mp member).elim (aside e) (beside e)
    · exact behind e member
  · exact (LockEntry.lastInPlace_unwritten unwritten).symm
  · rw [ended] at same
    cases same
    rfl

theorem ReadInTurn.inPlace {s t : Settings} (reads : ReadInTurn first log s t) :
    s ∈ inPlace first log ∧ t ∈ inPlace first log := by
  obtain ⟨before, between, after, rfl, _, rfl, late, _⟩ := reads
  refine ⟨LockEntry.lastInPlace_mem first before _, ?_⟩
  have through : t = lastInPlace first (before ++ ⟨true, .read, lastInPlace first before⟩ :: between) := by
    rw [LockEntry.lastInPlace_append, late]
    rfl
  have placed := LockEntry.lastInPlace_mem first (before ++ ⟨true, .read, lastInPlace first before⟩ :: between)
    (⟨true, .read, t⟩ :: after)
  rw [← through, List.append_assoc] at placed
  exact placed

end CallAmong

namespace SettingsChange

open CallAmong (amidst Runs ReadInTurn)
open LockEntry (inPlace)

-- Each number is of the settings at its own time, and others may be put in place between the two.
theorem numbers_read_in_turn (name : String) (changes : List SettingsChange) (w : Shared) (log : List LockEntry) :
    (∀ d rule, Runs (amidst changes (Rule.configured name) w) log d → d.call = .done rule →
        ∃ s ∈ inPlace w.settings log, ∃ t ∈ inPlace w.settings log, ReadInTurn w.settings log s t ∧
          rule = ⟨name, s.sections.breaker.threshold, t.sections.breaker.retryTimeoutMs⟩) ∧
      (∀ d made, Runs (amidst changes (Breaker.configured name) w) log d → d.call = .done made →
        ∃ s ∈ inPlace w.settings log, ∃ t ∈ inPlace w.settings log, ReadInTurn w.settings log s t ∧
          made = Breaker.ofRule ⟨name, s.sections.breaker.threshold, t.sections.breaker.retryTimeoutMs⟩) ∧
      ∀ d batch, Runs (amidst changes (Batch.standard name) w) log d → d.call = .done batch →
        ∃ s ∈ inPlace w.settings log, ∃ t ∈ inPlace w.settings log, ReadInTurn w.settings log s t ∧
          batch = ⟨name, s.sections.pool.workerCount.toNat, t.sections.pool.queueCapacity.toNat, false⟩ := by
  have placed {γ : Type} {make : Settings → Settings → γ} {call : Procedure γ} {d : CallAmong γ} {made : γ}
      (reads : call = .readSettings fun s => .readSettings fun t => .done (make s t))
      (run : Runs (amidst changes call w) log d) (ended : d.call = .done made) :
      ∃ s ∈ inPlace w.settings log, ∃ t ∈ inPlace w.settings log, ReadInTurn w.settings log s t ∧ made = make s t := by
    obtain ⟨s, t, inTurn, made⟩ := CallAmong.runs_reading_twice run reads ended
    exact ⟨s, inTurn.inPlace.1, t, inTurn.inPlace.2, inTurn, made⟩
  exact ⟨fun d rule => placed rfl, fun d made => placed rfl, fun d batch => placed rfl⟩

-- With other numbers in all four places.
def brisk : Settings :=
  let pool := { Settings.standard.sections.pool with workerCount := 8, queueCapacity := 64 }
  let breaker := { Settings.standard.sections.breaker with threshold := 5, retryTimeoutMs := 50 }
  { Settings.standard with sections := { Settings.standard.sections with pool, breaker } }

def briskChanges : List SettingsChange := [.setup ⟨.initial, Setup.opens, .withSettings brisk⟩]

-- The setup installs its settings between the two readings.
def torn : List Mover := [.own, .other 0, .own]

def afterTorn {α : Type} (call : Procedure α) : List LockEntry × CallAmong α :=
  ((amidst briskChanges call .initial).replay? torn).getD ([], amidst briskChanges call .initial)

theorem torn_rule_runs : Runs (amidst briskChanges (Rule.configured "store") .initial)
    (afterTorn (Rule.configured "store")).1 (afterTorn (Rule.configured "store")).2 :=
  CallAmong.runs_of_replay torn rfl

theorem torn_batch_runs : Runs (amidst briskChanges (Batch.standard "orders") .initial)
    (afterTorn (Batch.standard "orders")).1 (afterTorn (Batch.standard "orders")).2 :=
  CallAmong.runs_of_replay torn rfl

theorem numbers_of_no_settings :
    (¬ ∀ (name : String) (changes : List SettingsChange) (w : Shared) (log : List LockEntry) (d : CallAmong Rule)
        (rule : Rule), Runs (amidst changes (Rule.configured name) w) log d → d.call = .done rule →
          ∃ s ∈ inPlace w.settings log, rule.threshold = s.sections.breaker.threshold ∧
            rule.retryTimeoutMs = s.sections.breaker.retryTimeoutMs) ∧
      ¬ ∀ (name : String) (changes : List SettingsChange) (w : Shared) (log : List LockEntry) (d : CallAmong Batch)
        (batch : Batch), Runs (amidst changes (Batch.standard name) w) log d → d.call = .done batch →
          ∃ s ∈ inPlace w.settings log, batch.workerCount = s.sections.pool.workerCount.toNat ∧
            batch.queueCapacity = s.sections.pool.queueCapacity.toNat := by
  constructor
  · intro whole
    exact absurd (whole _ _ _ _ _ ⟨"store", 3, 50⟩ torn_rule_runs rfl) (by decide)
  · intro whole
    exact absurd (whole _ _ _ _ _ ⟨"orders", 3, 64, false⟩ torn_batch_runs rfl) (by decide)

theorem torn_numbers_in_turn :
    (afterTorn (Rule.configured "store")).1 =
        [⟨true, .read, .standard⟩, ⟨false, .write, brisk⟩, ⟨true, .read, brisk⟩] ∧
      (∃ s t, ReadInTurn .standard (afterTorn (Rule.configured "store")).1 s t ∧ s.sections.breaker.threshold = 3 ∧
        t.sections.breaker.retryTimeoutMs = 50) ∧
      ∃ s t, ReadInTurn .standard (afterTorn (Batch.standard "orders")).1 s t ∧
        s.sections.pool.workerCount.toNat = 3 ∧ t.sections.pool.queueCapacity.toNat = 64 := by
  obtain ⟨s, _, t, _, rule, threshold⟩ :=
    (numbers_read_in_turn "store" briskChanges .initial _).1 _ ⟨"store", 3, 50⟩ torn_rule_runs rfl
  obtain ⟨u, _, v, _, batch, sizes⟩ :=
    (numbers_read_in_turn "orders" briskChanges .initial _).2.2 _ ⟨"orders", 3, 64, false⟩ torn_batch_runs rfl
  injection threshold with _ threshold timeout
  injection sizes with _ workers capacity
  exact ⟨rfl, ⟨s, t, rule, threshold.symm, timeout.symm⟩, u, v, batch, workers.symm, capacity.symm⟩

end SettingsChange
end GuardedWork
