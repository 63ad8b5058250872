import GuardedWork.Proofs.Config.Agreement
import GuardedWork.Proofs.Config.Attempts
import GuardedWork.Proofs.Numeral

namespace GuardedWork

namespace Setup

variable {around : Surroundings} {key v : String} {standing n : UInt64} {base m : Settings}

-- The number that a filled variable spells between blanks, or else the one that stands.
def Counted (around : Surroundings) (key : String) (standing n : UInt64) : Prop :=
  match around.filled? key with
  | none => n = standing
  | some v => Text.SpellsWithin v n.toNat

structure Overrides (around : Surroundings) (base m : Settings) : Prop where
  version : m.version = base.version
  log : m.sections.log = base.sections.log
  breaker : m.sections.breaker = base.sections.breaker
  name : m.sections.app.name = (around.filled? appNameKey).getD base.sections.app.name
  workers : Counted around workerCountKey base.sections.pool.workerCount m.sections.pool.workerCount
  capacity : Counted around queueCapacityKey base.sections.pool.queueCapacity m.sections.pool.queueCapacity

theorem countVariable_counted (around : Surroundings) (key : String) :
    Vetted (fun n => ∀ standing, Counted around key standing (n.getD standing)) (countVariable around key) := by
  unfold countVariable Counted
  cases around.filled? key with
  | none => exact fun _ => rfl
  | some v =>
    dsimp only
    cases reads : Text.unsigned? 10 UInt64.size (Text.trimBlank v).toList with
    | none => rfl
    | some n =>
      obtain ⟨spells, below⟩ := Text.unsigned?_decimal.mp reads
      intro standing
      rw [Option.getD_some, Nat.toUInt64_eq, UInt64.toNat_ofNat_of_lt' below]
      exact Text.spells_trimmed.mp spells

theorem overridden_overrides (around : Surroundings) (s : Settings) :
    Vetted (Overrides around s) (overridden around s) := by
  refine (countVariable_counted around workerCountKey).bind fun workers countsWorkers => ?_
  refine (countVariable_counted around queueCapacityKey).bind fun capacity countsCapacity => ?_
  have workersCounted := countsWorkers s.sections.pool.workerCount
  have capacityCounted := countsCapacity s.sections.pool.queueCapacity
  cases name : around.filled? appNameKey <;> cases workers <;> cases capacity <;>
    exact ⟨rfl, rfl, rfl, by rw [name]; rfl, workersCounted, capacityCounted⟩

theorem merged_overrides (around : Surroundings) (s : Settings) : Vetted (Overrides around s) (merged around s) :=
  (overridden_overrides around s).bind fun m overrides => (checked_vetted m).bind fun _ _ => overrides

theorem Counted.spelled (counted : Counted around key standing n) (filled : around.filled? key = some v) :
    Text.SpellsWithin v n.toNat := by
  unfold Counted at counted
  rw [filled] at counted
  exact counted

-- No number that fits a word, with or without blanks around it.
def Unspellable (v : String) : Prop := ∀ n < UInt64.size, ¬Text.SpellsWithin v n

theorem unspellable_iff : Unspellable v ↔ Text.unsigned? 10 UInt64.size (Text.trimBlank v).toList = none := by
  rw [Option.eq_none_iff_forall_not_mem]
  refine forall_congr' fun n => ?_
  rw [Option.mem_def, Text.unsigned?_decimal, Text.spells_trimmed]
  exact ⟨fun unspelled both => unspelled both.2 both.1, fun unread below spells => unread ⟨spells, below⟩⟩

theorem Overrides.spellable (overrides : Overrides around base m)
    (numbers : key = workerCountKey ∨ key = queueCapacityKey) (filled : around.filled? key = some v) :
    ¬Unspellable v := by
  rcases numbers with rfl | rfl
  · exact fun unspelled => unspelled _ (UInt64.toNat_lt _) (overrides.workers.spelled filled)
  · exact fun unspelled => unspelled _ (UInt64.toNat_lt _) (overrides.capacity.spelled filled)

theorem resolvedPath_again (around : Surroundings) (path : String) :
    resolvedPath around (resolvedPath around path) = resolvedPath around path := by
  cases blank : Text.isBlank path with
  | false => rw [resolved_named around blank, resolved_named around blank]
  | true =>
    rw [resolved_blank around blank]
    cases left : Text.isBlank ((around.valueOf? filePathKey).getD placeholder) with
    | false => exact resolved_named around left
    | true => exact resolved_blank around left

theorem exported_started {serving : Serving} {w : Shared} (passed : (exported serving w).1 = .ok ()) :
    (exported serving w).2 = .started := by
  unfold exported at passed ⊢
  cases status : w.exporter with
  | started => rfl
  | failed =>
    rw [status] at passed
    cases passed
  | unstarted =>
    rw [status] at passed
    exact congrArg ExporterStatus.ofAttempt passed

end Setup

namespace SetupEntry

variable {e n : SetupEntry} {m : Settings}

-- Behind a setup that has passed, one that comes to the same settings passes too. If it comes to the exporter, so has
-- the one before it, and has started it.
theorem passes_again (passed : e.ran.result = .ok ()) (follows : n.found = e.ran.shared)
    (plans : e.call.request.plan e.call.around e.found.settings = .ok m)
    (plansAgain : n.call.request.plan n.call.around n.found.settings = .ok m)
    (asked : n.call.request ≠ .fromVariables → e.call.request ≠ .fromVariables) : n.ran.result = .ok () := by
  obtain ⟨configured, installed⟩ := configured_planned plans
  obtain ⟨configuredAgain, installedAgain⟩ := configured_planned plansAgain
  cases reaches : n.reachesExporter with
  | false => exact (stays_aside (unreached_aside reaches)).1.trans configuredAgain
  | true =>
    have comes := reachesExporter_iff.mp reaches
    have enabled : e.installed.sections.log.exporter.enabled = true := by
      rw [installed, ← installedAgain]
      exact comes.2.2
    obtain ⟨result, status, _⟩ := comes_to_exporter ⟨asked comes.1, configured, enabled⟩
    have started : n.found.exporter = .started := by
      rw [follows, status]
      exact Setup.exported_started (result.symm.trans passed)
    rw [(comes_to_exporter comes).1, Setup.exported, started]

end SetupEntry

namespace SetupRequest

variable {around : Surroundings} {r again : SetupRequest} {s m : Settings}

-- What it asks for once it is through: a path is left as it was resolved.
def asLeft (around : Surroundings) : SetupRequest → SetupRequest
  | fromFile path => fromFile (Setup.resolvedPath around path)
  | r => r

theorem plan_asLeft (around : Surroundings) (s : Settings) (r : SetupRequest) :
    (r.asLeft around).plan around s = r.plan around s := by
  cases r with
  | fromFile path =>
    rw [asLeft, plan, base, Setup.resolvedPath_again]
    rfl
  | standard | withSettings | fromVariables => rfl

theorem plan_again (plans : r.plan around s = .ok m) : r.plan around m = .ok m := by
  cases inPlace : r.startsInPlace around with
  | false => exact (plan_elsewhere inPlace m s).trans plans
  | true =>
    have vetted := plan_vetted around s r
    rw [plans] at vetted
    exact ((configure_in_place inPlace).2 m).trans vetted.1

theorem plan_overrides (around : Surroundings) (s : Settings) (r : SetupRequest) :
    Setup.Vetted (fun m => ∃ base, r.base around s = .ok base ∧ Setup.Overrides around base m) (r.plan around s) :=
  (base_vetted around s r).known.bind fun base isBase =>
    (Setup.merged_overrides around base).mono fun _ overrides => ⟨base, isBase, overrides⟩

-- The settings that a setup has left, if it has passed.
theorem passed_planned {serving : Setup.Serving} {w : Shared}
    (passed : ((r.call around serving).run.run w).result = .ok ()) :
    r.plan around w.settings = .ok ((r.call around serving).run.run w).shared.settings := by
  obtain ⟨settled, follows⟩ := call_run r around serving w
  cases plans : r.plan around w.settings with
  | error e =>
    rw [plans] at follows
    cases follows.symm.trans passed
  | ok m =>
    rw [plans] at settled
    rw [settled]
    rfl

-- The base may be what an earlier setup has left.
theorem overrides_and_repeats (around : Surroundings) (serving : Setup.Serving) (r : SetupRequest) (w : Shared) :
    let ran := (r.call around serving).run.run w
    (ran.result = .ok () →
      (∃ base, r.base around w.settings = .ok base ∧ Setup.Overrides around base ran.shared.settings) ∧
        ∀ again servingAgain, again = r ∨ again = r.asLeft around →
          let ranAgain := (again.call around servingAgain).run.run ran.shared
          ranAgain.result = .ok () ∧ ranAgain.shared.settings = ran.shared.settings) ∧
      ∀ key v, key = Setup.workerCountKey ∨ key = Setup.queueCapacityKey → around.filled? key = some v →
        Setup.Unspellable v → ∃ e, ran.result = .error e := by
  intro ran
  have overrides (passed : ran.result = .ok ()) :
      ∃ base, r.base around w.settings = .ok base ∧ Setup.Overrides around base ran.shared.settings := by
    have planned := plan_overrides around w.settings r
    rw [passed_planned passed] at planned
    exact planned
  refine ⟨fun passed => ⟨overrides passed, fun again servingAgain same => ?_⟩, fun key v numbers filled unspelled => ?_⟩
  · have plans := passed_planned passed
    have samePlan : again.plan around ran.shared.settings = r.plan around ran.shared.settings ∧
        (again ≠ .fromVariables → r ≠ .fromVariables) := by
      rcases same with rfl | rfl
      · exact ⟨rfl, id⟩
      · exact ⟨plan_asLeft around _ r, fun asked unasked => asked (by rw [unasked]; rfl)⟩
    have plansAgain := samePlan.1.trans (plan_again plans)
    have passedAgain := SetupEntry.passes_again (e := ⟨⟨around, serving, r⟩, w⟩)
      (n := ⟨⟨around, servingAgain, again⟩, ran.shared⟩) passed rfl plans plansAgain samePlan.2
    exact ⟨passedAgain, Except.ok.inj ((passed_planned passedAgain).symm.trans plansAgain)⟩
  · cases came : ran.result with
    | error e => exact ⟨e, rfl⟩
    | ok passed =>
      obtain ⟨base, _, overrides⟩ := overrides came
      exact absurd unspelled (overrides.spellable numbers filled)

-- A file that only a variable names, and two more variables over what is in it.
def named (workers : String) : Surroundings :=
  let values := [(Setup.appNameKey, " shop "), (Setup.workerCountKey, workers), (Setup.filePathKey, "orders.yaml")]
  besideFile (values.map fun v => (v.1, v.2.toUTF8)) "orders.yaml" (poolText "8")

def shop : Settings := { manned 4 with sections.app.name := " shop " }

theorem named_resolved (workers : String) : Setup.resolvedPath (named workers) " " = "orders.yaml" := rfl

theorem named_reads (workers : String) : Setup.fileSettings (named workers) "orders.yaml" = .ok (manned 8) :=
  beside_reads rfl eight_read

theorem named_plans (workers : String) (prior : Settings) :
    (fromFile " ").plan (named workers) prior = Setup.merged (named workers) (manned 8) :=
  fromFile_plan (by rw [named_resolved]; decide) (by rw [named_resolved]; exact named_reads workers) prior

theorem named_merges : Setup.merged (named " +4\n") (manned 8) = .ok shop := rfl

theorem named_overrides_and_repeats :
    let first := ((fromFile " ").call (named " +4\n") Setup.opens).run.run .initial
    let second := (((fromFile " ").asLeft (named " +4\n")).call (named " +4\n") Setup.opens).run.run first.shared
    first.result = .ok () ∧ first.shared.settings = shop ∧ Text.SpellsWithin " +4\n" 4 ∧
      second.result = .ok () ∧ second.shared.settings = shop ∧
      ∃ e, (((fromFile " ").call (named "-4") Setup.opens).run.run .initial).result = .error e := by
  have plans : (fromFile " ").plan (named " +4\n") Shared.initial.settings = .ok shop :=
    (named_plans _ _).trans named_merges
  obtain ⟨passed, settled⟩ := call_planned (w := .initial) plans rfl Setup.opens
  obtain ⟨⟨base, _, overrides⟩, again⟩ := (overrides_and_repeats _ Setup.opens (fromFile " ") .initial).1 passed
  obtain ⟨passedAgain, kept⟩ := again _ Setup.opens (.inr rfl)
  rw [settled] at overrides kept
  have spelled : Text.SpellsWithin " +4\n" 4 := overrides.workers.spelled rfl
  have fails := (overrides_and_repeats (named "-4") Setup.opens (fromFile " ") .initial).2 Setup.workerCountKey "-4"
    (.inl rfl) rfl
  exact ⟨passed, settled, spelled, passedAgain, kept, fails (Setup.unspellable_iff.mpr rfl)⟩

end SetupRequest
end GuardedWork
