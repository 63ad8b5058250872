import GuardedWork.Batch
import GuardedWork.Breaker.Configured
import GuardedWork.Proofs.Config.Plans

namespace GuardedWork

variable {α ρ : Type} {s : Settings} {w : Shared}

theorem Settings.check_ok (valid : s.check = .ok ()) :
    s.sections.pool.workerCount ≠ 0 ∧ s.sections.pool.queueCapacity ≠ 0 ∧ s.sections.breaker.threshold ≠ 0 := by
  unfold check at valid
  repeat' split at valid
  all_goals first | exact ⟨‹_›, ‹_›, ‹_›⟩ | cases valid

theorem Breaker.configured_builds (valid : w.settings.check = .ok ()) {name : String} (named : name ≠ "") :
    ((Breaker.configured name).run w).result =
      .ok ⟨⟨name, w.settings.sections.breaker.threshold, w.settings.sections.breaker.retryTimeoutMs⟩, .initial, []⟩ := by
  have positive := (Settings.check_ok valid).2.2
  change Breaker.ofRule ⟨name, w.settings.sections.breaker.threshold, _⟩ = _
  simp only [Breaker.ofRule, Rule.check, if_neg named, if_neg positive]
  rfl

theorem WorkerPool.start_unrefused {p : WorkerPool} (manned : p.size ≠ 0) (a : Assignment α ρ) (e : WorkError) :
    (p.start a).start ≠ .refused e := by
  unfold start check
  rw [if_neg manned]
  dsimp only
  split
  · exact nofun
  · split
    · unfold startEmpty
      split <;> exact nofun
    · unfold startFilled
      dsimp only
      split
      · exact nofun
      · split <;> exact nofun

theorem Batch.start_unrefused {b : Batch} (manned : b.workerCount ≠ 0) (roomy : b.queueCapacity ≠ 0)
    (a : Assignment α ρ) (e : WorkError) : (b.start a).start ≠ .refused e := by
  have unrefused := WorkerPool.start_unrefused (p := b.pool) manned a
  unfold start
  rw [if_neg roomy]
  dsimp only
  cases pool : (b.pool.start a).start with
  | refused f => exact absurd pool (unrefused f)
  | panicked | waits | running => exact nofun

theorem Batch.standard_sizes (valid : w.settings.check = .ok ()) (name : String) :
    ((Batch.standard name).run w).result.workerCount ≠ 0 ∧ ((Batch.standard name).run w).result.queueCapacity ≠ 0 := by
  obtain ⟨workers, capacity, _⟩ := Settings.check_ok valid
  have positive {n : UInt64} (unequal : n ≠ 0) : n.toNat ≠ 0 := fun zero => unequal (UInt64.toNat_inj.mp zero)
  exact ⟨positive workers, positive capacity⟩

namespace SetupCall

-- What fails of a call before the exporter is what fails of it as a whole with such a fault.
theorem failed_before_install (c : SetupCall) (w : Shared) (e : SetupError) :
    (c.configure.run.run w).result = .error e ↔
      (c.procedure.run.run w).result = .error e ∧ e.concernsSettings = true := by
  have vetted := SetupRequest.plan_vetted c.around w.settings c.request
  have follows := (SetupRequest.call_run c.request c.around c.serving w).2
  have configured := SetupRequest.configure_run c.request c.around w
  unfold configure procedure
  rw [configured]
  cases plan : c.request.plan c.around w.settings with
  | error f =>
    rw [plan] at vetted follows
    rw [follows]
    constructor
    · intro same; cases same; exact ⟨rfl, vetted⟩
    · rintro ⟨same, -⟩; cases same; rfl
  | ok m =>
    rw [plan] at follows
    constructor
    · intro same; cases same
    · rintro ⟨failed, concerns⟩
      rw [follows e failed] at concerns
      cases concerns

theorem failed_keeps (c : SetupCall) {e : SetupError} (failed : (c.configure.run.run w).result = .error e) :
    (c.procedure.run.run w).shared.settings = w.settings := by
  have configured := SetupRequest.configure_run c.request c.around w
  have settled := (SetupRequest.call_run c.request c.around c.serving w).1
  unfold configure at failed
  rw [configured] at failed
  cases plan : c.request.plan c.around w.settings with
  | error f => rw [plan] at settled; exact settled
  | ok m => rw [plan] at failed; cases failed

theorem call_keeps_valid (c : SetupCall) (valid : w.settings.check = .ok ()) :
    (c.procedure.run.run w).shared.settings.check = .ok () := by
  have vetted := SetupRequest.plan_vetted c.around w.settings c.request
  have settled := (SetupRequest.call_run c.request c.around c.serving w).1
  unfold procedure
  rw [settled]
  cases plan : c.request.plan c.around w.settings with
  | error f => exact valid
  | ok m => rw [plan] at vetted; exact vetted.2

theorem calls_keep_valid (calls : List SetupCall) (valid : w.settings.check = .ok ()) :
    (afterAll calls w).settings.check = .ok () := by
  unfold afterAll
  induction calls generalizing w with
  | nil => exact valid
  | cons c rest ih => exact ih (call_keeps_valid c valid)

end SetupCall

namespace Shared

theorem settings_always_valid (exporter : ExporterStatus) (calls : List SetupCall) :
    let w := SetupCall.afterAll calls ⟨.standard, exporter⟩
    w.settings.check = .ok () ∧
      (∀ (c : SetupCall) (e : SetupError),
        ((c.configure.run.run w).result = .error e ↔
            (c.procedure.run.run w).result = .error e ∧ e.concernsSettings = true) ∧
          ((c.configure.run.run w).result = .error e → (c.procedure.run.run w).shared.settings = w.settings)) ∧
      (∀ name, name ≠ "" → ∃ b, ((Breaker.configured name).run w).result = .ok b) ∧
      ∀ (name : String) (watched : Bool) (source : Source α) (transform : Transform α ρ) (cancelled : Bool) (e : WorkError),
        let b := { ((Batch.standard name).run w).result with watched }
        (b.start (b.assignment source transform cancelled)).start ≠ .refused e := by
  intro w
  have valid : w.settings.check = .ok () := SetupCall.calls_keep_valid calls rfl
  refine ⟨valid, fun c e => ⟨SetupCall.failed_before_install c w e, SetupCall.failed_keeps c⟩, ?_, ?_⟩
  · intro name named
    exact ⟨_, Breaker.configured_builds valid named⟩
  · intro name watched source transform cancelled e b
    obtain ⟨manned, roomy⟩ := Batch.standard_sizes valid name
    exact Batch.start_unrefused (b := b) manned roomy _ e

-- Valid, and the same with a threshold that no check passes.
def hurried : Settings := { Settings.standard with sections.pool.workerCount := 8, sections.breaker.threshold := 5 }

def blunt : Settings := { hurried with sections.breaker.threshold := 0 }

def hurriedCalls : List SetupCall :=
  [⟨.initial, Setup.opens, .withSettings hurried⟩, ⟨.initial, Setup.opens, .withSettings blunt⟩,
    ⟨.initial, Setup.opens, .standard⟩]

theorem hurried_always_valid :
    let w := SetupCall.afterAll hurriedCalls initial
    let refused : SetupCall := ⟨.initial, Setup.opens, .withSettings blunt⟩
    w.settings = hurried ∧ (refused.procedure.run.run w).result = .error (.settings .noThreshold) ∧
      (refused.procedure.run.run w).shared.settings = hurried ∧
      ∃ b, ((Breaker.configured "store").run w).result = .ok b := by
  intro w refused
  obtain ⟨_, calls, builds, _⟩ := settings_always_valid (α := Nat) (ρ := Nat) .unstarted hurriedCalls
  have failed : (refused.configure.run.run w).result = .error (.settings .noThreshold) := rfl
  have settled : w.settings = hurried := rfl
  refine ⟨settled, ((calls refused _).1.mp failed).1, ?_, builds "store" (by decide)⟩
  rw [← settled]
  exact (calls refused _).2 failed

end Shared
end GuardedWork
