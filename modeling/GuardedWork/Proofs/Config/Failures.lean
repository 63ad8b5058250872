import GuardedWork.Proofs.Config.Plans

namespace GuardedWork

-- Of the first attempt, by what comes of it.
def ExporterStatus.ofAttempt : Except SetupError Unit → ExporterStatus
  | .ok () => started
  | .error _ => failed

namespace Setup

variable {α β : Type} {around : Surroundings} {serving : Serving} {w : Shared} {e : SetupError} {x : Call α}
  {f : α → Call β} {a : α}

theorem bind_ok (ran : (x.run.run w).result = .ok a) :
    ((x >>= f).run.run w).result = ((f a).run.run (x.run.run w).shared).result ∧
      ((x >>= f).run.run w).shared = ((f a).run.run (x.run.run w).shared).shared := by
  have both := Procedure.run_bind x.run (ExceptT.bindCont f) w
  rw [ran] at both
  exact both

theorem bind_error (ran : (x.run.run w).result = .error e) :
    ((x >>= f).run.run w).result = .error e ∧ ((x >>= f).run.run w).shared = (x.run.run w).shared := by
  have both := Procedure.run_bind x.run (ExceptT.bindCont f) w
  rw [ran] at both
  exact both

theorem reads_settings (f : Settings → Call β) :
    (liftM Procedure.settings >>= f).run.run w = (f w.settings).run.run w := rfl

theorem reads_exporter (f : ExporterStatus → Call β) :
    (liftM Procedure.exporter >>= f).run.run w = (f w.exporter).run.run w := rfl

theorem sets_exporter (status : ExporterStatus) (f : Unit → Call β) :
    (liftM (Procedure.setExporter status) >>= f).run.run w = (f ()).run.run { w with exporter := status } := rfl

theorem performs (effect : Effect) (f : Unit → Call β) :
    let later := (f ()).run.run w
    (liftM (Procedure.perform effect) >>= f).run.run w = ⟨later.result, later.shared, effect :: later.effects⟩ := rfl

-- What comes of the first attempt while these settings are in place.
def attempt (serving : Serving) (s : Settings) : Except SetupError Unit :=
  let exporter := s.sections.log.exporter
  match serving.register, SocketAddress.read? exporter.address with
  | .error e, _ => .error e
  | .ok (), none => .error .badAddress
  | .ok (), some address =>
    if exporter.metricsPath.toList.any fun c => 0x80 ≤ c.toNat then .error (.badEndpoint exporter.metricsPath)
    else
      match serving.unopened address exporter.metricsPath with
      | some reason => .error (.notServed reason)
      | none => .ok ()

-- And of any attempt, as only the first is one at all.
def exported (serving : Serving) (w : Shared) : Except SetupError Unit × ExporterStatus :=
  match w.exporter with
  | .started => (.ok (), .started)
  | .failed => (.error .failedBefore, .failed)
  | .unstarted => (attempt serving w.settings, .ofAttempt (attempt serving w.settings))

-- What the first attempt does while these settings are in place.
def attemptEffects (serving : Serving) (s : Settings) : List Effect :=
  let exporter := s.sections.log.exporter
  match serving.register, SocketAddress.read? exporter.address with
  | .error _, _ => []
  | .ok (), none => [.metricsRegistered]
  | .ok (), some address =>
    if exporter.metricsPath.toList.any fun c => 0x80 ≤ c.toNat then [.metricsRegistered]
    else [.metricsRegistered, .endpointOpened address exporter.metricsPath]

def exportedEffects (serving : Serving) (w : Shared) : List Effect :=
  if w.exporter = .unstarted then attemptEffects serving w.settings else []

theorem startExporter_run (serving : Serving) (w : Shared) : (startExporter serving).run.run w =
    ⟨(exported serving w).1, { w with exporter := (exported serving w).2 }, exportedEffects serving w⟩ := by
  obtain ⟨s, status⟩ := w
  unfold startExporter exported exportedEffects
  rw [reads_exporter]
  cases status with
  | started => rfl
  | failed => rfl
  | unstarted =>
    unfold attempt attemptEffects
    dsimp only
    rw [sets_exporter, if_pos rfl]
    cases serving.register with
    | error e => rfl
    | ok registered =>
      rw [given_ok, performs, reads_settings]
      dsimp only
      cases SocketAddress.read? s.sections.log.exporter.address with
      | none => rfl
      | some address =>
        dsimp only
        rw [reads_settings]
        dsimp only
        split
        · rfl
        · rw [performs]
          cases serving.unopened address s.sections.log.exporter.metricsPath <;> rfl

-- Whatever only looks and logs behind a call leaves it as it ended.
theorem before_harmless {x : Call Unit} {f : Unit → Call Unit}
    (harmless : ∀ w, ((f ()).run.run w).result = .ok () ∧ ((f ()).run.run w).shared = w) (w : Shared) :
    ((x >>= f).run.run w).result = (x.run.run w).result ∧ ((x >>= f).run.run w).shared = (x.run.run w).shared := by
  cases came : (x.run.run w).result with
  | error e => exact bind_error came
  | ok passed =>
    obtain ⟨result, shared⟩ := bind_ok (f := f) came
    obtain ⟨passes, stays⟩ := harmless (x.run.run w).shared
    exact ⟨result.trans passes, shared.trans stays⟩

theorem startServices_on (serving : Serving) (enabled : w.settings.sections.log.exporter.enabled = true) :
    ((startServices serving).run.run w).result = (exported serving w).1 ∧
      ((startServices serving).run.run w).shared = { w with exporter := (exported serving w).2 } := by
  have result := congrArg Procedure.Ran.result (startExporter_run serving w)
  have shared := congrArg Procedure.Ran.shared (startExporter_run serving w)
  unfold startServices
  rw [reads_settings, if_pos enabled]
  refine ⟨(before_harmless ?_ w).1.trans result, (before_harmless ?_ w).2.trans shared⟩
  · exact fun _ => ⟨rfl, rfl⟩
  · exact fun _ => ⟨rfl, rfl⟩

theorem startServices_off (serving : Serving) (off : w.settings.sections.log.exporter.enabled = false) :
    ((startServices serving).run.run w).result = .ok () := by
  unfold startServices
  rw [reads_settings, off]
  rfl

-- The exporter is as it was.
def KeepsExporter (x : Call α) : Prop := ∀ w, (x.run.run w).shared.exporter = w.exporter

theorem KeepsExporter.bind (first : KeepsExporter x) (second : ∀ a, KeepsExporter (f a)) : KeepsExporter (x >>= f) := by
  intro w
  cases came : (x.run.run w).result with
  | error e => rw [(bind_error came).2, first w]
  | ok a => rw [(bind_ok came).2, second a, first w]

theorem given_keepsExporter (r : Except SetupError α) : KeepsExporter (given r) := fun _ => rfl

theorem apply_keepsExporter (around : Surroundings) (s : Settings) : KeepsExporter (apply around s) :=
  (given_keepsExporter _).bind fun _ => (given_keepsExporter _).bind fun _ => fun _ => rfl

theorem loaded_keepsExporter (around : Surroundings) (path : String) : KeepsExporter (loaded around path) := by
  unfold loaded
  split
  · exact fun _ => rfl
  · exact (given_keepsExporter _).bind fun _ => fun _ => rfl

end Setup

namespace SetupRequest

variable {around : Surroundings} {r : SetupRequest}

theorem configure_keepsExporter (around : Surroundings) (r : SetupRequest) : Setup.KeepsExporter (r.configure around) := by
  cases r with
  | standard | fromFile => exact (Setup.loaded_keepsExporter _ _).bind fun s => Setup.apply_keepsExporter around s
  | withSettings s => exact (Setup.given_keepsExporter _).bind fun _ => Setup.apply_keepsExporter around s
  | fromVariables => exact Setup.KeepsExporter.bind (fun _ => rfl) fun s => Setup.apply_keepsExporter around s

end SetupRequest

namespace SetupCall

variable {c : SetupCall} {w : Shared} {m : Settings} {e : SetupError}

theorem configure_shared (c : SetupCall) (w : Shared) : (c.configure.run.run w).shared =
    ⟨(c.request.plan c.around w.settings).toOption.getD w.settings, w.exporter⟩ := by
  rw [← (SetupRequest.configure_ran c.request c.around w).1, ← SetupRequest.configure_keepsExporter c.around c.request w]
  rfl

theorem procedure_cases (c : SetupCall) :
    c.request = .fromVariables ∧ c.procedure = c.configure ∨
      c.request ≠ .fromVariables ∧ c.procedure = (c.configure >>= fun _ => Setup.startServices c.serving) := by
  unfold procedure configure
  cases c.request with
  | fromVariables => exact .inl ⟨rfl, rfl⟩
  | standard | withSettings | fromFile => exact .inr ⟨nofun, rfl⟩

theorem procedure_unplanned (fails : c.request.plan c.around w.settings = .error e) :
    (c.configure.run.run w).result = .error e ∧ (c.procedure.run.run w).result = .error e ∧
      (c.procedure.run.run w).shared = w := by
  have came : (c.configure.run.run w).result = .error e := by
    rw [configure, SetupRequest.configure_run, fails]
    rfl
  have shared : (c.configure.run.run w).shared = w := by
    rw [configure_shared, fails]
    rfl
  rcases procedure_cases c with ⟨_, same⟩ | ⟨_, parts⟩
  · rw [same]
    exact ⟨came, came, shared⟩
  · rw [parts]
    obtain ⟨result, stays⟩ := Setup.bind_error (f := fun _ => Setup.startServices c.serving) came
    exact ⟨came, result, stays.trans shared⟩

-- What comes of the exporter with the new settings in place; nothing if the call does not come to it.
theorem procedure_planned (plans : c.request.plan c.around w.settings = .ok m)
    (failed : (c.procedure.run.run w).result = .error e) :
    (c.configure.run.run w).result = .ok () ∧ (c.configure.run.run w).shared = ⟨m, w.exporter⟩ ∧
      m.sections.log.exporter.enabled = true ∧ (Setup.exported c.serving ⟨m, w.exporter⟩).1 = .error e ∧
      (c.procedure.run.run w).shared = ⟨m, (Setup.exported c.serving ⟨m, w.exporter⟩).2⟩ := by
  have came : (c.configure.run.run w).result = .ok () := by
    rw [configure, SetupRequest.configure_run, plans]
    rfl
  have shared : (c.configure.run.run w).shared = ⟨m, w.exporter⟩ := by
    rw [configure_shared, plans]
    rfl
  rcases procedure_cases c with ⟨_, same⟩ | ⟨_, parts⟩
  · rw [same, came] at failed
    cases failed
  · obtain ⟨result, after⟩ := Setup.bind_ok (f := fun _ => Setup.startServices c.serving) came
    rw [parts] at failed ⊢
    rw [shared] at result after
    rw [failed] at result
    cases enabled : m.sections.log.exporter.enabled with
    | false =>
      rw [Setup.startServices_off c.serving enabled] at result
      cases result
    | true =>
      obtain ⟨exported, left⟩ := Setup.startServices_on c.serving (w := ⟨m, w.exporter⟩) enabled
      exact ⟨came, shared, rfl, exported.symm.trans result.symm, after.trans left⟩

theorem exported_failed {serving : Setup.Serving} (failed : (Setup.exported serving w).1 = .error e) :
    (Setup.exported serving w).2 = .failed ∧
      (w.exporter = .failed ∧ e = .failedBefore ∨
        w.exporter = .unstarted ∧ Setup.attempt serving w.settings = .error e) := by
  unfold Setup.exported at failed ⊢
  cases status : w.exporter with
  | started =>
    rw [status] at failed
    cases failed
  | failed =>
    rw [status] at failed
    cases failed
    exact ⟨rfl, .inl ⟨rfl, rfl⟩⟩
  | unstarted =>
    rw [status] at failed
    dsimp only at failed ⊢
    rw [failed]
    exact ⟨rfl, .inr ⟨rfl, rfl⟩⟩

-- The exporter takes its address from the settings in place, so they are installed before it is tried.
theorem failed_setup_keeps (failed : (c.procedure.run.run w).result = .error e) :
    (e.concernsSettings = true ∧ (c.configure.run.run w).result = .error e ∧ (c.procedure.run.run w).shared = w) ∨
      e.concernsSettings = false ∧
        ∃ m, (c.configure.run.run w).result = .ok () ∧ (c.configure.run.run w).shared = ⟨m, w.exporter⟩ ∧
          m.check = .ok () ∧ m.sections.log.exporter.enabled = true ∧
          (w.exporter = .failed ∧ e = .failedBefore ∨
            w.exporter = .unstarted ∧ Setup.attempt c.serving m = .error e) ∧
          (c.procedure.run.run w).shared = ⟨m, .failed⟩ := by
  have vetted := SetupRequest.plan_vetted c.around w.settings c.request
  have follows := (SetupRequest.call_run c.request c.around c.serving w).2
  cases plan : c.request.plan c.around w.settings with
  | error f =>
    rw [plan] at vetted
    obtain ⟨came, result, shared⟩ := procedure_unplanned plan
    cases failed.symm.trans result
    exact .inl ⟨vetted, came, shared⟩
  | ok m =>
    rw [plan] at vetted follows
    obtain ⟨came, shared, enabled, exported, left⟩ := procedure_planned plan failed
    obtain ⟨status, attempt⟩ := exported_failed exported
    rw [status] at left
    exact .inr ⟨follows e failed, m, came, shared, vetted.2, enabled, attempt, left⟩

-- With an address that cannot be read, which nobody looks at before the exporter does.
def lostExporter : SetupCall :=
  let log := { Settings.standard.sections.log with exporter.enabled := true, exporter.address := "nowhere" }
  ⟨.initial, Setup.opens, .withSettings { Settings.standard with sections.log := log }⟩

theorem setup_not_all_or_nothing :
    ¬ ∀ (c : SetupCall) (w : Shared) (e : SetupError), (c.procedure.run.run w).result = .error e →
      (c.procedure.run.run w).shared.settings = w.settings := by
  intro keeps
  have failed : (lostExporter.procedure.run.run .initial).result = .error .badAddress := rfl
  have kept := keeps lostExporter .initial .badAddress failed
  exact absurd (congrArg (fun s => s.sections.log.exporter.enabled) kept) (by decide)

def lostThreshold : SetupCall :=
  ⟨.initial, Setup.opens, .withSettings { Settings.standard with sections.breaker.threshold := 0 }⟩

-- One after the other.
theorem lost_setups_keep :
    (lostExporter.procedure.run.run .initial).result = .error .badAddress ∧
      ∃ m, (lostExporter.configure.run.run .initial).shared = ⟨m, .unstarted⟩ ∧ m.check = .ok () ∧
        m.sections.log.exporter.address = "nowhere" ∧
        (lostExporter.procedure.run.run .initial).shared = ⟨m, .failed⟩ ∧
        (lostThreshold.procedure.run.run ⟨m, .failed⟩).result = .error (.settings .noThreshold) ∧
        (lostThreshold.procedure.run.run ⟨m, .failed⟩).shared = ⟨m, .failed⟩ := by
  have failed : (lostExporter.procedure.run.run .initial).result = .error .badAddress := rfl
  refine ⟨failed, ?_⟩
  rcases failed_setup_keeps failed with ⟨concerns, _⟩ | ⟨_, m, _, configured, valid, _, _, left⟩
  · cases concerns
  · have refused : (lostThreshold.procedure.run.run ⟨m, .failed⟩).result = .error (.settings .noThreshold) := rfl
    refine ⟨m, configured, valid, by cases configured; rfl, left, refused, ?_⟩
    rcases failed_setup_keeps refused with ⟨_, _, kept⟩ | ⟨concerns, _⟩
    · exact kept
    · cases concerns

end SetupCall
end GuardedWork
