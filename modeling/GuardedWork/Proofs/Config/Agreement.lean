import GuardedWork.Proofs.Config.Variables

namespace GuardedWork

namespace Setup

variable {around : Surroundings} {s m : Settings}

-- No variable is about the log.
theorem overridden_log (around : Surroundings) (s : Settings) :
    Vetted (fun m => m.sections.log = s.sections.log) (overridden around s) := by
  refine (countVariable_vetted around workerCountKey).bind fun workers _ => ?_
  refine (countVariable_vetted around queueCapacityKey).bind fun capacity _ => ?_
  cases around.filled? appNameKey <;> cases workers <;> cases capacity <;> rfl

theorem merged_log (around : Surroundings) (s : Settings) :
    Vetted (fun m => m.sections.log = s.sections.log) (merged around s) :=
  (overridden_log around s).bind fun m same => (checked_vetted m).bind fun _ _ => same

theorem merged_quiet (off : s.sections.log.exporter.enabled = false) (merges : merged around s = .ok m) :
    m.sections.log.exporter.enabled = false := by
  have log := merged_log around s
  rw [merges] at log
  exact (congrArg (fun l => l.exporter.enabled) log).trans off

theorem resolved_named (around : Surroundings) {path : String} (named : Text.isBlank path = false) :
    resolvedPath around path = path := by
  rw [resolvedPath, named]
  rfl

end Setup

namespace SetupCall

variable {c : SetupCall} {w : Shared} {m : Settings}

theorem procedure_quiet (plans : c.request.plan c.around w.settings = .ok m)
    (off : m.sections.log.exporter.enabled = false) :
    (c.procedure.run.run w).result = .ok () ∧ (c.procedure.run.run w).shared.settings = m := by
  constructor
  · cases came : (c.procedure.run.run w).result with
    | ok passed => rfl
    | error e =>
      have enabled := (procedure_planned plans came).2.2.1
      rw [off] at enabled
      cases enabled
  · have settled := (SetupRequest.call_run c.request c.around c.serving w).1
    rw [plans] at settled
    exact settled

end SetupCall

namespace SetupRequest

variable {around : Surroundings} {serving : Setup.Serving} {path : String} {s m : Settings} {w : Shared} {e : SetupError}
  {one other : SetupRequest}

-- Both go through and leave equal settings, or both fail and leave those that were in place.
def EndAlike (around : Surroundings) (serving : Setup.Serving) (w : Shared) (one other : SetupRequest) : Prop :=
  let first := (one.call around serving).run.run w
  let second := (other.call around serving).run.run w
  first.result = .ok () ∧ second.result = .ok () ∧ first.shared.settings = second.shared.settings ∨
    ∃ e f, first.result = .error e ∧ second.result = .error f ∧ first.shared.settings = w.settings ∧
      second.shared.settings = w.settings

theorem call_unplanned (fails : one.plan around w.settings = .error e) (serving : Setup.Serving) :
    ((one.call around serving).run.run w).result = .error e ∧
      ((one.call around serving).run.run w).shared.settings = w.settings := by
  obtain ⟨_, result, shared⟩ := SetupCall.procedure_unplanned (c := ⟨around, serving, one⟩) fails
  exact ⟨result, congrArg Shared.settings shared⟩

theorem call_planned (plans : one.plan around w.settings = .ok m) (off : m.sections.log.exporter.enabled = false)
    (serving : Setup.Serving) :
    ((one.call around serving).run.run w).result = .ok () ∧
      ((one.call around serving).run.run w).shared.settings = m :=
  SetupCall.procedure_quiet (c := ⟨around, serving, one⟩) plans off

-- Then the plans alone decide.
theorem end_alike_iff (first : ∀ m, one.plan around w.settings = .ok m → m.sections.log.exporter.enabled = false)
    (second : ∀ m, other.plan around w.settings = .ok m → m.sections.log.exporter.enabled = false)
    (serving : Setup.Serving) : EndAlike around serving w one other ↔
      (one.plan around w.settings).toOption = (other.plan around w.settings).toOption := by
  cases firstPlan : one.plan around w.settings with
  | ok m =>
    obtain ⟨passed, installed⟩ := call_planned firstPlan (first m firstPlan) serving
    cases secondPlan : other.plan around w.settings with
    | ok n =>
      obtain ⟨passes, installs⟩ := call_planned secondPlan (second n secondPlan) serving
      simp [EndAlike, passed, passes, installed, installs, Except.toOption]
    | error f =>
      obtain ⟨fails, -⟩ := call_unplanned secondPlan serving
      simp [EndAlike, passed, fails, Except.toOption]
  | error e =>
    obtain ⟨failed, kept⟩ := call_unplanned firstPlan serving
    cases secondPlan : other.plan around w.settings with
    | ok n =>
      obtain ⟨passes, -⟩ := call_planned secondPlan (second n secondPlan) serving
      simp [EndAlike, failed, passes, Except.toOption]
    | error f =>
      obtain ⟨fails, keeps⟩ := call_unplanned secondPlan serving
      simp [EndAlike, failed, fails, kept, keeps, Except.toOption]

theorem fromFile_plan (elsewhere : Setup.resolvedPath around path ≠ Setup.placeholder)
    (reads : Setup.fileSettings around (Setup.resolvedPath around path) = .ok s) (prior : Settings) :
    (fromFile path).plan around prior = Setup.merged around s := by
  rw [plan, base, Setup.found, if_neg elsewhere, reads]
  rfl

theorem withSettings_plan_ok (prior : Settings) :
    (withSettings s).plan around prior = .ok m ↔ s.check = .ok () ∧ Setup.merged around s = .ok m := by
  rw [plan, base, Setup.checked]
  cases s.check with
  | error fault =>
    constructor
    · intro plans; cases plans
    · rintro ⟨passes, _⟩; cases passes
  | ok passed => exact ⟨fun plans => ⟨rfl, plans⟩, fun both => both.2⟩

theorem withSettings_plan_unfit {fault : SettingsError} (fails : s.check = .error fault) (around : Surroundings)
    (prior : Settings) : (withSettings s).plan around prior = .error (.settings fault) := by
  rw [plan, base, Setup.checked, fails]
  rfl

-- The caller's settings have to be valid before variables override them, those of a file only behind that.
theorem file_and_settings_end_alike (around : Surroundings) (serving : Setup.Serving) (w : Shared) {path : String}
    {s : Settings} (elsewhere : Setup.resolvedPath around path ≠ Setup.placeholder)
    (reads : Setup.fileSettings around (Setup.resolvedPath around path) = .ok s)
    (off : s.sections.log.exporter.enabled = false) :
    (s.check = .ok () ∨ (∀ m, Setup.merged around s ≠ .ok m) →
        EndAlike around serving w (fromFile path) (withSettings s)) ∧
      ∀ fault m, s.check = .error fault → Setup.merged around s = .ok m →
        (((fromFile path).call around serving).run.run w).result = .ok () ∧
          (((fromFile path).call around serving).run.run w).shared.settings = m ∧
          (((withSettings s).call around serving).run.run w).result = .error (.settings fault) ∧
          (((withSettings s).call around serving).run.run w).shared.settings = w.settings := by
  have filePlan := fromFile_plan elsewhere reads w.settings
  constructor
  · intro sound
    refine (end_alike_iff (fun m plans => ?_) (fun m plans => ?_) serving).mpr ?_
    · exact Setup.merged_quiet off (filePlan.symm.trans plans)
    · exact Setup.merged_quiet off ((withSettings_plan_ok _).mp plans).2
    · rw [filePlan]
      cases merges : Setup.merged around s with
      | ok m =>
        have valid : s.check = .ok () := sound.resolve_right fun fails => fails m merges
        rw [(withSettings_plan_ok _).mpr ⟨valid, merges⟩]
      | error e =>
        cases plans : (withSettings s).plan around w.settings with
        | ok m => rw [((withSettings_plan_ok _).mp plans).2] at merges; cases merges
        | error f => rfl
  · intro fault m fails merges
    obtain ⟨result, settings⟩ := call_planned (filePlan.trans merges) (Setup.merged_quiet off merges) serving
    obtain ⟨refused, kept⟩ := call_unplanned (withSettings_plan_unfit fails around w.settings) serving
    exact ⟨result, settings, refused, kept⟩

-- In the working directory, beside what is found on every machine.
def besideFile (environment : List (String × ByteArray)) (name text : String) : Surroundings :=
  ⟨environment, Files.initial.add (Files.workingDirectory ++ [name]) (.file text.toUTF8)⟩

def poolText (workers : String) : String := "version: v1\nconfig:\n  pool:\n    worker_count: " ++ workers ++ "\n"

def manned (workers : UInt64) : Settings := { Settings.standard with sections.pool.workerCount := workers }

theorem zero_read : (Settings.read (poolText "0")).toOption = some (manned 0) := by decide +kernel

theorem eight_read : (Settings.read (poolText "8")).toOption = some (manned 8) := by decide +kernel

theorem beside_reads {environment : List (String × ByteArray)} {name text : String} {s : Settings}
    (there : (besideFile environment name text).files.find? name = some (.file text.toUTF8))
    (reads : (Settings.read text).toOption = some s) :
    Setup.fileSettings (besideFile environment name text) name = .ok s := by
  unfold Setup.fileSettings
  rw [there]
  dsimp only
  rw [textOf?_toUTF8]
  dsimp only
  cases came : Settings.read text with
  | error e => rw [came] at reads; cases reads
  | ok found => rw [came] at reads; cases reads; rfl

-- Invalid as it stands in the file, and mended by a variable.
def mended : Surroundings := besideFile [(Setup.workerCountKey, "4".toUTF8)] "orders.yaml" (poolText "0")

theorem mended_reads : Setup.fileSettings mended "orders.yaml" = .ok (manned 0) := beside_reads rfl zero_read

theorem mended_resolved : Setup.resolvedPath mended "orders.yaml" = "orders.yaml" := Setup.resolved_named _ (by decide)

theorem mended_merges : Setup.merged mended (manned 0) = .ok (manned 4) := rfl

theorem mended_ends_apart :
    ¬ EndAlike mended Setup.opens .initial (fromFile "orders.yaml") (withSettings (manned 0)) := by
  have filePlan : (fromFile "orders.yaml").plan mended Shared.initial.settings = .ok (manned 4) :=
    (fromFile_plan (by rw [mended_resolved]; decide) (by rw [mended_resolved]; exact mended_reads) _).trans mended_merges
  have givenPlan : (withSettings (manned 0)).plan mended Shared.initial.settings = .error (.settings .noWorker) :=
    withSettings_plan_unfit rfl _ _
  intro alike
  rw [end_alike_iff _ _, filePlan, givenPlan] at alike
  · cases alike
  · rw [filePlan]; rintro m ⟨⟩; rfl
  · rw [givenPlan]; exact nofun

-- With valid settings in a file that the setup does not come to.
theorem unread_ends_apart {name : String}
    (inPlace : Setup.resolvedPath (besideFile [] name (poolText "8")) name = Setup.placeholder) :
    ¬ EndAlike (besideFile [] name (poolText "8")) Setup.opens .initial (fromFile name) (withSettings (manned 8)) := by
  have filePlan : (fromFile name).plan (besideFile [] name (poolText "8")) Shared.initial.settings = .ok .standard :=
    (configure_in_place (r := fromFile name) (decide_eq_true inPlace)).2 _
  have givenPlan : (withSettings (manned 8)).plan (besideFile [] name (poolText "8")) Shared.initial.settings =
    .ok (manned 8) := rfl
  intro alike
  rw [end_alike_iff _ _, filePlan, givenPlan] at alike
  · exact absurd (Option.some.inj alike) (by decide)
  · rw [filePlan]; rintro m ⟨⟩; rfl
  · rw [givenPlan]; rintro m ⟨⟩; rfl

-- Settings that only a variable makes valid, a file whose name is the placeholder, and one whose name is blank.
theorem file_and_settings_end_apart :
    (¬ ∀ (around : Surroundings) (serving : Setup.Serving) (w : Shared) (path : String) (s : Settings),
        Text.isBlank path = false → path ≠ Setup.placeholder → Setup.fileSettings around path = .ok s →
        s.sections.log.exporter.enabled = false → EndAlike around serving w (fromFile path) (withSettings s)) ∧
      (¬ ∀ (around : Surroundings) (serving : Setup.Serving) (w : Shared) (path : String) (s : Settings),
        Text.isBlank path = false → s.check = .ok () → Setup.fileSettings around path = .ok s →
        s.sections.log.exporter.enabled = false → EndAlike around serving w (fromFile path) (withSettings s)) ∧
      ¬ ∀ (around : Surroundings) (serving : Setup.Serving) (w : Shared) (path : String) (s : Settings),
        path ≠ Setup.placeholder → s.check = .ok () → Setup.fileSettings around path = .ok s →
        s.sections.log.exporter.enabled = false → EndAlike around serving w (fromFile path) (withSettings s) := by
  refine ⟨fun alike => ?_, fun alike => ?_, fun alike => ?_⟩
  · exact mended_ends_apart (alike _ _ _ _ _ (by decide) (by decide) mended_reads rfl)
  · have reads : Setup.fileSettings (besideFile [] Setup.placeholder (poolText "8")) Setup.placeholder =
        .ok (manned 8) := beside_reads rfl eight_read
    exact unread_ends_apart rfl (alike _ _ _ _ _ (by decide) rfl reads rfl)
  · have reads : Setup.fileSettings (besideFile [] " " (poolText "8")) " " = .ok (manned 8) :=
      beside_reads rfl eight_read
    exact unread_ends_apart rfl (alike _ _ _ _ _ (by decide) rfl reads rfl)

theorem orders_end_alike :
    let eight := besideFile [(Setup.workerCountKey, " 4 ".toUTF8)] "orders.yaml" (poolText "8")
    EndAlike eight Setup.opens .initial (fromFile "orders.yaml") (withSettings (manned 8)) ∧
      (((fromFile "orders.yaml").call mended Setup.opens).run.run .initial).shared.settings = manned 4 ∧
      (((withSettings (manned 0)).call mended Setup.opens).run.run .initial).result = .error (.settings .noWorker) := by
  intro eight
  have resolved : Setup.resolvedPath eight "orders.yaml" = "orders.yaml" := Setup.resolved_named _ (by decide)
  have reads : Setup.fileSettings eight "orders.yaml" = .ok (manned 8) := beside_reads rfl eight_read
  have alike := file_and_settings_end_alike eight Setup.opens .initial (by rw [resolved]; decide)
    (by rw [resolved]; exact reads) rfl
  have apart := file_and_settings_end_alike mended Setup.opens .initial (by rw [mended_resolved]; decide)
    (by rw [mended_resolved]; exact mended_reads) rfl
  obtain ⟨_, installed, refused, _⟩ := apart.2 .noWorker (manned 4) rfl mended_merges
  exact ⟨alike.1 (.inl rfl), installed, refused⟩

end SetupRequest
end GuardedWork
