import GuardedWork.Proofs.Config.Installs

namespace GuardedWork

open Procedure (Installs)

namespace Setup

variable {α β : Type} {good weaker : α → Prop} {better : β → Prop} {x : Except SetupError α}
  {f : α → Except SetupError β}

-- A value is good, and a fault is not one of the exporter.
def Vetted (good : α → Prop) : Except SetupError α → Prop
  | .ok a => good a
  | .error e => e.concernsSettings = true

theorem Vetted.bind (first : Vetted good x) (second : ∀ a, good a → Vetted better (f a)) : Vetted better (x >>= f) := by
  cases x with
  | error e => exact first
  | ok a => exact second a first

theorem Vetted.known (vetted : Vetted good x) : Vetted (x = .ok ·) x := by
  cases x with
  | error e => exact vetted
  | ok a => rfl

theorem Vetted.mono (vetted : Vetted good x) (implies : ∀ a, good a → weaker a) : Vetted weaker x := by
  cases x with
  | error e => exact vetted
  | ok a => exact implies a vetted

theorem checked_vetted (s : Settings) : Vetted (fun _ => s.check = .ok ()) (checked s) := by
  unfold checked
  cases found : s.check with
  | error e => rfl
  | ok passed => rfl

theorem countVariable_vetted (around : Surroundings) (key : String) :
    Vetted (fun n => countVariable around key = .ok n) (countVariable around key) := by
  cases counted : countVariable around key with
  | ok n => rfl
  | error e =>
    unfold countVariable at counted
    split at counted
    · cases counted
    · split at counted
      · cases counted
      · cases counted; rfl

-- Nothing is left to override.
theorem overridden_vetted (around : Surroundings) (s : Settings) :
    Vetted (fun m => overridden around m = .ok m) (overridden around s) := by
  refine (countVariable_vetted around workerCountKey).bind fun workers isWorkers => ?_
  refine (countVariable_vetted around queueCapacityKey).bind fun capacity isCapacity => ?_
  cases name : around.filled? appNameKey <;> cases workers <;> cases capacity <;>
    simp [Vetted, overridden, name, isWorkers, isCapacity, Settings.setAppName, Settings.setWorkerCount,
      Settings.setQueueCapacity, bind, Except.bind]

theorem merged_vetted (around : Surroundings) (s : Settings) :
    Vetted (fun m => merged around m = .ok m ∧ m.check = .ok ()) (merged around s) := by
  refine (overridden_vetted around s).bind fun m overrides => (checked_vetted m).bind fun _ valid => ⟨?_, valid⟩
  unfold merged checked
  rw [overrides]
  simp only [bind, Except.bind]
  rw [valid]
  rfl

theorem fileSettings_vetted (around : Surroundings) (path : String) :
    Vetted (fun _ => True) (fileSettings around path) := by
  unfold fileSettings
  split
  · rfl
  · rfl
  · split
    · rfl
    · next text _ => cases Settings.read text <;> trivial

-- The settings that a path leads to.
def found (around : Surroundings) (path : String) (s : Settings) : Except SetupError Settings :=
  if path = placeholder then .ok s else fileSettings around path

theorem found_vetted (around : Surroundings) (path : String) (s : Settings) :
    Vetted (fun _ => True) (found around path s) := by
  unfold found
  split
  · trivial
  · exact fileSettings_vetted around path

theorem loaded_in_place (around : Surroundings) : loaded around placeholder = liftM Procedure.settings := if_pos rfl

theorem loaded_elsewhere (around : Surroundings) {path : String} (elsewhere : path ≠ placeholder) (s : Settings) :
    Installs (· = found around path s) (loaded around path).run [] := by
  unfold loaded found
  rw [if_neg elsewhere, if_neg elsewhere]
  cases fileSettings around path with
  | error e => exact .done rfl
  | ok s => exact .act (.done rfl)

theorem fromFile_elsewhere (around : Surroundings) {path : String} (elsewhere : resolvedPath around path ≠ placeholder)
    (s : Settings) :
    let plan := do merged around (← found around (resolvedPath around path) s)
    Installs (· = plan.map fun _ => ()) (configureFromFile around path).run plan.toOption.toList := by
  intro plan
  refine Installs.bind (loaded_elsewhere around elsewhere s) fun result same => ?_
  subst same
  dsimp only [plan]
  cases found around (resolvedPath around path) s with
  | error e => exact .done rfl
  | ok t => exact apply_installs around t

theorem fromFile_in_place (around : Surroundings) {path : String} (inPlace : resolvedPath around path = placeholder) :
    configureFromFile around path = (liftM Procedure.settings >>= apply around) := by
  unfold configureFromFile
  rw [inPlace, loaded_in_place]

theorem found_in_place (around : Surroundings) (s : Settings) : found around placeholder s = .ok s := if_pos rfl

theorem withSettings_installs (around : Surroundings) (t : Settings) :
    let plan := do
      checked t
      merged around t
    Installs (· = plan.map fun _ => ()) (configureWith around t).run plan.toOption.toList := by
  intro plan
  dsimp only [plan]
  unfold configureWith
  cases checked t with
  | error e => exact .done rfl
  | ok passed => exact apply_installs around t

-- The fault of the plan is told, and behind a plan that is carried out only the exporter fails.
def Follows (plan : Except SetupError Settings) (result : Except SetupError Unit) : Prop :=
  match plan with
  | .error e => result = .error e
  | .ok _ => ∀ e, result = .error e → e.concernsSettings = false

theorem follows_map {plan : Except SetupError Settings} {result : Except SetupError Unit}
    (same : result = plan.map fun _ => ()) : Follows plan result := by
  subst same
  cases plan with
  | error e => rfl
  | ok m => exact nofun

theorem installs_followed {plan : Except SetupError Settings} {installed : List Settings} {first second : Call Unit}
    (installs : Installs (· = plan.map fun _ => ()) first.run installed) (aside : Aside second) :
    Installs (Follows plan) (first >>= fun _ => second).run installed := by
  rw [← List.append_nil installed]
  refine Installs.bind installs fun result same => ?_
  subst same
  cases plan with
  | error e => exact .done rfl
  | ok m => exact aside

end Setup

namespace SetupRequest

variable {around : Surroundings} {serving : Setup.Serving} {r : SetupRequest} {s m : Settings}

-- Whether it starts from the settings in place.
def startsInPlace (around : Surroundings) : SetupRequest → Bool
  | standard => Setup.resolvedPath around "" = Setup.placeholder
  | withSettings _ => false
  | fromFile path => Setup.resolvedPath around path = Setup.placeholder
  | fromVariables => true

def base (around : Surroundings) (s : Settings) : SetupRequest → Except SetupError Settings
  | standard => Setup.found around (Setup.resolvedPath around "") s
  | withSettings t => do
    Setup.checked t
    .ok t
  | fromFile path => Setup.found around (Setup.resolvedPath around path) s
  | fromVariables => .ok s

-- What it comes to while these settings are in place.
def plan (around : Surroundings) (s : Settings) (r : SetupRequest) : Except SetupError Settings := do
  Setup.merged around (← r.base around s)

theorem base_vetted (around : Surroundings) (s : Settings) (r : SetupRequest) :
    Setup.Vetted (fun _ => True) (r.base around s) := by
  cases r with
  | standard => exact Setup.found_vetted _ _ _
  | withSettings t => exact (Setup.checked_vetted t).bind fun _ _ => trivial
  | fromFile path => exact Setup.found_vetted _ _ _
  | fromVariables => trivial

theorem plan_vetted (around : Surroundings) (s : Settings) (r : SetupRequest) :
    Setup.Vetted (fun m => Setup.merged around m = .ok m ∧ m.check = .ok ()) (r.plan around s) :=
  (base_vetted around s r).bind fun _ _ => Setup.merged_vetted around _

theorem configure_elsewhere (elsewhere : r.startsInPlace around = false) (s : Settings) :
    Installs (· = (r.plan around s).map fun _ => ()) (r.configure around).run (r.plan around s).toOption.toList := by
  cases r with
  | standard => exact Setup.fromFile_elsewhere around (of_decide_eq_false elsewhere) s
  | fromFile path => exact Setup.fromFile_elsewhere around (of_decide_eq_false elsewhere) s
  | fromVariables => cases elsewhere
  | withSettings t =>
    have same : (withSettings t).plan around s = (do Setup.checked t; Setup.merged around t) := by
      simp only [plan, base]
      cases Setup.checked t <;> rfl
    rw [same]
    exact Setup.withSettings_installs around t

theorem configure_in_place (inPlace : r.startsInPlace around = true) :
    r.configure around = (liftM Procedure.settings >>= Setup.apply around) ∧
      ∀ s, r.plan around s = Setup.merged around s := by
  have found (path : String) (inPlace : Setup.resolvedPath around path = Setup.placeholder) (s : Settings) :
      (do Setup.merged around (← Setup.found around (Setup.resolvedPath around path) s)) = Setup.merged around s := by
    rw [inPlace, Setup.found_in_place]
    rfl
  cases r with
  | standard => exact ⟨Setup.fromFile_in_place around (of_decide_eq_true inPlace), found "" (of_decide_eq_true inPlace)⟩
  | fromFile path =>
    exact ⟨Setup.fromFile_in_place around (of_decide_eq_true inPlace), found path (of_decide_eq_true inPlace)⟩
  | fromVariables => exact ⟨rfl, fun _ => rfl⟩
  | withSettings t => cases inPlace

-- The settings in place have no say.
theorem plan_elsewhere (elsewhere : r.startsInPlace around = false) (s t : Settings) : r.plan around s = r.plan around t := by
  cases r with
  | standard => simp only [plan, base, Setup.found, if_neg (of_decide_eq_false elsewhere)]
  | fromFile path => simp only [plan, base, Setup.found, if_neg (of_decide_eq_false elsewhere)]
  | fromVariables => cases elsewhere
  | withSettings => rfl

theorem call_cases (around : Surroundings) (serving : Setup.Serving) (r : SetupRequest) :
    r = fromVariables ∨ r.call around serving = (r.configure around >>= fun _ => Setup.startServices serving) := by
  cases r with
  | fromVariables => exact .inl rfl
  | standard | withSettings | fromFile => exact .inr rfl

theorem call_elsewhere (serving : Setup.Serving) (elsewhere : r.startsInPlace around = false) (s : Settings) :
    Installs (Setup.Follows (r.plan around s)) (r.call around serving).run (r.plan around s).toOption.toList := by
  obtain rfl | parts := call_cases around serving r
  · cases elsewhere
  · rw [parts]
    exact Setup.installs_followed (configure_elsewhere elsewhere s) (Setup.startServices_aside serving)

-- All that the settings in place have to say is in the first reading.
theorem call_in_place (serving : Setup.Serving) (inPlace : r.startsInPlace around = true) :
    ∃ next, (r.call around serving).run = .readSettings next ∧
      ∀ s, Installs (Setup.Follows (Setup.merged around s)) (next s) (Setup.merged around s).toOption.toList := by
  obtain rfl | parts := call_cases around serving r
  · exact ⟨_, rfl, fun s => (Setup.apply_installs around s).mono fun _ => Setup.follows_map⟩
  · rw [parts, (configure_in_place inPlace).1]
    exact ⟨_, rfl, fun s => Setup.installs_followed (Setup.apply_installs around s) (Setup.startServices_aside serving)⟩

theorem toList_getLastD (o : Option Settings) (s : Settings) : o.toList.getLastD s = o.getD s := by
  cases o <;> rfl

theorem configure_ran (r : SetupRequest) (around : Surroundings) (w : Shared) :
    ((r.configure around).run.run w).shared.settings = (r.plan around w.settings).toOption.getD w.settings ∧
      ((r.configure around).run.run w).result = (r.plan around w.settings).map fun _ => () := by
  rw [← toList_getLastD]
  cases inPlace : r.startsInPlace around with
  | false => exact (configure_elsewhere inPlace w.settings).run w
  | true =>
    obtain ⟨reads, plans⟩ := configure_in_place inPlace
    rw [reads, plans]
    exact (Setup.apply_installs around w.settings).run w

theorem configure_run (r : SetupRequest) (around : Surroundings) (w : Shared) :
    ((r.configure around).run.run w).result = (r.plan around w.settings).map fun _ => () :=
  (configure_ran r around w).2

theorem call_run (r : SetupRequest) (around : Surroundings) (serving : Setup.Serving) (w : Shared) :
    ((r.call around serving).run.run w).shared.settings = (r.plan around w.settings).toOption.getD w.settings ∧
      Setup.Follows (r.plan around w.settings) ((r.call around serving).run.run w).result := by
  rw [← toList_getLastD]
  cases inPlace : r.startsInPlace around with
  | false => exact (call_elsewhere serving inPlace w.settings).run w
  | true =>
    obtain ⟨next, reads, installs⟩ := call_in_place serving inPlace
    rw [reads, (configure_in_place inPlace).2]
    exact (installs w.settings).run w

end SetupRequest
end GuardedWork
