import GuardedWork.Config.Request

namespace GuardedWork

namespace Procedure

variable {α β : Type} {post : α → Prop} {after : β → Prop} {p : Procedure α} {f : α → Procedure β}
  {installed more : List Settings}

-- These settings, in this order and no others, and such a result.
inductive Installs (post : α → Prop) : Procedure α → List Settings → Prop where
  | done {result : α} (fits : post result) : Installs post (.done result) []
  | readSettings {next : Settings → Procedure α} {installed : List Settings}
      (later : ∀ s, Installs post (next s) installed) : Installs post (.readSettings next) installed
  | writeSettings {s : Settings} {next : Procedure α} {installed : List Settings}
      (later : Installs post next installed) : Installs post (.writeSettings s next) (s :: installed)
  | readExporter {next : ExporterStatus → Procedure α} {installed : List Settings}
      (later : ∀ e, Installs post (next e) installed) : Installs post (.readExporter next) installed
  | writeExporter {e : ExporterStatus} {next : Procedure α} {installed : List Settings}
      (later : Installs post next installed) : Installs post (.writeExporter e next) installed
  | act {x : Effect} {next : Procedure α} {installed : List Settings}
      (later : Installs post next installed) : Installs post (.act x next) installed

theorem Installs.bind (first : Installs post p installed) (second : ∀ a, post a → Installs after (f a) more) :
    Installs after (p.bind f) (installed ++ more) := by
  induction first with
  | done fits => exact second _ fits
  | readSettings _ ih => exact .readSettings ih
  | writeSettings _ ih => exact .writeSettings ih
  | readExporter _ ih => exact .readExporter ih
  | writeExporter _ ih => exact .writeExporter ih
  | act _ ih => exact .act ih

theorem Installs.mono {weaker : α → Prop} (installs : Installs post p installed) (implies : ∀ a, post a → weaker a) :
    Installs weaker p installed := by
  induction installs with
  | done fits => exact .done (implies _ fits)
  | readSettings _ ih => exact .readSettings ih
  | writeSettings _ ih => exact .writeSettings ih
  | readExporter _ ih => exact .readExporter ih
  | writeExporter _ ih => exact .writeExporter ih
  | act _ ih => exact .act ih

theorem Installs.run (installs : Installs post p installed) (w : Shared) :
    (p.run w).shared.settings = installed.getLastD w.settings ∧ post (p.run w).result := by
  induction installs generalizing w with
  | done fits => exact ⟨rfl, fits⟩
  | readSettings _ ih | readExporter _ ih => exact ih _ w
  | @writeSettings s _ _ _ ih =>
    rw [List.getLastD_cons]
    exact ih { w with settings := s }
  | writeExporter _ ih => exact ih _
  | act _ ih => exact ih w

end Procedure

namespace Setup

open Procedure (Installs)

variable {α β : Type} {around : Surroundings} {serving : Serving} {path : String} {s m : Settings} {e : SetupError}

-- What is installed of settings, if they are good.
def merged (around : Surroundings) (s : Settings) : Except SetupError Settings := do
  let m ← overridden around s
  checked m
  .ok m

theorem given_ok {a : α} {f : α → Call β} : (given (.ok a) >>= f) = f a := rfl

theorem apply_eq (around : Surroundings) (s : Settings) :
    apply around s = (given (merged around s) >>= fun m => do liftM (Procedure.install m); liftM announce) := by
  unfold apply merged
  cases overridden around s with
  | error e => rfl
  | ok m =>
    rw [given_ok]
    change _ = (given (do checked m; .ok m) >>= _)
    cases checked m with
    | error e => rfl
    | ok passed => rfl

-- The texts that are logged on the way change nothing.
theorem apply_installs (around : Surroundings) (s : Settings) :
    Installs (· = (merged around s).map fun _ => ()) (apply around s).run (merged around s).toOption.toList := by
  rw [apply_eq]
  cases merged around s with
  | error e => exact .done rfl
  | ok m => exact .writeSettings (.readSettings fun _ => .readSettings fun _ => .act (.readSettings fun _ => .act (.done rfl)))

-- Nothing is installed, and no fault but one of the exporter is told.
def Aside (c : Call α) : Prop := Installs (fun r => ∀ e, r = .error e → e.concernsSettings = false) c.run []

theorem Aside.bind {c : Call α} {f : α → Call β} (first : Aside c) (second : ∀ a, Aside (f a)) : Aside (c >>= f) := by
  refine Installs.bind first fun result harmless => ?_
  cases result with
  | error e => exact .done fun e same => harmless e (by cases same; rfl)
  | ok a => exact second a

theorem aside_pure (a : α) : Aside (pure a) := .done nofun

theorem aside_throw (e : SetupError) (ofExporter : e.concernsSettings = false) : Aside (throw e : Call α) :=
  .done fun f same => by cases same; exact ofExporter

theorem aside_settings : Aside (liftM Procedure.settings) := .readSettings fun _ => .done nofun

theorem aside_exporter : Aside (liftM Procedure.exporter) := .readExporter fun _ => .done nofun

theorem aside_setExporter (status : ExporterStatus) : Aside (liftM (Procedure.setExporter status)) :=
  .writeExporter (.done nofun)

theorem aside_perform (x : Effect) : Aside (liftM (Procedure.perform x)) := .act (.done nofun)

theorem aside_register (serving : Serving) : Aside (given serving.register) := by
  unfold Serving.register
  split
  · exact aside_throw _ rfl
  · exact aside_pure ()

theorem startExporter_aside (serving : Serving) : Aside (startExporter serving) := by
  refine aside_exporter.bind fun status => ?_
  cases status with
  | started => exact aside_pure ()
  | failed => exact aside_throw _ rfl
  | unstarted =>
    refine (aside_setExporter _).bind fun _ => (aside_register serving).bind fun _ => (aside_perform _).bind fun _ =>
      aside_settings.bind fun s => ?_
    split
    · exact aside_throw _ rfl
    · refine aside_settings.bind fun s => ?_
      dsimp only
      split
      · exact aside_throw _ rfl
      · refine (aside_perform _).bind fun _ => ?_
        split
        · exact aside_throw _ rfl
        · exact aside_setExporter _

theorem startServices_aside (serving : Serving) : Aside (startServices serving) := by
  refine aside_settings.bind fun s => ?_
  split
  · exact (startExporter_aside serving).bind fun _ => aside_settings.bind fun _ => aside_settings.bind fun _ => aside_perform _
  · exact aside_pure ()

end Setup
end GuardedWork
