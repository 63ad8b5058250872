import GuardedWork.Config.Change
import GuardedWork.Proofs.Config.Failures

namespace GuardedWork

-- What is done for the exporter, and not only logged.
def Effect.servesExporter (x : Effect) : Bool := x.record?.isNone

namespace Procedure

variable {α β : Type} {p : Procedure α} {f : α → Procedure β}

-- It neither asks for the exporter nor does anything for it.
inductive WithoutExporter : Procedure α → Prop where
  | done {result : α} : WithoutExporter (.done result)
  | readSettings {next : Settings → Procedure α} (later : ∀ s, WithoutExporter (next s)) : WithoutExporter (.readSettings next)
  | writeSettings {s : Settings} {next : Procedure α} (later : WithoutExporter next) : WithoutExporter (.writeSettings s next)
  | act {x : Effect} {next : Procedure α} (logs : x.servesExporter = false) (later : WithoutExporter next) : WithoutExporter (.act x next)

theorem WithoutExporter.bind (first : WithoutExporter p) (second : ∀ a, WithoutExporter (f a)) : WithoutExporter (p.bind f) := by
  induction first with
  | done => exact second _
  | readSettings _ ih => exact .readSettings ih
  | writeSettings _ ih => exact .writeSettings ih
  | act logs _ ih => exact .act logs ih

theorem WithoutExporter.run (without : WithoutExporter p) (w : Shared) :
    p.asksForExporter w = false ∧ (p.run w).effects.filter Effect.servesExporter = [] := by
  induction without generalizing w with
  | done => exact ⟨rfl, rfl⟩
  | readSettings _ ih => exact ih _ w
  | writeSettings _ ih => exact ih _
  | act logs _ ih => exact ⟨(ih w).1, (List.filter_cons_of_neg (by simp [logs])).trans (ih w).2⟩

theorem run_bind_effects (p : Procedure α) (f : α → Procedure β) (w : Shared) :
    ((p.bind f).run w).effects = (p.run w).effects ++ ((f (p.run w).result).run (p.run w).shared).effects := by
  induction p generalizing w <;> simp_all [Procedure.bind, Procedure.run]

theorem asks_bind (p : Procedure α) (f : α → Procedure β) (w : Shared) :
    (p.bind f).asksForExporter w =
      (p.asksForExporter w || (f (p.run w).result).asksForExporter (p.run w).shared) := by
  induction p generalizing w <;> simp_all [Procedure.bind, Procedure.run, asksForExporter]

end Procedure

namespace Setup

open Procedure (WithoutExporter)

variable {α β : Type} {x : Call α} {f : α → Call β} {a : α} {w : Shared}

theorem withoutExporter_bind (first : WithoutExporter x.run) (second : ∀ a, WithoutExporter (f a).run) : WithoutExporter (x >>= f).run := by
  refine WithoutExporter.bind first fun result => ?_
  cases result with
  | error e => exact .done
  | ok a => exact second a

theorem apply_withoutExporter (around : Surroundings) (s : Settings) : WithoutExporter (apply around s).run := by
  refine withoutExporter_bind .done fun m => withoutExporter_bind .done fun _ => withoutExporter_bind (.writeSettings .done) fun _ => ?_
  exact .readSettings fun _ => .readSettings fun _ => .act rfl (.readSettings fun _ => .act rfl .done)

theorem loaded_withoutExporter (around : Surroundings) (path : String) : WithoutExporter (loaded around path).run := by
  unfold loaded
  split
  · exact .readSettings fun _ => .done
  · exact withoutExporter_bind .done fun _ => .act rfl .done

-- What a call is to the exporter: what it does for it, and whether it asks for it.
def outside (x : Call α) (w : Shared) : List Effect × Bool :=
  ((x.run.run w).effects.filter Effect.servesExporter, x.run.asksForExporter w)

theorem outside_withoutExporter (without : WithoutExporter x.run) (w : Shared) : outside x w = ([], false) :=
  Prod.ext (without.run w).2 (without.run w).1

theorem outside_bind (x : Call α) (f : α → Call β) (w : Shared) : outside (x >>= f) w =
    let rest := outside (ExceptT.mk (ExceptT.bindCont f (x.run.run w).result)) (x.run.run w).shared
    ((outside x w).1 ++ rest.1, (outside x w).2 || rest.2) := by
  refine Prod.ext ?_ (Procedure.asks_bind x.run (ExceptT.bindCont f) w)
  have all := Procedure.run_bind_effects x.run (ExceptT.bindCont f) w
  exact (congrArg (List.filter Effect.servesExporter) all).trans (List.filter_append ..)

theorem bindCont_withoutExporter (without : ∀ a, WithoutExporter (f a).run) (result : Except SetupError α) :
    WithoutExporter (ExceptT.mk (ExceptT.bindCont f result)).run := by
  cases result with
  | error e => exact .done
  | ok a => exact without a

theorem outside_before (without : ∀ a, WithoutExporter (f a).run) (w : Shared) : outside (x >>= f) w = outside x w := by
  rw [outside_bind, outside_withoutExporter (bindCont_withoutExporter without _)]
  exact Prod.ext (List.append_nil _) (Bool.or_false _)

theorem outside_behind (without : WithoutExporter x.run) (f : α → Call β) (w : Shared) : outside (x >>= f) w =
    outside (ExceptT.mk (ExceptT.bindCont f (x.run.run w).result)) (x.run.run w).shared := by
  rw [outside_bind, outside_withoutExporter without]
  exact Prod.ext (List.nil_append _) (Bool.false_or _)

theorem outside_settings (f : Settings → Call β) (w : Shared) :
    outside (liftM Procedure.settings >>= f) w = outside (f w.settings) w := rfl

theorem attemptEffects_serve (serving : Serving) (s : Settings) :
    (attemptEffects serving s).filter Effect.servesExporter = attemptEffects serving s := by
  unfold attemptEffects
  dsimp only
  split
  · rfl
  · rfl
  · split <;> rfl

theorem startServices_on_outside (serving : Serving) (enabled : w.settings.sections.log.exporter.enabled = true) :
    outside (startServices serving) w = (exportedEffects serving w, true) := by
  have first : outside (startExporter serving) w = (exportedEffects serving w, true) := by
    refine Prod.ext ?_ rfl
    change ((startExporter serving).run.run w).effects.filter _ = _
    rw [startExporter_run, exportedEffects]
    dsimp only
    split
    · exact attemptEffects_serve _ _
    · rfl
  unfold startServices
  rw [outside_settings, if_pos enabled]
  exact (outside_before (fun _ => .readSettings fun _ => .readSettings fun _ => .act rfl .done) w).trans first

theorem startServices_off_outside (serving : Serving) (off : w.settings.sections.log.exporter.enabled = false) :
    ((startServices serving).run.run w).shared = w ∧ outside (startServices serving) w = ([], false) := by
  unfold startServices
  rw [reads_settings, outside_settings, off]
  exact ⟨rfl, rfl⟩

end Setup

namespace SetupRequest

theorem configure_withoutExporter (around : Surroundings) (r : SetupRequest) : (r.configure around).run.WithoutExporter := by
  cases r with
  | standard | fromFile => exact Setup.withoutExporter_bind (Setup.loaded_withoutExporter _ _) fun s => Setup.apply_withoutExporter around s
  | withSettings s => exact Setup.withoutExporter_bind .done fun _ => Setup.apply_withoutExporter around s
  | fromVariables => exact Setup.withoutExporter_bind (.readSettings fun _ => .done) fun s => Setup.apply_withoutExporter around s

end SetupRequest

namespace SetupEntry

open Setup (outside attempt attemptEffects exported exportedEffects)

variable {e : SetupEntry} {m : Settings}

-- What the first attempt comes to, if it is this setup's.
def attempted (e : SetupEntry) : Except SetupError Unit := attempt e.call.serving e.installed

theorem shared_configured (e : SetupEntry) : e.configured.shared = ⟨e.installed, e.found.exporter⟩ := by
  unfold installed configured
  rw [SetupCall.configure_shared]

theorem configured_planned (plans : e.call.request.plan e.call.around e.found.settings = .ok m) :
    e.configured.result = .ok () ∧ e.installed = m := by
  unfold installed configured
  constructor
  · rw [SetupCall.configure, SetupRequest.configure_run, plans]
    rfl
  · rw [SetupCall.configure_shared, plans]
    rfl

def ComesToExporter (e : SetupEntry) : Prop :=
  e.call.request ≠ .fromVariables ∧ e.configured.result = .ok () ∧ e.installed.sections.log.exporter.enabled = true

theorem configure_withoutExporter (e : SetupEntry) : e.call.configure.run.WithoutExporter :=
  SetupRequest.configure_withoutExporter e.call.around e.call.request

theorem stays_aside (aside : ¬e.ComesToExporter) :
    e.ran.result = e.configured.result ∧ e.ran.shared.exporter = e.found.exporter ∧
      outside e.call.procedure e.found = ([], false) := by
  have kept := congrArg Shared.exporter e.shared_configured
  unfold ran
  rcases e.call.procedure_cases with ⟨_, same⟩ | ⟨asked, parts⟩
  · rw [same]
    exact ⟨rfl, kept, Setup.outside_withoutExporter e.configure_withoutExporter _⟩
  · rw [parts, Setup.outside_behind e.configure_withoutExporter]
    cases came : (e.call.configure.run.run e.found).result with
    | error f =>
      obtain ⟨result, shared⟩ := Setup.bind_error (f := fun _ => Setup.startServices e.call.serving) came
      exact ⟨result.trans came.symm, (congrArg Shared.exporter shared).trans kept, rfl⟩
    | ok passed =>
      obtain ⟨result, shared⟩ := Setup.bind_ok (f := fun _ => Setup.startServices e.call.serving) came
      have off : e.configured.shared.settings.sections.log.exporter.enabled = false :=
        Bool.of_not_eq_true fun enabled => aside ⟨asked, came, enabled⟩
      obtain ⟨stays, without⟩ := Setup.startServices_off_outside e.call.serving off
      refine ⟨result.trans ?_, (congrArg Shared.exporter (shared.trans stays)).trans kept, without⟩
      exact (Setup.startServices_off e.call.serving off).trans came.symm

theorem comes_to_exporter (comes : e.ComesToExporter) :
    let found : Shared := ⟨e.installed, e.found.exporter⟩
    e.ran.result = (exported e.call.serving found).1 ∧ e.ran.shared.exporter = (exported e.call.serving found).2 ∧
      outside e.call.procedure e.found = (exportedEffects e.call.serving found, true) := by
  intro found
  obtain ⟨asked, passed, enabled⟩ := comes
  rcases e.call.procedure_cases with ⟨unasked, _⟩ | ⟨_, parts⟩
  · exact absurd unasked asked
  · unfold ran
    have placed : (e.call.configure.run.run e.found).shared = found := e.shared_configured
    obtain ⟨result, shared⟩ := Setup.bind_ok (f := fun _ => Setup.startServices e.call.serving) passed
    rw [parts, Setup.outside_behind e.configure_withoutExporter, result, shared, placed]
    obtain ⟨result, shared⟩ := Setup.startServices_on (w := found) e.call.serving enabled
    refine ⟨result, congrArg Shared.exporter shared, ?_⟩
    rw [show (e.call.configure.run.run e.found).result = .ok () from passed]
    exact Setup.startServices_on_outside e.call.serving enabled

theorem reachesExporter_iff : e.reachesExporter = true ↔ e.ComesToExporter := by
  constructor
  · intro reaches
    refine Classical.byContradiction fun aside => ?_
    have unasked := congrArg Prod.snd (stays_aside aside).2.2
    exact Bool.false_ne_true (unasked.symm.trans reaches)
  · exact fun comes => congrArg Prod.snd (comes_to_exporter comes).2.2

theorem unreached_aside (unreached : e.reachesExporter = false) : ¬e.ComesToExporter := by
  intro comes
  rw [reachesExporter_iff.mpr comes] at unreached
  cases unreached

theorem ran_effects (e : SetupEntry) : e.ran.effects.filter Effect.servesExporter =
    if e.reachesExporter = true ∧ e.found.exporter = .unstarted then attemptEffects e.call.serving e.installed
    else [] := by
  cases reaches : e.reachesExporter with
  | false => exact congrArg Prod.fst (stays_aside (unreached_aside reaches)).2.2
  | true =>
    refine (congrArg Prod.fst (comes_to_exporter (reachesExporter_iff.mp reaches)).2.2).trans ?_
    simp [exportedEffects]

end SetupEntry
end GuardedWork
