import GuardedWork.Proofs.Config.Attempts

namespace GuardedWork

namespace SettingsChange

variable {w : Shared} {changes : List SettingsChange} {log : List SetupEntry} {e : SetupEntry}

theorem ofAttempt_settled (result : Except SetupError Unit) : ExporterStatus.ofAttempt result ≠ .unstarted := by
  cases result <;> exact nofun

-- Nobody has come to the exporter, or the first who came has tried, and all later ones find what came of it.
inductive Attempted : List SetupEntry → Prop where
  | never {log : List SetupEntry} (aside : ∀ e ∈ log, e.reachesExporter = false) : Attempted log
  | once {before after : List SetupEntry} {first : SetupEntry} (aside : ∀ e ∈ before, e.reachesExporter = false)
      (reaches : first.reachesExporter = true) (fresh : first.found.exporter = .unstarted)
      (later : ∀ e ∈ after, e.found.exporter = .ofAttempt first.attempted) : Attempted (before ++ first :: after)

theorem Attempted.cons (attempted : Attempted log) (aside : e.reachesExporter = false) : Attempted (e :: log) := by
  cases attempted with
  | never all => exact .never (List.forall_mem_cons.mpr ⟨aside, all⟩)
  | once all reaches fresh later => exact .once (List.forall_mem_cons.mpr ⟨aside, all⟩) reaches fresh later

theorem Attempted.found {before after : List SetupEntry} {first : SetupEntry}
    (aside : ∀ e ∈ before, e.reachesExporter = false) (reaches : first.reachesExporter = true) :
    (before ++ first :: after).find? SetupEntry.reachesExporter = some first :=
  List.find?_eq_some_iff_append.mpr ⟨reaches, before, after, rfl, fun e member => by simp [aside e member]⟩

theorem no_effects (quiet : ∀ e ∈ log, e.reachesExporter = false ∨ e.found.exporter ≠ .unstarted) :
    (log.flatMap fun e => e.ran.effects).filter Effect.servesExporter = [] := by
  rw [List.filter_flatMap, List.flatMap_eq_nil_iff]
  intro e member
  rw [SetupEntry.ran_effects, if_neg]
  rintro ⟨reaches, fresh⟩
  rcases quiet e member with aside | settled
  · rw [aside] at reaches
    cases reaches
  · exact settled fresh

theorem Attempted.effects (attempted : Attempted log) :
    (log.flatMap fun e => e.ran.effects).filter Effect.servesExporter =
      match log.find? SetupEntry.reachesExporter with
      | none => []
      | some first => Setup.attemptEffects first.call.serving first.installed := by
  cases attempted with
  | never aside =>
    rw [List.find?_eq_none.mpr fun e member => by simp [aside e member]]
    exact no_effects fun e member => .inl (aside e member)
  | @once before after first aside reaches fresh later =>
    rw [Attempted.found aside reaches, List.flatMap_append, List.flatMap_cons, List.filter_append, List.filter_append,
      no_effects fun e member => .inl (aside e member),
      no_effects fun e member => .inr (later e member ▸ ofAttempt_settled _), SetupEntry.ran_effects,
      if_pos ⟨reaches, fresh⟩, List.nil_append, List.append_nil]

theorem exported_after (serving : Setup.Serving) (s : Settings) (result : Except SetupError Unit) :
    (Setup.exported serving ⟨s, .ofAttempt result⟩).1 = .ok () ↔ result = .ok () := by
  cases result with
  | ok passed => exact ⟨fun _ => rfl, fun _ => rfl⟩
  | error e => exact ⟨nofun, nofun⟩

-- The first attempt tells all that is done for the exporter.
theorem Attempted.served (attempted : Attempted log) {x : Effect} (serves : x.servesExporter = true)
    (member : x ∈ log.flatMap fun e => e.ran.effects) :
    ∃ first ∈ log.find? SetupEntry.reachesExporter,
      x ∈ Setup.attemptEffects first.call.serving first.installed := by
  have filtered := List.mem_filter.mpr ⟨member, serves⟩
  rw [attempted.effects] at filtered
  cases found : log.find? SetupEntry.reachesExporter with
  | none =>
    rw [found] at filtered
    cases filtered
  | some first =>
    rw [found] at filtered
    exact ⟨first, rfl, filtered⟩

theorem Attempted.told (attempted : Attempted log) (member : e ∈ log) (reaches : e.reachesExporter = true) :
    ∃ first ∈ log.find? SetupEntry.reachesExporter,
      ((Setup.exported e.call.serving ⟨e.installed, e.found.exporter⟩).1 = .ok () ↔ first.attempted = .ok ()) := by
  cases attempted with
  | never aside =>
    rw [aside e member] at reaches
    cases reaches
  | @once before after first aside comes fresh later =>
    refine ⟨first, Attempted.found aside comes, ?_⟩
    rcases List.mem_append.mp member with early | member
    · rw [aside e early] at reaches
      cases reaches
    · rcases List.mem_cons.mp member with rfl | late
      · rw [fresh]
        rfl
      · rw [later e late]
        exact exported_after _ _ _

end SettingsChange
end GuardedWork
