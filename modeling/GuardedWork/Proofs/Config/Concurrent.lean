import GuardedWork.Proofs.Config.LockTurns
import GuardedWork.Proofs.Config.Plans

namespace GuardedWork

namespace SetupRequest

open CallPair (Reads)

variable {around : Surroundings} {serving : Setup.Serving} {requests : Side → SetupRequest} {r : SetupRequest} {w : Shared}
  {trace : List (Side × LockUse)} {last : CallPair (Except SetupError Unit)} {one : Side}

theorem elsewhere_installs (serving : Setup.Serving) (elsewhere : r.startsInPlace around = false) (s : Settings) :
    (r.call around serving).run.WillInstall (r.plan around s).toOption :=
  (call_elsewhere serving elsewhere s).mono fun _ _ => trivial

theorem in_place_reads (serving : Setup.Serving) (inPlace : r.startsInPlace around = true) :
    Reads (fun s => (Setup.merged around s).toOption) (r.call around serving).run := by
  obtain ⟨next, same, installs⟩ := call_in_place serving inPlace
  exact ⟨next, same, fun s => (installs s).mono fun _ _ => trivial⟩

theorem after_elsewhere (serving : Setup.Serving) (elsewhere : r.startsInPlace around = false) (s : Settings) (w : Shared) :
    (r.after around serving w).settings = (r.plan around s).toOption.getD w.settings := by
  rw [plan_elsewhere elsewhere s w.settings]
  exact (call_run r around serving w).1

theorem after_in_place (serving : Setup.Serving) (inPlace : r.startsInPlace around = true) (w : Shared) :
    (r.after around serving w).settings = (Setup.merged around w.settings).toOption.getD w.settings := by
  rw [← (configure_in_place inPlace).2]
  exact (call_run r around serving w).1

theorem merged_again {s m : Settings} (made : (Setup.merged around s).toOption = some m) :
    (Setup.merged around m).toOption = some m := by
  have vetted := Setup.merged_vetted around s
  cases merged : Setup.merged around s with
  | error e => rw [merged] at made; cases made
  | ok t =>
    rw [merged] at made vetted
    cases made
    rw [vetted.1]
    rfl

-- One after the other, in this order.
def inOrder (around : Surroundings) (serving : Setup.Serving) (requests : Side → SetupRequest) (w : Shared) (one : Side) :
    Shared :=
  (requests one.other).after around serving ((requests one).after around serving w)

theorem neither_in_place (elsewhere : ∀ side, (requests side).startsInPlace around = false)
    (run : CallPair.Runs (together around serving requests w) trace last) (ended : last.Ended) :
    ∃ one, last.shared.settings = (inOrder around serving requests w one).settings := by
  have installs (side : Side) := elsewhere_installs serving (elsewhere side) w.settings
  have after (side : Side) := after_elsewhere serving (elsewhere side) w.settings
  obtain settled | ⟨made, _⟩ := CallPair.made_in_turn (installs .left) (installs .right) run ended
  · refine ⟨.left, ?_⟩
    rw [settled, inOrder, after, after]
    rfl
  · refine ⟨.right, ?_⟩
    rw [inOrder, after]
    change _ = ((requests .left).plan around w.settings).toOption.getD _
    rw [made]
    rfl

theorem both_in_place (inPlace : ∀ side, (requests side).startsInPlace around = true)
    (run : CallPair.Runs (together around serving requests w) trace last) (ended : last.Ended) (one : Side) :
    last.shared.settings = (inOrder around serving requests w one).settings := by
  have after (side : Side) := after_in_place serving (inPlace side)
  have settled := CallPair.readers_agree merged_again (fun side => in_place_reads serving (inPlace side)) run ended
  rw [settled, inOrder, after, after]
  change (Setup.merged around w.settings).toOption.getD w.settings = _
  cases made : (Setup.merged around w.settings).toOption with
  | none => rw [Option.getD_none, made]; rfl
  | some m => rw [Option.getD_some, merged_again made]; rfl

theorem one_in_place (inPlace : (requests one).startsInPlace around = true)
    (elsewhere : (requests one.other).startsInPlace around = false)
    (run : CallPair.Runs (together around serving requests w) trace last) (ended : last.Ended) :
    (∃ first, last.shared.settings = (inOrder around serving requests w first).settings) ∨
      (last.shared.settings = ((requests one).after around serving w).settings ∧
        [(one, LockUse.read), (one.other, .write), (one, .write)].Sublist trace) := by
  have reads := in_place_reads serving inPlace
  have installs := elsewhere_installs serving elsewhere w.settings
  have afterOne := after_in_place serving inPlace
  have afterOther := after_elsewhere serving elsewhere w.settings
  obtain settled | settled | ⟨settled, order⟩ := CallPair.read_in_turn reads installs run ended
  · refine .inl ⟨one, ?_⟩
    rw [settled, inOrder, afterOther, afterOne]
    rfl
  · refine .inl ⟨one.other, ?_⟩
    rw [settled, inOrder, one.other_other, afterOne, afterOther]
    rfl
  · refine .inr ⟨?_, order⟩
    rw [settled, afterOne]
    rfl

theorem overtaken_left_alone (inPlace : (requests one).startsInPlace around = true)
    (elsewhere : (requests one.other).startsInPlace around = false)
    (run : CallPair.Runs (together around serving requests w) trace last) (ended : last.Ended)
    (order : [(one, LockUse.read), (one.other, .write), (one, .write)].Sublist trace) :
    last.shared.settings = ((requests one).after around serving w).settings := by
  have installs := elsewhere_installs serving elsewhere w.settings
  rw [CallPair.overtaken_write_stays (in_place_reads serving inPlace) installs run ended order, after_in_place serving inPlace]
  rfl

theorem in_order_or_overtaken (run : CallPair.Runs (together around serving requests w) trace last) (ended : last.Ended) :
    (∃ one, last.shared.settings = (inOrder around serving requests w one).settings) ∨
      ∃ one, (requests one).startsInPlace around = true ∧ (requests one.other).startsInPlace around = false ∧
        last.shared.settings = ((requests one).after around serving w).settings ∧
        [(one, LockUse.read), (one.other, .write), (one, .write)].Sublist trace := by
  by_cases split : ∃ one, (requests one).startsInPlace around = true ∧ (requests one.other).startsInPlace around = false
  · obtain ⟨one, inPlace, elsewhere⟩ := split
    obtain settled | lost := one_in_place inPlace elsewhere run ended
    · exact .inl settled
    · exact .inr ⟨one, inPlace, elsewhere, lost⟩
  · left
    cases inPlace : (requests .left).startsInPlace around with
    | true =>
      refine ⟨.left, both_in_place (fun side => ?_) run ended .left⟩
      cases side with
      | left => exact inPlace
      | right => exact Bool.of_not_eq_false fun elsewhere => split ⟨.left, inPlace, elsewhere⟩
    | false =>
      refine neither_in_place (fun side => ?_) run ended
      cases side with
      | left => exact inPlace
      | right => exact Bool.of_not_eq_true fun started => split ⟨.right, started, inPlace⟩

-- An update is lost only to a call that has read the settings before it, and then it is.
theorem in_order_unless_overtaken (around : Surroundings) (serving : Setup.Serving) (requests : Side → SetupRequest) (w : Shared)
    (run : CallPair.Runs (together around serving requests w) trace last) (ended : last.Ended) :
    ((∃ one, last.shared.settings = (inOrder around serving requests w one).settings) ∨
      ∃ one, (requests one).startsInPlace around = true ∧ (requests one.other).startsInPlace around = false ∧
        last.shared.settings = ((requests one).after around serving w).settings ∧
        [(one, LockUse.read), (one.other, .write), (one, .write)].Sublist trace) ∧
      ∀ one, (requests one).startsInPlace around = true → (requests one.other).startsInPlace around = false →
        [(one, LockUse.read), (one.other, .write), (one, .write)].Sublist trace →
        last.shared.settings = ((requests one).after around serving w).settings :=
  ⟨in_order_or_overtaken run ended, fun _ inPlace elsewhere order => overtaken_left_alone inPlace elsewhere run ended order⟩

-- The left side reads before the right side begins, and installs after it has ended.
def orders : Settings := { Settings.standard with sections.app.name := "orders", sections.pool.workerCount := 8 }

def rivals : Side → SetupRequest
  | .left => fromVariables
  | .right => withSettings orders

def overtaking : List Side := .left :: List.replicate 7 .right ++ List.replicate 6 .left

def rivalry : CallPair (Except SetupError Unit) := together .initial Setup.opens rivals .initial

def afterRivalry : List (Side × LockUse) × CallPair (Except SetupError Unit) :=
  (rivalry.replay? overtaking).getD ([], rivalry)

theorem rivalry_runs : CallPair.Runs rivalry afterRivalry.1 afterRivalry.2 := by
  have replayed : rivalry.replay? overtaking = some afterRivalry := rfl
  exact CallPair.runs_of_replay replayed

theorem rivalry_ended : afterRivalry.2.Ended := by
  intro side
  cases side <;> rfl

theorem overtaken_update_lost : CallPair.Runs rivalry afterRivalry.1 afterRivalry.2 ∧ afterRivalry.2.Ended ∧
    Settings.standard.sections.log.exporter.enabled = false ∧ orders.sections.log.exporter.enabled = false ∧
    afterRivalry.2.shared.settings = .standard ∧
    ∀ one, (inOrder .initial Setup.opens rivals .initial one).settings = orders ∧
      afterRivalry.2.shared.settings ≠ (inOrder .initial Setup.opens rivals .initial one).settings := by
  refine ⟨rivalry_runs, rivalry_ended, rfl, rfl, rfl, fun one => ?_⟩
  cases one with
  | left => exact ⟨rfl, by decide⟩
  | right => exact ⟨rfl, by decide⟩

theorem rivals_overtaken :
    fromVariables.startsInPlace .initial = true ∧ (withSettings orders).startsInPlace .initial = false ∧
      [(Side.left, LockUse.read), (.right, .write), (.left, .write)].Sublist afterRivalry.1 ∧
      afterRivalry.2.shared.settings = (fromVariables.after .initial Setup.opens .initial).settings := by
  obtain ⟨settled, lost⟩ := in_order_unless_overtaken _ _ _ _ rivalry_runs rivalry_ended
  have order : [(Side.left, LockUse.read), (.right, .write), (.left, .write)].Sublist afterRivalry.1 := by
    obtain ⟨one, same⟩ | ⟨one, inPlace, _, _, order⟩ := settled
    · exact absurd same (by cases one <;> decide)
    · cases one with
      | left => exact order
      | right => cases inPlace
  exact ⟨rfl, rfl, order, lost .left rfl rfl order⟩

end SetupRequest
end GuardedWork
