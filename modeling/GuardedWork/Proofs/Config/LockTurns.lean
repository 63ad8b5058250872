import GuardedWork.Config.Concurrent
import GuardedWork.Proofs.Config.Installs
import Mathlib.Data.List.Basic

namespace GuardedWork

namespace Procedure

variable {α : Type} {p q : Procedure α} {w v : Shared} {x : Option Effect} {made : Option Settings}

-- Nothing else and nothing more than once, whatever the result.
def WillInstall (made : Option Settings) (p : Procedure α) : Prop := Installs (fun _ => True) p made.toList

theorem WillInstall.step (will : p.WillInstall made) (stepped : p.step? w = some (q, v, x)) :
    (made = some v.settings ∧ p.lockUse? = some .write ∧ q.WillInstall none) ∨
      (v.settings = w.settings ∧ p.lockUse? ≠ some .write ∧ q.WillInstall made) := by
  unfold WillInstall at will ⊢
  generalize installed : made.toList = settings at will
  cases will with
  | done => cases stepped
  | readSettings later | readExporter later => cases stepped; exact .inr ⟨rfl, nofun, later _⟩
  | writeExporter later | act later => cases stepped; exact .inr ⟨rfl, nofun, later⟩
  | writeSettings later =>
    cases made with
    | none => cases installed
    | some s => cases installed; cases stepped; exact .inl ⟨rfl, rfl, later⟩

theorem WillInstall.ended (will : p.WillInstall made) (ended : p.step? w = none) : made = none := by
  unfold WillInstall at will
  generalize installed : made.toList = settings at will
  cases will with
  | done => exact Option.toList_eq_nil_iff.mp installed
  | readSettings | writeSettings | readExporter | writeExporter | act => cases ended

end Procedure

namespace Side

@[simp] theorem other_other (side : Side) : side.other.other = side := by cases side <;> rfl

@[simp] theorem other_ne (side : Side) : side.other ≠ side := by cases side <;> exact nofun

theorem eq_or_other (side one : Side) : side = one ∨ side = one.other := by cases side <;> cases one <;> simp [other]

end Side

namespace CallPair

variable {α : Type} {c d : CallPair α} {side one : Side} {now trace : List (Side × LockUse)} {sides : List Side}
  {pending : Side → Option Settings} {made wanted : Option Settings}

theorem step_parts (stepped : c.step? side = some (d, now)) :
    ∃ x, (c.on side).step? c.shared = some (d.on side, d.shared, x) ∧ d.on side.other = c.on side.other ∧
      now = ((c.on side).lockUse?.map fun use => (side, use)).toList := by
  obtain ⟨⟨p, w, x⟩, step, same⟩ := Option.map_eq_some_iff.mp stepped
  cases same
  refine ⟨x, ?_, if_neg side.other_ne, rfl⟩
  rw [step]
  simp

theorem mem_now {use : LockUse} (stepped : c.step? side = some (d, now)) :
    (one, use) ∈ now ↔ side = one ∧ (c.on side).lockUse? = some use := by
  obtain ⟨_, _, _, rfl⟩ := step_parts stepped
  rw [Option.mem_toList, Option.map_eq_some_iff]
  constructor
  · rintro ⟨_, found, same⟩
    cases same
    exact ⟨rfl, found⟩
  · rintro ⟨rfl, found⟩
    exact ⟨use, found, rfl⟩

theorem unwritten_now (stepped : c.step? side = some (d, now)) (silent : (c.on side).lockUse? ≠ some .write) (one : Side) :
    (one, LockUse.write) ∉ now := fun seen => silent ((mem_now stepped).mp seen).2

theorem sublist_later {uses : List (Side × LockUse)} (order : uses.Sublist (now ++ trace)) (unseen : ∀ u ∈ uses, u ∉ now) :
    uses.Sublist trace := by
  obtain ⟨front, rest, rfl, early, late⟩ := List.sublist_append_iff.mp order
  cases front with
  | nil => exact late
  | cons u front => exact absurd (early.subset List.mem_cons_self) (unseen u List.mem_cons_self)

theorem runs_of_replay (replayed : c.replay? sides = some (trace, d)) : Runs c trace d := by
  induction sides generalizing c trace with
  | nil => cases replayed; exact .nil
  | cons side sides ih =>
    obtain ⟨⟨e, now⟩, stepped, replayed⟩ := Option.bind_eq_some_iff.mp replayed
    obtain ⟨⟨later, _⟩, replayed, same⟩ := Option.bind_eq_some_iff.mp replayed
    cases same
    exact .cons stepped (ih replayed)

-- What each side has yet to install.
def Pending (pending : Side → Option Settings) (c : CallPair α) : Prop := ∀ side, (c.on side).WillInstall (pending side)

def without (side : Side) (pending : Side → Option Settings) : Side → Option Settings := fun s =>
  if s = side then none else pending s

theorem step_pending (waiting : Pending pending c) (stepped : c.step? side = some (d, now)) :
    (pending side = some d.shared.settings ∧ now = [(side, .write)] ∧ Pending (without side pending) d) ∨
      (d.shared.settings = c.shared.settings ∧ Pending pending d) := by
  obtain ⟨x, step, others, uses⟩ := step_parts stepped
  have other : (d.on side.other).WillInstall (pending side.other) := by
    rw [others]
    exact waiting side.other
  obtain ⟨mine, writes, later⟩ | ⟨kept, _, later⟩ := (waiting side).step step
  · rw [writes] at uses
    refine .inl ⟨mine, uses, fun s => ?_⟩
    obtain rfl | rfl := s.eq_or_other side
    · simpa [without] using later
    · simpa [without] using other
  · refine .inr ⟨kept, fun s => ?_⟩
    obtain rfl | rfl := s.eq_or_other side
    · exact later
    · exact other

theorem ended_pending (waiting : Pending pending c) (ended : c.Ended) (side : Side) : pending side = none :=
  (waiting side).ended (Option.map_eq_none_iff.mp (ended side))

theorem write_seen (waiting : Pending pending c) (run : Runs c trace d) (ended : d.Ended) (wants : pending side ≠ none) :
    (side, .write) ∈ trace := by
  induction run generalizing pending with
  | nil => exact absurd (ended_pending waiting ended side) wants
  | @cons c d e turn now later stepped _ ih =>
    obtain ⟨_, rfl, waiting⟩ | ⟨_, waiting⟩ := step_pending waiting stepped
    · by_cases mine : side = turn
      · subst mine
        exact List.mem_cons_self
      · refine List.mem_cons_of_mem _ (ih waiting ended ?_)
        simpa [without, mine] using wants
    · exact List.mem_append_right _ (ih waiting ended wants)

-- Between two that only install, the order of their writes is their order.
theorem pending_in_turn (waiting : Pending pending c) (run : Runs c trace d) (ended : d.Ended) :
    ∃ one, d.shared.settings = (pending one.other).getD ((pending one).getD c.shared.settings) ∧
      ((∀ side, pending side ≠ none) → [(one, LockUse.write), (one.other, .write)].Sublist trace) := by
  induction run generalizing pending with
  | nil =>
    refine ⟨.left, ?_, fun both => absurd (ended_pending waiting ended .left) (both .left)⟩
    rw [ended_pending waiting ended, ended_pending waiting ended]
    rfl
  | @cons c d e turn now later stepped rest ih =>
    obtain ⟨mine, rfl, waiting⟩ | ⟨kept, waiting⟩ := step_pending waiting stepped
    · obtain ⟨one, settled, _⟩ := ih waiting ended
      refine ⟨turn, ?_, fun both => ?_⟩
      · rw [settled, mine]
        obtain rfl | rfl := one.eq_or_other turn <;> simp [without]
      · have wants : without turn pending turn.other ≠ none := by
          simpa [without] using both turn.other
        exact (List.singleton_sublist.mpr (write_seen waiting rest ended wants)).cons_cons _
    · obtain ⟨one, settled, both⟩ := ih waiting ended
      rw [kept] at settled
      exact ⟨one, settled, fun all => (both all).trans (List.sublist_append_right _ _)⟩

theorem made_in_turn (makes : (c.on one).WillInstall made) (wants : (c.on one.other).WillInstall wanted)
    (run : Runs c trace d) (ended : d.Ended) :
    d.shared.settings = wanted.getD (made.getD c.shared.settings) ∨
      made = some d.shared.settings ∧ [(one.other, LockUse.write), (one, .write)].Sublist trace := by
  have waiting : Pending (fun s => if s = one then made else wanted) c := fun s => by
    obtain rfl | rfl := s.eq_or_other one
    · simpa using makes
    · simpa using wants
  obtain ⟨early, settled, order⟩ := pending_in_turn waiting run ended
  obtain rfl | rfl := early.eq_or_other one
  · exact .inl (by simpa using settled)
  · rw [one.other_other] at settled order
    cases made with
    | none => exact .inl (by simpa using settled)
    | some m =>
      cases wanted with
      | none => exact .inl (by simpa using settled)
      | some u =>
        refine .inr ⟨by simpa using settled.symm, order fun s => ?_⟩
        obtain rfl | rfl := s.eq_or_other one <;> simp

theorem unwritten (nothing : (c.on one).WillInstall none) (run : Runs c trace d) : (one, .write) ∉ trace := by
  induction run with
  | nil => exact List.not_mem_nil
  | @cons c d e turn now later stepped _ ih =>
    obtain ⟨x, step, others, _⟩ := step_parts stepped
    rw [List.mem_append, not_or]
    obtain rfl | rfl := turn.eq_or_other one
    · obtain ⟨made, _⟩ | ⟨_, silent, nothing⟩ := nothing.step step
      · cases made
      · exact ⟨unwritten_now stepped silent turn, ih nothing⟩
    · rw [one.other_other] at others
      exact ⟨fun wrote => one.other_ne ((mem_now stepped).mp wrote).1, ih (others ▸ nothing)⟩

-- Of two writes the later one stays.
theorem late_write_stays (makes : (c.on one).WillInstall made) (wants : (c.on one.other).WillInstall wanted)
    (run : Runs c trace d) (ended : d.Ended) (order : [(one.other, LockUse.write), (one, .write)].Sublist trace) :
    made = some d.shared.settings := by
  induction run generalizing made wanted with
  | nil => cases order
  | @cons c d e turn now later stepped rest ih =>
    obtain ⟨x, step, others, uses⟩ := step_parts stepped
    have still (silent : (c.on turn).lockUse? ≠ some .write) : [(one.other, LockUse.write), (one, .write)].Sublist later := by
      have unseen := unwritten_now stepped silent
      exact sublist_later order (List.forall_mem_cons.mpr ⟨unseen _, List.forall_mem_singleton.mpr (unseen _)⟩)
    obtain rfl | rfl := turn.eq_or_other one
    · rw [← others] at wants
      obtain ⟨_, writes, nothing⟩ | ⟨_, silent, makes⟩ := makes.step step
      · rw [uses, writes] at order
        have apart : (turn.other, LockUse.write) ≠ (turn, .write) := fun same => turn.other_ne (congrArg Prod.fst same)
        have again : [(turn.other, LockUse.write), (turn, .write)].Sublist later := order.of_cons_of_ne apart
        exact absurd (again.subset (.tail _ (.head _))) (unwritten nothing rest)
      · exact ih makes wants ended (still silent)
    · rw [one.other_other] at others
      rw [← others] at makes
      obtain ⟨_, writes, nothing⟩ | ⟨_, silent, wants⟩ := wants.step step
      · rw [uses, writes] at order
        have writes : (one, LockUse.write) ∈ later := List.singleton_sublist.mp (List.cons_sublist_cons.mp order)
        obtain settled | ⟨stays, _⟩ := made_in_turn makes nothing rest ended
        · cases made with
          | none => exact absurd writes (unwritten makes rest)
          | some m => exact congrArg some settled.symm
        · exact stays
      · exact ih makes wants ended (still silent)

-- One that has yet to read the settings it starts from.
def Reads (plan : Settings → Option Settings) (p : Procedure α) : Prop :=
  ∃ next, p = .readSettings next ∧ ∀ s, (next s).WillInstall (plan s)

variable {plan : Settings → Option Settings} {reader : Side}

theorem reads_step (reads : Reads plan (c.on reader)) (stepped : c.step? reader = some (d, now)) :
    d.shared = c.shared ∧ now = [(reader, .read)] ∧ d.on reader.other = c.on reader.other ∧
      (d.on reader).WillInstall (plan c.shared.settings) := by
  obtain ⟨x, step, others, uses⟩ := step_parts stepped
  obtain ⟨next, same, installs⟩ := reads
  rw [same] at step uses
  obtain ⟨mine, kept, _⟩ : next c.shared.settings = d.on reader ∧ c.shared = d.shared ∧ _ := by
    simpa [Procedure.step?] using step
  refine ⟨kept.symm, uses, others, ?_⟩
  rw [← mine]
  exact installs c.shared.settings

theorem reads_unfinished (reads : Reads plan (c.on reader)) : ¬c.Ended := by
  intro ended
  obtain ⟨next, same, _⟩ := reads
  have stuck := ended reader
  unfold step? at stuck
  rw [same] at stuck
  cases stuck

theorem read_in_turn (reads : Reads plan (c.on reader)) (wants : (c.on reader.other).WillInstall wanted)
    (run : Runs c trace d) (ended : d.Ended) :
    let s := c.shared.settings
    d.shared.settings = wanted.getD ((plan s).getD s) ∨
      d.shared.settings = (plan (wanted.getD s)).getD (wanted.getD s) ∨
      (d.shared.settings = (plan s).getD s ∧
        [(reader, LockUse.read), (reader.other, .write), (reader, .write)].Sublist trace) := by
  induction run generalizing wanted with
  | nil => exact absurd ended (reads_unfinished reads)
  | @cons c d e turn now later stepped rest ih =>
    obtain rfl | rfl := turn.eq_or_other reader
    · obtain ⟨same, rfl, others, makes⟩ := reads_step reads stepped
      rw [← others] at wants
      obtain settled | ⟨made, order⟩ := made_in_turn makes wants rest ended
      · rw [same] at settled
        exact .inl settled
      · have alone : e.shared.settings = (plan c.shared.settings).getD c.shared.settings := by
          rw [made]
          rfl
        exact .inr (.inr ⟨alone, order.cons_cons _⟩)
    · obtain ⟨x, step, others, _⟩ := step_parts stepped
      rw [reader.other_other] at others
      rw [← others] at reads
      obtain ⟨rfl, _, wants⟩ | ⟨kept, _, wants⟩ := wants.step step
      · -- the reader will see what is installed now
        right; left
        obtain settled | settled | ⟨settled, _⟩ := ih reads wants ended <;> exact settled
      · rw [← kept]
        obtain settled | settled | ⟨settled, order⟩ := ih reads wants ended
        · exact .inl settled
        · exact .inr (.inl settled)
        · exact .inr (.inr ⟨settled, order.trans (List.sublist_append_right _ _)⟩)

-- What the reader makes of its reading stays, if it writes behind the other that has written behind the reading.
theorem overtaken_write_stays (reads : Reads plan (c.on reader)) (wants : (c.on reader.other).WillInstall wanted)
    (run : Runs c trace d) (ended : d.Ended)
    (order : [(reader, LockUse.read), (reader.other, .write), (reader, .write)].Sublist trace) :
    d.shared.settings = (plan c.shared.settings).getD c.shared.settings := by
  induction run generalizing wanted with
  | nil => cases order
  | @cons c d e turn now later stepped rest ih =>
    obtain rfl | rfl := turn.eq_or_other reader
    · obtain ⟨_, rfl, others, makes⟩ := reads_step reads stepped
      rw [← others] at wants
      rw [late_write_stays makes wants rest ended order.of_cons_cons]
      rfl
    · obtain ⟨x, step, others, uses⟩ := step_parts stepped
      rw [reader.other_other] at others
      rw [← others] at reads
      obtain ⟨_, writes, nothing⟩ | ⟨kept, silent, wants⟩ := wants.step step
      · -- it writes once, and this was before the reading
        rw [uses, writes] at order
        have apart : (reader, LockUse.read) ≠ (reader.other, .write) := fun same => nomatch congrArg Prod.snd same
        exact absurd ((order.of_cons_of_ne apart).subset (.tail _ (.head _))) (unwritten nothing rest)
      · have aside {use : LockUse} : (reader, use) ∉ now := fun seen => reader.other_ne ((mem_now stepped).mp seen).1
        have unwritten := unwritten_now stepped silent reader.other
        have unseen : ∀ u ∈ [(reader, LockUse.read), (reader.other, .write), (reader, .write)], u ∉ now :=
          List.forall_mem_cons.mpr ⟨aside, List.forall_mem_cons.mpr ⟨unwritten, List.forall_mem_singleton.mpr aside⟩⟩
        rw [← kept]
        exact ih reads wants ended (sublist_later order unseen)

-- The second reader may see what the first has made, and makes the same of it.
theorem readers_agree (settles : ∀ {s m}, plan s = some m → plan m = some m) (reads : ∀ side, Reads plan (c.on side))
    (run : Runs c trace d) (ended : d.Ended) :
    d.shared.settings = (plan c.shared.settings).getD c.shared.settings := by
  cases run with
  | nil => exact absurd ended (reads_unfinished (reads .left))
  | @cons _ e _ turn now later stepped rest =>
    obtain ⟨same, _, others, makes⟩ := reads_step (reads turn) stepped
    have second := reads turn.other
    rw [← others] at second
    rw [← turn.other_other] at makes
    have settled := read_in_turn second makes rest ended
    rw [same] at settled
    cases made : plan c.shared.settings with
    | none => obtain settled | settled | ⟨settled, _⟩ := settled <;> simpa [made] using settled
    | some m => obtain settled | settled | ⟨settled, _⟩ := settled <;> simpa [made, settles made] using settled

end CallPair
end GuardedWork
