import GuardedWork.Proofs.Pool.Cancel
import GuardedWork.Proofs.Pool.Close

namespace GuardedWork

variable {α ρ : Type}

namespace PoolState

variable {plan : PoolPlan α ρ} {s t : PoolState α ρ} {action : PoolAction} {path : List PoolAction} {i : Nat}
  {results : List (JobResult ρ)} {a : Assignment α ρ} {size : Nat}

def offeredBy (i : Nat) (s : PoolState α ρ) : List (JobResult ρ) := s.workers[i]?.elim [] Worker.offered

-- Down to the one that it holds out at the moment.
def sequence (i : Nat) (s : PoolState α ρ) : List (JobResult ρ) :=
  (s.taken ++ s.results.items).filter (fun r => r.worker == i) ++ s.offeredBy i

-- Every worker signs its results.
def Signed (s : PoolState α ρ) : Prop := ∀ i, ∀ r ∈ s.offeredBy i, r.worker = i

theorem move_signed (signed : Signed s) (move : Move plan s action t) : Signed t := by
  intro i r inside
  cases move_concern move i with
  | handed waits holds => simp [offeredBy, holds, Worker.offered] at inside
  | aside same =>
    rw [offeredBy, same] at inside
    exact signed i r inside
  | own found move =>
    have place := (List.getElem?_eq_some_iff.mp found).1
    cases move with
    | skip | finish =>
      simp only [offeredBy, answer, setWorker, List.getElem?_set_self place, Option.elim_some, Worker.offered,
        List.mem_singleton] at inside
      rw [inside]
    | _ => simp [offeredBy, letGo, setWorker, place, Worker.offered] at inside

theorem opening_unoffered (opened : a.opening? size = some s) (i : Nat) : s.offeredBy i = [] := by
  rw [offeredBy, opening_workers opened, List.getElem?_replicate]
  split <;> rfl

theorem opening_signed (opened : a.opening? size = some s) : Signed s := by
  intro i r inside
  rw [opening_unoffered opened] at inside
  cases inside

theorem puts_other (signed : Signed s) (other : action.worker? ≠ some i) :
    (s.puts action).filter (fun r => r.worker == i) = [] := by
  have elsewhere : ∀ k, k ≠ i → (s.offeredBy k).filter (fun r => r.worker == i) = [] := by
    intro k differ
    rw [List.filter_eq_nil_iff]
    intro r inside
    rw [signed k r inside]
    simpa using differ
  cases action with
  | give k =>
    simp only [puts]
    split
    · rfl
    · exact elsewhere k fun here => other (congrArg some here)
  | passResult k => exact elsewhere k fun here => other (congrArg some here)
  | _ => rfl

-- A worker's results go on by one answer at a time, and none is changed behind it.
inductive Course (plan : PoolPlan α ρ) (s t : PoolState α ρ) (i : Nat) : Prop where
  | kept (before : (t.sequence i).Sublist (s.sequence i))
      (atWork : (t.atWork i).Sublist (s.atWork i) ∨ (plan.workersWatch && s.cancelled) = false)
  | answered {job : Job α} {outcome : Outcome ρ} (next : t.sequence i = s.sequence i ++ [⟨job.id, i, outcome⟩])
      (turn : Turn plan s i job outcome) (done : t.atWork i = [])

theorem sequence_next (fit : ResultsFit s) (move : Move plan s action t) (i : Nat) : t.sequence i =
    (s.taken ++ s.results.items).filter (fun r => r.worker == i) ++
      (s.puts action).filter (fun r => r.worker == i) ++ t.offeredBy i := by
  rw [sequence, move_puts fit move, List.filter_append]

theorem move_course (fit : ResultsFit s) (signed : Signed s) (move : Move plan s action t) (i : Nat) :
    Course plan s t i := by
  have next := sequence_next fit move i
  cases move_concern move i with
  | handed waits holds other =>
    rw [puts_other signed other, List.append_nil] at next
    refine .kept ?_ (.inl ?_)
    · rw [next, sequence, offeredBy, offeredBy, waits, holds]
      exact List.Sublist.refl _
    · rw [atWork, holds]
      exact List.nil_sublist _
  | aside same other =>
    rw [puts_other signed other, List.append_nil] at next
    refine .kept ?_ (.inl ?_)
    · rw [next, sequence, offeredBy, offeredBy, same]
    · rw [atWork, atWork, same]
  | @own w found move =>
    have place := (List.getElem?_eq_some_iff.mp found).1
    have own : s.offeredBy i = w.offered := by rw [offeredBy, found, Option.elim_some]
    have signs : w.offered.filter (fun r => r.worker == i) = w.offered := by
      rw [List.filter_eq_self]
      intro r inside
      simpa using signed i r (own ▸ inside)
    have quiet : s.puts action = [] → (t.offeredBy i).Sublist w.offered → (t.sequence i).Sublist (s.sequence i) := by
      intro none offers
      rw [next, none, sequence, own, List.filter_nil, List.append_nil]
      exact offers.append_left _
    have gives : s.puts action = w.offered → t.offeredBy i = [] → (t.sequence i).Sublist (s.sequence i) := by
      intro all none
      rw [next, all, none, sequence, own, signs, List.append_nil]
    have answers : ∀ r, s.puts action = [] → w.offered = [] → t.offeredBy i = [r] →
        t.sequence i = s.sequence i ++ [r] := by
      intro r none before offers
      rw [next, none, offers, sequence, own, before, List.filter_nil, List.append_nil]
    have now : ∀ v, (s.workers.set i v)[i]? = some v := fun v => List.getElem?_set_self place
    cases move with
    | skip watched cancelled =>
      refine .answered (answers _ rfl rfl ?_) (.skipped found watched cancelled) ?_
      · simp [offeredBy, answer, setWorker, now, Worker.offered]
      · simp [atWork, answer, setWorker, now, Worker.atWork]
    | finish ended =>
      refine .answered (answers _ rfl rfl ?_) (.carriedOut found ended) ?_
      · simp [offeredBy, answer, setWorker, now, Worker.offered]
      · simp [atWork, answer, setWorker, now, Worker.atWork]
    | start unstopped =>
      refine .kept (quiet rfl ?_) (.inr unstopped)
      simp [offeredBy, setWorker, now, Worker.offered]
    | take | exit | panic =>
      refine .kept (quiet rfl ?_) (.inl ?_)
      · simp [offeredBy, letGo, setWorker, now, Worker.offered]
      · simp [atWork, letGo, setWorker, now, Worker.atWork]
    | refused unheard =>
      refine .kept (quiet (by simp [puts, unheard]) ?_) (.inl ?_)
      · simp [offeredBy, letGo, setWorker, now, Worker.offered]
      · simp [atWork, letGo, setWorker, now, Worker.atWork]
    | give heard =>
      refine .kept (gives (by simp [puts, heard, found]) ?_) (.inl ?_)
      · simp [offeredBy, setWorker, now, Worker.offered]
      · simp [atWork, setWorker, now, Worker.atWork]
    | pass =>
      refine .kept (gives (by simp [puts, found]) ?_) (.inl ?_)
      · simp [offeredBy, setWorker, now, Worker.offered]
      · simp [atWork, setWorker, now, Worker.atWork]

structure Settled (i : Nat) (s : PoolState α ρ) : Prop where
  stopped : ∀ r ∈ s.sequence i, r.outcome = .cancelled → s.cancelled = true ∧ s.atWork i = []
  ordered : (s.sequence i).Pairwise fun x y => x.outcome = .cancelled → y.outcome = .cancelled

theorem move_settled (watched : plan.workersWatch = true) (fit : ResultsFit s) (signed : Signed s)
    (settled : Settled i s) (move : Move plan s action t) : Settled i t := by
  have grows := move_cancelled move
  cases move_course fit signed move i with
  | kept before works =>
    refine ⟨?_, settled.ordered.sublist before⟩
    intro r inside skipped
    obtain ⟨cancelled, idle⟩ := settled.stopped r (before.subset inside) skipped
    refine ⟨grows cancelled, ?_⟩
    rcases works with less | unstopped
    · rw [idle] at less
      exact List.sublist_nil.mp less
    · simp [watched, cancelled] at unstopped
  | @answered job outcome next turn done =>
    refine ⟨?_, ?_⟩
    · intro r inside skipped
      refine ⟨?_, done⟩
      rw [next] at inside
      rcases List.mem_append.mp inside with old | new
      · exact grows (settled.stopped r old skipped).1
      · cases List.mem_singleton.mp new
        cases turn with
        | skipped found watched cancelled => exact grows cancelled
        | carriedOut found ended => exact absurd (congrArg Outcome.kind skipped) (Ending.uncancelled ended)
    · rw [next, List.pairwise_append]
      refine ⟨settled.ordered, List.pairwise_singleton _ _, ?_⟩
      intro x old y new skipped
      cases List.mem_singleton.mp new
      cases turn with
      | skipped => rfl
      | carriedOut found =>
        have idle := (settled.stopped x old skipped).2
        simp [atWork, found, Worker.atWork] at idle

theorem runs_settled (watched : plan.workersWatch = true) (run : Runs plan s path t) (fit : ResultsFit s)
    (signed : Signed s) (settled : ∀ i, Settled i s) (i : Nat) : Settled i t := by
  have kept : ResultsFit t ∧ Signed t ∧ ∀ i, Settled i t := by
    refine runs_keep (P := fun u => ResultsFit u ∧ Signed u ∧ ∀ i, Settled i u) ?_ run ⟨fit, signed, settled⟩
    rintro s t action ⟨fit, signed, settled⟩ move
    exact ⟨move_fit fit move, move_signed signed move, fun i => move_settled watched fit signed (settled i) move⟩
  exact kept.2.2 i

-- Only the last part of an ordered sequence is cancelled.
theorem cancelled_split (ordered : results.Pairwise fun x y => x.outcome = .cancelled → y.outcome = .cancelled) :
    ∃ front back, results = front ++ back ∧ (∀ r ∈ front, r.outcome ≠ .cancelled) ∧
      ∀ r ∈ back, r.outcome = .cancelled := by
  induction results with
  | nil => exact ⟨[], [], rfl, by simp, by simp⟩
  | cons r rest ih =>
    obtain ⟨behind, ordered⟩ := List.pairwise_cons.mp ordered
    by_cases skipped : r.outcome = .cancelled
    · refine ⟨[], r :: rest, rfl, by simp, ?_⟩
      intro x inside
      rcases List.mem_cons.mp inside with rfl | later
      · exact skipped
      · exact behind x later skipped
    · obtain ⟨front, back, rfl, carried, cancelled⟩ := ih ordered
      refine ⟨r :: front, back, rfl, ?_, cancelled⟩
      intro x inside
      rcases List.mem_cons.mp inside with rfl | later
      · exact skipped
      · exact carried x later

end PoolState
end GuardedWork
