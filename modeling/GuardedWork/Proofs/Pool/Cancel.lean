import GuardedWork.Proofs.Pool.Order

namespace GuardedWork

variable {α ρ : Type}

-- The job whose transform is being called.
def Worker.atWork (w : Worker α ρ) : List Nat :=
  match w.phase with
  | .running job => [job.id]
  | _ => []

-- A job up to this number that may yet be cancelled, or was.
def Parcel.isEarly (c : Nat) : Parcel α ρ → Bool
  | job j => j.id ≤ c
  | result r => r.jobId ≤ c && r.outcome.kind == .cancelled
  | lost _ => false

namespace PoolState

variable {plan : PoolPlan α ρ} {s t : PoolState α ρ} {action : PoolAction} {path : List PoolAction} {i k c : Nat}
  {w : Worker α ρ}

-- What a move is to one worker: its own, or one that brings it a job, or none of its business.
inductive Concern (plan : PoolPlan α ρ) (s t : PoolState α ρ) (i : Nat) (action : PoolAction) : Prop where
  | own {w : Worker α ρ} (found : s.workers[i]? = some w) (move : WorkerMove plan s i w action t)
  | handed {n : Nat} {job : Job α} (waits : s.workers[i]? = some ⟨.waiting, n⟩)
      (holds : t.workers[i]? = some ⟨.holding job, n⟩) (other : action.worker? ≠ some i)
  | aside (same : t.workers[i]? = s.workers[i]?) (other : action.worker? ≠ some i)

theorem worker_own (move : WorkerMove plan s k w action t) : action.worker? = some k := by
  cases move <;> rfl

theorem move_concern (move : Move plan s action t) (i : Nat) : Concern plan s t i action := by
  cases move with
  | dispatcher move =>
    cases move with
    | @pass a k n offers waits bufferless =>
      by_cases here : k = i
      · subst here
        have inside := (List.getElem?_eq_some_iff.mp waits).1
        exact .handed waits (List.getElem?_set_self inside) (by simp [PoolAction.worker?])
      · exact .aside (List.getElem?_set_ne here) (by simp [PoolAction.worker?])
    | _ => exact .aside rfl (by simp [PoolAction.worker?])
  | @worker _ _ k w found move =>
    by_cases here : k = i
    · subst here
      exact .own found move
    · obtain ⟨_, v, workers, _⟩ := worker_turn move
      refine .aside ?_ ?_
      · rw [workers, List.getElem?_set_ne here]
      · rw [worker_own move]
        simpa using here
  | _ => exact .aside rfl (by simp [PoolAction.worker?])

def atWork (i : Nat) (s : PoolState α ρ) : List Nat := s.workers[i]?.elim [] Worker.atWork

-- The job whose transform this worker brings to its end with this action.
def carriesOut (i : Nat) (s : PoolState α ρ) (action : PoolAction) : List Nat :=
  if action = .finish i then s.atWork i else []

theorem carriesOut_other (other : action.worker? ≠ some i) : carriesOut i s action = [] := by
  rw [carriesOut, if_neg]
  rintro rfl
  exact other rfl

-- With the job that the dispatcher is about to put.
def committed (s : PoolState α ρ) : Nat := s.dispatched + (s.dispatcher matches .offering _).toNat

theorem committed_bounds (s : PoolState α ρ) : s.dispatched ≤ s.committed ∧ s.committed ≤ s.dispatched + 1 :=
  ⟨Nat.le_add_right .., Nat.add_le_add_left (Bool.toNat_le _) _⟩

theorem move_committed (watched : plan.dispatcherWatches = true) (cancelled : s.cancelled = true)
    (move : Move plan s action t) : t.committed ≤ s.committed := by
  cases move with
  | dispatcher move =>
    cases move with
    | offer holds unstopped => simp [watched, cancelled] at unstopped
    | enqueue offers | pass offers => simp [committed, offers]
    | pullItem asks | pullEnd asks | pullPanic asks => simp [committed, asks]
    | stop holds => simp [committed, holds]
    | refused offers => simp [committed, offers]
    | close closes => simp [committed, closes]
  | worker found move =>
    have same := worker_beside move
    rw [committed, same.dispatched, same.dispatcher, committed]
  | _ => exact Nat.le_refl _

theorem runs_committed (watched : plan.dispatcherWatches = true) (cancelled : s.cancelled = true)
    (run : Runs plan s path t) : t.dispatched ≤ s.dispatched + 1 := by
  have kept : t.cancelled = true ∧ t.committed ≤ s.committed :=
    runs_keep (P := fun u => u.cancelled = true ∧ u.committed ≤ s.committed)
      (fun known move => ⟨move_cancelled move known.1, (move_committed watched known.1 move).trans known.2⟩)
      run ⟨cancelled, Nat.le_refl _⟩
  exact (committed_bounds t).1.trans (kept.2.trans (committed_bounds s).2)

-- Nobody begins a transform any more, so that what is at work only comes to its end.
theorem move_at_work (watched : plan.workersWatch = true) (cancelled : s.cancelled = true)
    (move : Move plan s action t) (i : Nat) : (carriesOut i s action ++ t.atWork i).Sublist (s.atWork i) := by
  cases move_concern move i with
  | handed waits holds other =>
    rw [carriesOut_other other, atWork, atWork, waits, holds]
    exact List.Sublist.refl _
  | aside same other =>
    rw [carriesOut_other other, atWork, atWork, same]
    exact List.Sublist.refl _
  | own found move =>
    have inside := (List.getElem?_eq_some_iff.mp found).1
    cases move with
    | start unstopped => simp [watched, cancelled] at unstopped
    | _ => simp [carriesOut, atWork, Worker.atWork, setWorker, letGo, answer, inside]

theorem runs_at_work (watched : plan.workersWatch = true) (cancelled : s.cancelled = true) (run : Runs plan s path t)
    (i : Nat) : (noted plan (carriesOut i) s path ++ t.atWork i).Sublist (s.atWork i) := by
  refine runs_note (P := fun s => s.cancelled = true)
    (R := fun s notes t => (notes ++ t.atWork i).Sublist (s.atWork i)) ?_ ?_ ?_ run cancelled
  · intro s
    exact List.Sublist.refl _
  · intro s t action cancelled move
    exact move_cancelled move cancelled
  · intro s t u action notes cancelled move rest
    rw [List.append_assoc]
    exact (rest.append_left _).trans (move_at_work watched cancelled move i)

theorem at_work_one (i : Nat) (s : PoolState α ρ) : (s.atWork i).length ≤ 1 := by
  unfold atWork
  cases s.workers[i]? with
  | none => exact Nat.zero_le 1
  | some w =>
    obtain ⟨phase, handled⟩ := w
    cases phase <;> simp [Worker.atWork]

theorem at_work_handed (numbered : Numbered plan s) (inOrder : InOrder s) : ∀ id ∈ s.atWork i, id ≤ s.handedOut := by
  intro id inside
  unfold atWork at inside
  cases found : s.workers[i]? with
  | none => simp [found] at inside
  | some w =>
    rw [found, Option.elim_some] at inside
    obtain ⟨others, whole, _⟩ := carried_split found
    obtain ⟨phase, handled⟩ := w
    cases phase with
    | running job =>
      cases List.mem_singleton.mp inside
      have member : Parcel.job job ∈ s.handed := by simp [handed, whole, Worker.parcels]
      exact handed_within numbered inOrder member
    | _ => cases inside

-- Only what has been taken is ever carried out.
theorem runs_carry_out (numbered : Numbered plan s) (inOrder : InOrder s) (run : Runs plan s path t) (i : Nat) :
    s.handedOut ≤ t.handedOut ∧ ∀ id ∈ noted plan (carriesOut i) s path, id ≤ t.handedOut := by
  refine runs_note (P := fun s => Numbered plan s ∧ InOrder s)
    (R := fun s notes t => s.handedOut ≤ t.handedOut ∧ ∀ id ∈ notes, id ≤ t.handedOut) ?_ ?_ ?_ run ⟨numbered, inOrder⟩
  · intro s
    exact ⟨Nat.le_refl _, by simp⟩
  · intro s t action known move
    exact ⟨move_numbered known.1 move, (move_takes known.2 move).1⟩
  · intro s t u action notes known move rest
    have further : s.handedOut ≤ t.handedOut := (move_takes known.2 move).2 ▸ Nat.le_add_right ..
    refine ⟨further.trans rest.1, ?_⟩
    intro id inside
    rcases List.mem_append.mp inside with now | later
    · unfold carriesOut at now
      split at now
      · exact (at_work_handed known.1 known.2 id now).trans (further.trans rest.1)
      · cases now
    · exact rest.2 id later

-- Jobs above this number are not at work, and are answered only as cancelled.
structure Late (c : Nat) (s : PoolState α ρ) : Prop where
  cancelled : s.cancelled = true
  working : ∀ i, ∀ id ∈ s.atWork i, id ≤ c
  results : ∀ r, .result r ∈ s.parcels → c < r.jobId → r.outcome = .cancelled

theorem handed_late (numbered : Numbered plan s) (inOrder : InOrder s) (cancelled : s.cancelled = true) :
    Late s.handedOut s := by
  refine ⟨cancelled, fun i => at_work_handed numbered inOrder, ?_⟩
  intro r inside beyond
  have member : Parcel.result r ∈ s.handed := by
    rw [parcels_handed] at inside
    rcases Multiset.mem_add.mp inside with here | queued
    · exact here
    · simp [Parcel.ofJobs] at queued
  exact absurd (handed_within numbered inOrder member) (Nat.not_le_of_lt beyond)

theorem move_late (watched : plan.workersWatch = true) (late : Late c s) (move : Move plan s action t) : Late c t := by
  refine ⟨move_cancelled move late.cancelled, ?_, ?_⟩
  · intro i id inside
    have part := move_at_work watched late.cancelled move i
    exact late.working i id (part.subset (List.mem_append_right _ inside))
  · intro r inside beyond
    cases move_shift move with
    | kept count same => exact late.results r (same ▸ inside) beyond
    | lost job rest count before after =>
      rw [after] at inside
      refine late.results r ?_ beyond
      rw [before]
      simpa using inside
    | accepted offers count after =>
      rw [after] at inside
      exact late.results r (by simpa using inside) beyond
    | answered job worker outcome rest count before after turn =>
      rw [after] at inside
      rcases Multiset.mem_cons.mp inside with new | old
      · cases new
        cases turn with
        | skipped => rfl
        | carriedOut found =>
          have working : job.id ∈ s.atWork worker := by simp [atWork, found, Worker.atWork]
          exact absurd (late.working worker _ working) (Nat.not_le_of_lt beyond)
      · exact late.results r (by rw [before]; exact Multiset.mem_cons_of_mem old) beyond

theorem move_early (reached : c ≤ s.dispatched) (move : Move plan s action t) :
    t.parcels.countP (fun p => p.isEarly c = true) ≤ s.parcels.countP (fun p => p.isEarly c = true) := by
  cases move_shift move with
  | kept count same => rw [same]
  | @accepted a offers count after =>
    have beyond : (Parcel.job ⟨s.dispatched + 1, a⟩ : Parcel α ρ).isEarly c ≠ true := by
      simp [Parcel.isEarly]
      omega
    rw [after, Multiset.countP_cons, if_neg beyond]
    exact Nat.le_refl _
  | lost job rest count before after =>
    rw [before, after, Multiset.countP_cons, Multiset.countP_cons]
    simp [Parcel.isEarly]
  | answered job worker outcome rest count before after =>
    have early : (Parcel.result ⟨job.id, worker, outcome⟩ : Parcel α ρ).isEarly c = true →
        (Parcel.job job : Parcel α ρ).isEarly c = true := by
      simp [Parcel.isEarly]
      omega
    rw [before, after, Multiset.countP_cons, Multiset.countP_cons]
    split
    · next here => rw [if_pos (early here)]
    · exact Nat.add_le_add_left (Nat.zero_le _) _

-- Up to the cancellation only the workers have jobs in hand that are not through.
theorem early_workers (numbered : Numbered plan s) (inOrder : InOrder s) (fresh : s.cancelled = false) :
    s.parcels.countP (fun p => p.isEarly s.handedOut = true) ≤ s.workers.length := by
  have queued : (Parcel.ofJobs s.jobs.items : Multiset (Parcel α ρ)).countP (fun p => p.isEarly s.handedOut = true) = 0 := by
    rw [Multiset.countP_eq_zero]
    intro p inside early
    obtain ⟨job, member, rfl⟩ := List.mem_map.mp (Multiset.mem_coe.mp inside)
    have beyond := queued_beyond inOrder member
    exact Nat.not_le_of_lt beyond (by simpa [Parcel.isEarly] using early)
  have answered : ∀ results : List (JobResult ρ), Parcel.ofResults results ≤ s.parcels →
      (Parcel.ofResults results : Multiset (Parcel α ρ)).countP (fun p => p.isEarly s.handedOut = true) = 0 := by
    intro results part
    rw [Multiset.countP_eq_zero]
    intro p inside early
    have sound := numbered.sound p (Multiset.mem_of_le part inside)
    obtain ⟨r, _, rfl⟩ := List.mem_map.mp (Multiset.mem_coe.mp inside)
    obtain ⟨_, _, _, ended | ⟨_, cancelled, _⟩⟩ := sound
    · have kind := Ending.uncancelled ended
      simp [Parcel.isEarly, kind] at early
    · rw [fresh] at cancelled
      cases cancelled
  have waiting : Parcel.ofResults s.results.items ≤ s.parcels := by
    rw [parcels, add_right_comm]
    exact Multiset.le_add_left ..
  have taken : Parcel.ofResults s.taken ≤ s.parcels := Multiset.le_add_left ..
  rw [parcels, Multiset.countP_add, Multiset.countP_add, Multiset.countP_add, queued, answered _ waiting,
    answered _ taken]
  exact (Multiset.countP_le_card _ _).trans (carried_within s.workers)

theorem taken_early (c : Nat) (s : PoolState α ρ) :
    s.taken.countP (fun r => r.jobId ≤ c && r.outcome.kind == .cancelled) ≤
      s.parcels.countP (fun p => p.isEarly c = true) := by
  have part : Parcel.ofResults s.taken ≤ s.parcels := Multiset.le_add_left ..
  refine Nat.le_trans (Nat.le_of_eq ?_) (Multiset.countP_le_of_le _ part)
  rw [Parcel.ofResults, Multiset.coe_countP, List.countP_map]
  congr 1
  funext r
  exact Bool.decide_eq_true.symm

-- From the cancellation on; c jobs were taken by then.
structure Stopping (c : Nat) (s : PoolState α ρ) : Prop where
  late : Late c s
  early : s.parcels.countP (fun p => p.isEarly c = true) ≤ s.workers.length
  reached : c ≤ s.dispatched

theorem move_stopping (watched : plan.workersWatch = true) (stopping : Stopping c s) (move : Move plan s action t) :
    Stopping c t := by
  refine ⟨move_late watched stopping.late move, ?_, ?_⟩
  · rw [move_size move]
    exact (move_early stopping.reached move).trans stopping.early
  · have more : s.dispatched ≤ t.dispatched := by
      cases move_shift move with
      | kept count | answered _ _ _ _ count | lost _ _ count | accepted _ count => omega
    exact stopping.reached.trans more

-- No worker takes a job in the very step that cancels.
theorem cancels_aside (fresh : s.cancelled = false) (move : Move plan s action t) (set : t.cancelled = true) :
    action.takesJob = false := by
  have kept : t.cancelled = s.cancelled → action.takesJob = false := by
    intro same
    rw [same, fresh] at set
    cases set
  cases move with
  | dispatcher move =>
    cases move with
    | pass => exact kept rfl
    | _ => rfl
  | worker found move =>
    cases move with
    | take => exact kept rfl
    | _ => rfl
  | _ => rfl

theorem cancels_stopping (numbered : Numbered plan s) (inOrder : InOrder s) (fresh : s.cancelled = false)
    (move : Move plan s action t) (set : t.cancelled = true) : t.handedOut = s.handedOut ∧ Stopping t.handedOut t := by
  obtain ⟨next, count⟩ := move_takes inOrder move
  rw [cancels_aside fresh move set, Bool.toNat_false, Nat.add_zero] at count
  refine ⟨count, handed_late (move_numbered numbered move) next set, ?_, Nat.sub_le ..⟩
  rw [count, move_size move]
  exact (move_early (Nat.sub_le ..) move).trans (early_workers numbered inOrder fresh)

theorem noted_append {κ : Type} {note : PoolState α ρ → PoolAction → List κ} {later : List PoolAction}
    (run : Runs plan s path t) : noted plan note s (path ++ later) = noted plan note s path ++ noted plan note t later := by
  induction run with
  | nil => rfl
  | cons step _ ih =>
    obtain ⟨stepped⟩ := step
    simp only [List.cons_append, noted, stepped, ih, List.append_assoc]

end PoolState
end GuardedWork
