import GuardedWork.Proofs.Pool.Places

namespace GuardedWork

variable {α ρ : Type}

def PoolAction.takesJob : PoolAction → Bool
  | take _ | passJob _ => true
  | _ => false

namespace PoolState

variable {plan : PoolPlan α ρ} {s t : PoolState α ρ} {action : PoolAction} {path : List PoolAction} {i : Nat}
  {w : Worker α ρ} {p : Parcel α ρ} {a : Assignment α ρ} {size : Nat}

-- How many jobs workers have taken.
def handedOut (s : PoolState α ρ) : Nat := s.dispatched - s.jobs.items.length

structure InOrder (s : PoolState α ρ) : Prop where
  queued : s.jobs.items.map Job.id = List.range' (s.handedOut + 1) s.jobs.items.length
  accepted : s.jobs.items.length ≤ s.dispatched
  fit : s.jobs.items.length ≤ s.jobs.capacity

theorem queued_next {job : Job α} {rest : List (Job α)} (inOrder : InOrder s) (queued : s.jobs.items = job :: rest) :
    job.id = s.handedOut + 1 ∧ rest.map Job.id = List.range' (s.handedOut + 2) rest.length := by
  have ids := inOrder.queued
  rwa [queued, List.map_cons, List.length_cons, List.range'_succ, List.cons_eq_cons] at ids

theorem bufferless_empty (inOrder : InOrder s) (bufferless : s.jobs.capacity = 0) : s.jobs.items = [] :=
  List.length_eq_zero_iff.mp (Nat.le_zero.mp (bufferless ▸ inOrder.fit))

def TakesOn (s : PoolState α ρ) (action : PoolAction) (t : PoolState α ρ) : Prop :=
  InOrder t ∧ t.handedOut = s.handedOut + action.takesJob.toNat

theorem takes_beside (inOrder : InOrder s) (items : t.jobs.items = s.jobs.items) (count : t.dispatched = s.dispatched)
    (capacity : t.jobs.capacity = s.jobs.capacity) (none : action.takesJob = false) : TakesOn s action t := by
  have same : t.handedOut = s.handedOut := by rw [handedOut, items, count, handedOut]
  refine ⟨⟨?_, ?_, ?_⟩, by rw [same, none]; rfl⟩
  · rw [same, items]
    exact inOrder.queued
  · rw [items, count]
    exact inOrder.accepted
  · rw [items, capacity]
    exact inOrder.fit

theorem worker_takes (inOrder : InOrder s) (move : WorkerMove plan s i w action t) : TakesOn s action t := by
  cases move with
  | @take n job rest queued =>
    have accepted := inOrder.accepted
    have fit := inOrder.fit
    rw [queued, List.length_cons] at accepted fit
    have count : s.dispatched - rest.length = s.handedOut + 1 := by
      rw [handedOut, queued, List.length_cons]
      omega
    refine ⟨⟨?_, Nat.le_of_succ_le accepted, Nat.le_of_succ_le fit⟩, count⟩
    show rest.map Job.id = List.range' (s.dispatched - rest.length + 1) rest.length
    rw [count]
    exact (queued_next inOrder queued).2
  | _ => exact takes_beside inOrder rfl rfl rfl rfl

theorem dispatcher_takes (inOrder : InOrder s) (move : DispatcherMove plan s action t) : TakesOn s action t := by
  have accepted := inOrder.accepted
  cases move with
  | @enqueue a offers heard room =>
    let items := s.jobs.items ++ [⟨s.dispatched + 1, a⟩]
    have longer : items.length = s.jobs.items.length + 1 := List.length_append
    have count : s.dispatched + 1 - items.length = s.handedOut := by
      rw [longer]
      exact Nat.add_sub_add_right ..
    have last : s.dispatched + 1 = s.handedOut + 1 + s.jobs.items.length := by
      rw [handedOut]
      omega
    refine ⟨⟨?_, longer ▸ Nat.succ_le_succ accepted, longer ▸ Nat.succ_le_of_lt room⟩, count⟩
    show items.map Job.id = List.range' (s.dispatched + 1 - items.length + 1) items.length
    rw [count, longer, List.range'_1_concat, ← last, ← inOrder.queued]
    exact List.map_append
  | pass offers waits bufferless =>
    have empty := bufferless_empty inOrder bufferless
    refine ⟨⟨?_, Nat.le_succ_of_le accepted, inOrder.fit⟩, ?_⟩
    · simp [setWorker, empty]
    · simp [handedOut, setWorker, empty, PoolAction.takesJob]
  | _ => exact takes_beside inOrder rfl rfl rfl rfl

theorem move_takes (inOrder : InOrder s) (move : Move plan s action t) : TakesOn s action t := by
  cases move with
  | dispatcher move => exact dispatcher_takes inOrder move
  | worker found move => exact worker_takes inOrder move
  | _ => exact takes_beside inOrder rfl rfl rfl rfl

theorem runs_take (run : Runs plan s path t) (inOrder : InOrder s) :
    InOrder t ∧ t.handedOut = s.handedOut + path.countP PoolAction.takesJob := by
  induction run with
  | nil => exact ⟨inOrder, rfl⟩
  | @cons s t u action rest step _ ih =>
    obtain ⟨stepped⟩ := step
    obtain ⟨next, count⟩ := move_takes inOrder (move_sound stepped)
    obtain ⟨last, all⟩ := ih next
    refine ⟨last, ?_⟩
    rw [all, count, List.countP_cons]
    cases action.takesJob
    · simp
    · simp only [Bool.toNat_true, if_true]
      omega

theorem opening_unhanded (opened : a.opening? size = some s) : s.handedOut = 0 := by
  rcases opening_cases opened with rfl | ⟨d, filling, _, _, rfl⟩
  · rfl
  · simp [handedOut, start, Queue.dropProducer, filling.count]

theorem opening_in_order (opened : a.opening? size = some s) : InOrder s := by
  have none := opening_unhanded opened
  rcases opening_cases opened with rfl | ⟨d, filling, _, _, rfl⟩
  · exact ⟨rfl, Nat.le_refl 0, Nat.zero_le _⟩
  · refine ⟨?_, Nat.le_of_eq filling.count, filling.fit⟩
    rw [none, Nat.zero_add]
    exact filling.count.symm ▸ filling.ids

theorem opened_handed (opened : a.opening? size = some s) (run : Runs a.plan s path t) :
    t.handedOut = path.countP PoolAction.takesJob := by
  rw [(runs_take run (opening_in_order opened)).2, opening_unhanded opened, Nat.zero_add]

-- All that does not wait in the job queue.
def handed (s : PoolState α ρ) : Multiset (Parcel α ρ) :=
  carried s.workers + Parcel.ofResults s.results.items + Parcel.ofResults s.taken

theorem parcels_handed (s : PoolState α ρ) : s.parcels = s.handed + Parcel.ofJobs s.jobs.items := by
  rw [parcels, handed]
  abel

theorem handed_ids (numbered : Numbered plan s) (inOrder : InOrder s) :
    s.handed.map Parcel.id = ↑(List.range' 1 s.handedOut) := by
  have accepted := inOrder.accepted
  have parted : List.range' 1 s.dispatched =
      List.range' 1 s.handedOut ++ List.range' (s.handedOut + 1) s.jobs.items.length := by
    rw [Nat.add_comm s.handedOut 1, List.range'_append_1]
    congr 1
    rw [handedOut]
    omega
  have ids := numbered.ids
  rw [parcels_handed, Multiset.map_add, ids_ofJobs, inOrder.queued, parted, ← Multiset.coe_add] at ids
  exact add_right_cancel ids

theorem handed_within (numbered : Numbered plan s) (inOrder : InOrder s) (inside : p ∈ s.handed) :
    p.id ≤ s.handedOut := by
  have known := Multiset.mem_map_of_mem Parcel.id inside
  rw [handed_ids numbered inOrder, Multiset.mem_coe, List.mem_range'_1] at known
  omega

theorem queued_beyond (inOrder : InOrder s) {job : Job α} (inside : job ∈ s.jobs.items) : s.handedOut < job.id := by
  have known : job.id ∈ s.jobs.items.map Job.id := List.mem_map_of_mem inside
  rw [inOrder.queued, List.mem_range'_1] at known
  omega

end PoolState
end GuardedWork
