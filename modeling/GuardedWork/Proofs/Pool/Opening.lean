import GuardedWork.Pool.Start
import GuardedWork.Proofs.Pool.Numbering

namespace GuardedWork

variable {α ρ : Type}

namespace Dispatcher

variable {source : Source α} {d : Dispatcher α} {r : Dispatched α} {capacity : Nat}

-- As a dispatcher is that fills a queue of this capacity, which nobody takes from yet.
structure Filling (source : Source α) (capacity : Nat) (d : Dispatcher α) : Prop where
  producers : d.jobs.producers = 1
  consumers : d.jobs.consumers = 1
  supplied : ∀ k < d.dispatched, ∃ a, (source k).pulled = .item a
  ids : d.jobs.items.map Job.id = List.range' 1 d.dispatched
  sound : ∀ job ∈ d.jobs.items, source.Supplies job
  capacity : d.jobs.capacity = capacity
  fit : d.jobs.items.length ≤ d.jobs.capacity

theorem Filling.count (filling : Filling source capacity d) : d.jobs.items.length = d.dispatched := by
  simpa using congrArg List.length filling.ids

theorem filling_put {a : α} {cancelled : Bool} (filling : Filling source capacity d)
    (given : (source d.dispatched).pulled = .item a) (room : d.jobs.items.length < d.jobs.capacity) :
    Filling source capacity { d with
      jobs := { d.jobs with items := d.jobs.items ++ [⟨d.dispatched + 1, a⟩] }
      dispatched := d.dispatched + 1
      cancelled } := by
  refine ⟨filling.producers, filling.consumers, ?_, ?_, ?_, filling.capacity, ?_⟩
  · intro k below
    rcases Nat.lt_succ_iff_lt_or_eq.mp below with old | rfl
    · exact filling.supplied k old
    · exact ⟨a, given⟩
  · simp [filling.ids, List.range'_1_concat, Nat.add_comm]
  · intro job inside
    rcases List.mem_append.mp inside with old | new
    · exact filling.sound job old
    · cases List.mem_singleton.mp new
      exact ⟨d.dispatched, rfl, given⟩
  · rw [List.length_append]
    exact Nat.succ_le_of_lt room

theorem dispatchFrom_filling {fuel : Nat} (filling : Filling source capacity d)
    (ran : dispatchFrom source fuel d.dispatched d = some r) :
    Filling source capacity r.dispatcher ∧ r.ending ≠ .refused ∧
      source.EndsAt d.attached r.dispatcher.cancelled r.dispatcher.dispatched r.ending := by
  induction fuel generalizing d with
  | zero => cases ran
  | succ fuel ih =>
    rw [dispatchFrom] at ran
    dsimp only at ran
    split at ran
    · next ended =>
      cases ran
      exact ⟨{ filling with }, by simp, rfl, .inl ended⟩
    · next panicked =>
      cases ran
      exact ⟨{ filling with }, by simp, panicked⟩
    · next a given =>
      split at ran
      · next stopped =>
        cases ran
        obtain ⟨watched, cancelled⟩ := Bool.and_eq_true_iff.mp stopped
        exact ⟨{ filling with }, by simp, rfl, .inr ⟨watched, cancelled⟩⟩
      · split at ran
        · next accepted =>
          obtain ⟨_, room, rfl⟩ := Queue.put_eq_accepted.mp accepted
          have rest := ih (filling_put filling given room) ran
          exact rest
        · next refused =>
          have consumers := filling.consumers
          rw [Queue.put_eq_refused.mp refused] at consumers
          cases consumers
        · cases ran

theorem dispatch_filling {watched cancelled : Bool}
    (ran : (ofQueue (.bounded capacity) watched cancelled).dispatch source = some r) :
    Filling source capacity r.dispatcher ∧ r.ending ≠ .refused ∧
      source.EndsAt watched r.dispatcher.cancelled r.dispatcher.dispatched r.ending := by
  have first : Filling source capacity (ofQueue (.bounded capacity) watched cancelled) :=
    ⟨rfl, rfl, by simp [ofQueue], rfl, by simp [ofQueue, Queue.bounded], rfl, Nat.zero_le _⟩
  exact dispatchFrom_filling first ran

end Dispatcher

-- As a pool of this size opens, whatever its threads and queues cost. There is none if the jobs are
-- to be dispatched before the start and one of them would have to wait for room.
def Assignment.opening? (a : Assignment α ρ) (size : Nat) : Option (PoolState α ρ) :=
  if a.dispatchesWhileRunning then
    some (.start size .asking 0 (.bounded a.jobCapacity) a.resultCapacity a.consumer a.cancelled)
  else
    let dispatcher := Dispatcher.ofQueue (.bounded a.jobCapacity) a.plan.dispatcherWatches a.cancelled
    (dispatcher.dispatch a.plan.source).map fun d =>
      .start size (.closed d.ending) d.dispatcher.dispatched d.dispatcher.jobs.dropProducer a.resultCapacity a.consumer
        d.dispatcher.cancelled

theorem startEmpty_opening {p : WorkerPool} {a : Assignment α ρ} {s : PoolState α ρ}
    (running : a.dispatchesWhileRunning = true) (started : (p.startEmpty a).start = .running s) :
    a.opening? p.size = some s := by
  unfold WorkerPool.startEmpty at started
  split at started
  · cases started
    simp [Assignment.opening?, running]
  · cases started

theorem startFilled_opening {p : WorkerPool} {a : Assignment α ρ} {s : PoolState α ρ}
    (fills : a.dispatchesWhileRunning = false) (started : (p.startFilled a).start = .running s) :
    a.opening? p.size = some s := by
  unfold WorkerPool.startFilled at started
  dsimp only at started
  split at started
  · cases started
  · next ran =>
    split at started
    · cases started
      simp [Assignment.opening?, fills, ran]
    · cases started

-- Whatever starts has a worker and opens so.
theorem start_opening {p : WorkerPool} {a : Assignment α ρ} {s : PoolState α ρ}
    (started : (p.start a).start = .running s) : p.size ≠ 0 ∧ a.opening? p.size = some s := by
  unfold WorkerPool.start WorkerPool.check at started
  by_cases sized : p.size = 0
  · simp [sized] at started
  · simp only [sized, if_false] at started
    refine ⟨sized, ?_⟩
    split at started
    · cases started
    · split at started
      · next running => exact startEmpty_opening running started
      · next fills => exact startFilled_opening (Bool.eq_false_iff.mpr fills) started

namespace PoolState

variable {plan : PoolPlan α ρ} {a : Assignment α ρ} {size dispatched capacity : Nat} {s t : PoolState α ρ}
  {path : List PoolAction} {dispatcher : DispatcherPhase α} {jobs : Queue (Job α)} {consumer : ConsumerPhase}
  {cancelled : Bool}

theorem alive_replicate (size : Nat) : alive (List.replicate size (Worker.idle : Worker α ρ)) = size := by
  simp [alive, Worker.idle, Worker.isGone, List.countP_replicate]

theorem start_parcels : (start size dispatcher dispatched jobs capacity consumer cancelled : PoolState α ρ).parcels =
    Parcel.ofJobs jobs.items := by
  simp [parcels, start, carried, Worker.idle, Worker.parcels, Parcel.ofResults]

theorem start_handles (producers : jobs.producers = if dispatcher matches .closed _ then 0 else 1) :
    Handles (start size dispatcher dispatched jobs capacity consumer cancelled : PoolState α ρ) where
  jobConsumers := (alive_replicate size).symm
  jobProducers := producers
  resultProducers := by simp [start, alive_replicate]
  resultConsumers := rfl
  joined := by simp [start]
  released := by simp [start]

theorem start_exits (begun : dispatcher ≠ .closing .refused ∧ dispatcher ≠ .closed .refused)
    (present : consumer ≠ .finished) :
    Exits (start size dispatcher dispatched jobs capacity consumer cancelled : PoolState α ρ) where
  drained := by simp [start, Worker.idle]
  unheard := by simp [start, Worker.idle]
  forsaken := by simp [start, begun]
  finished := by simp [start, present]

theorem start_numbered (ids : jobs.items.map Job.id = List.range' 1 dispatched)
    (supplied : ∀ k < dispatched, ∃ a, (plan.source k).pulled = .item a)
    (sound : ∀ job ∈ jobs.items, plan.source.Supplies job)
    (here : Dispatching plan (start size dispatcher dispatched jobs capacity consumer cancelled : PoolState α ρ)) :
    Numbered plan (start size dispatcher dispatched jobs capacity consumer cancelled) where
  dispatching := here
  supplied := supplied
  ids := by
    rw [start_parcels, Parcel.ofJobs, Multiset.map_coe, List.map_map]
    exact congrArg Multiset.ofList ids
  sound := by
    intro p inside
    rw [start_parcels] at inside
    obtain ⟨job, member, rfl⟩ := List.mem_map.mp inside
    exact sound job member

theorem opening_cases (opened : a.opening? size = some s) :
    s = start size .asking 0 (.bounded a.jobCapacity) a.resultCapacity a.consumer a.cancelled ∨
      ∃ d : Dispatched α, Dispatcher.Filling a.plan.source a.jobCapacity d.dispatcher ∧ d.ending ≠ .refused ∧
        a.plan.source.EndsAt a.plan.dispatcherWatches d.dispatcher.cancelled d.dispatcher.dispatched d.ending ∧
        s = start size (.closed d.ending) d.dispatcher.dispatched d.dispatcher.jobs.dropProducer a.resultCapacity
          a.consumer d.dispatcher.cancelled := by
  unfold Assignment.opening? at opened
  split at opened
  · exact .inl (Option.some.inj opened).symm
  · obtain ⟨d, ran, rfl⟩ := Option.map_eq_some_iff.mp opened
    obtain ⟨filling, accepted, ends⟩ := Dispatcher.dispatch_filling ran
    exact .inr ⟨d, filling, accepted, ends, rfl⟩

theorem opening_handles (opened : a.opening? size = some s) : Handles s := by
  rcases opening_cases opened with rfl | ⟨d, filling, _, _, rfl⟩
  · exact start_handles rfl
  · exact start_handles (by simp [Queue.dropProducer, filling.producers])

theorem opening_exits (opened : a.opening? size = some s) (present : a.consumer ≠ .finished) : Exits s := by
  rcases opening_cases opened with rfl | ⟨d, _, accepted, _, rfl⟩
  · exact start_exits (by simp) present
  · exact start_exits (by simp [accepted]) present

theorem opening_numbered (opened : a.opening? size = some s) : Numbered a.plan s := by
  rcases opening_cases opened with rfl | ⟨d, filling, _, ends, rfl⟩
  · exact start_numbered rfl (by simp) (by simp [Queue.bounded]) rfl
  · exact start_numbered filling.ids filling.supplied filling.sound ends

theorem opening_workers (opened : a.opening? size = some s) : s.workers = List.replicate size .idle := by
  rcases opening_cases opened with rfl | ⟨d, _, _, _, rfl⟩ <;> rfl

theorem opening_consumer (opened : a.opening? size = some s) : s.consumer = a.consumer := by
  rcases opening_cases opened with rfl | ⟨d, _, _, _, rfl⟩ <;> rfl

theorem opening_capacities (opened : a.opening? size = some s) :
    s.jobs.capacity = a.jobCapacity ∧ s.results.capacity = a.resultCapacity := by
  rcases opening_cases opened with rfl | ⟨d, filling, _, _, rfl⟩
  · exact ⟨rfl, rfl⟩
  · exact ⟨filling.capacity, rfl⟩

theorem opened_size (opened : a.opening? size = some s) (run : Runs a.plan s path t) : t.workers.length = size := by
  refine runs_keep (P := fun s => s.workers.length = size) (fun same move => (move_size move).trans same) run ?_
  rw [opening_workers opened, List.length_replicate]

theorem opened_capacities (opened : a.opening? size = some s) (run : Runs a.plan s path t) :
    t.jobs.capacity = a.jobCapacity ∧ t.results.capacity = a.resultCapacity := by
  refine runs_keep (P := fun s => s.jobs.capacity = a.jobCapacity ∧ s.results.capacity = a.resultCapacity) ?_ run
    (opening_capacities opened)
  rintro s t action ⟨jobs, results⟩ move
  exact ⟨(move_capacities move).1.trans jobs, (move_capacities move).2.trans results⟩

theorem opened_handles (opened : a.opening? size = some s) (run : Runs a.plan s path t) : Handles t :=
  runs_keep move_handles run (opening_handles opened)

theorem opened_exits (opened : a.opening? size = some s) (present : a.consumer ≠ .finished)
    (run : Runs a.plan s path t) : Exits t := by
  have both := runs_keep (P := fun s => Handles s ∧ Exits s)
    (fun held move => ⟨move_handles held.1 move, move_exits held.1 held.2 move⟩) run
    ⟨opening_handles opened, opening_exits opened present⟩
  exact both.2

theorem opened_numbered (opened : a.opening? size = some s) (run : Runs a.plan s path t) : Numbered a.plan t :=
  runs_keep move_numbered run (opening_numbered opened)

end PoolState
end GuardedWork
