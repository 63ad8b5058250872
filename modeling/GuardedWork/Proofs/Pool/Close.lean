import GuardedWork.Proofs.Pool.Opening

namespace GuardedWork

variable {α ρ : Type}

def Worker.offered (w : Worker α ρ) : List (JobResult ρ) :=
  match w.phase with
  | .offering r => [r]
  | _ => []

namespace PoolReport

-- As the coordinator joins one worker after the other.
def join (report : PoolReport) (w : Worker α ρ) : PoolReport :=
  if w.hasPanicked then ⟨report.handled ++ [0], report.panicked + 1⟩
  else ⟨report.handled ++ [w.handled], report.panicked⟩

theorem foldl_join (workers : List (Worker α ρ)) (report : PoolReport) : workers.foldl join report =
    ⟨report.handled ++ workers.map (fun w => if w.hasPanicked then 0 else w.handled),
      report.panicked + workers.countP Worker.hasPanicked⟩ := by
  induction workers generalizing report with
  | nil => simp
  | cons w others ih =>
    rw [List.foldl_cons, ih]
    by_cases panicked : w.hasPanicked = true
    · simp [join, panicked]
      omega
    · simp [join, panicked]

end PoolReport

namespace PoolState

variable {plan : PoolPlan α ρ} {a : Assignment α ρ} {first s t : PoolState α ρ} {action : PoolAction} {i size : Nat}
  {v w : Worker α ρ} {path : List PoolAction} {workers : List (Worker α ρ)}

-- The result that this action puts, unless nobody can take it any more.
def puts (s : PoolState α ρ) : PoolAction → List (JobResult ρ)
  | .give i => if s.results.consumers = 0 then [] else s.workers[i]?.elim [] Worker.offered
  | .passResult i => s.workers[i]?.elim [] Worker.offered
  | _ => []

-- The worker that panics with this action.
def loses (plan : PoolPlan α ρ) (s : PoolState α ρ) : PoolAction → List Nat
  | .finish i => s.workers[i]?.elim [] fun w =>
    match w.phase with
    | .running job => if (plan.transform job.payload).ending.outcome?.isNone then [i] else []
    | _ => []
  | _ => []

def collected (s : PoolState α ρ) : PoolReport := (s.workers.take s.joined).foldl .join .empty

-- What a wait for the pool gives back, once the coordinator is at its end.
def awaited? (s : PoolState α ρ) : Option PoolReport := if s.released then some s.collected else none

theorem released_collected (held : Handles s) (released : s.released = true) : s.collected = s.report := by
  rw [collected, held.released released, List.take_length, PoolReport.foldl_join]
  simp [report, PoolReport.empty]

theorem awaited_report (held : Handles s) {report : PoolReport} :
    s.awaited? = some report ↔ s.released = true ∧ s.report = report := by
  unfold awaited?
  split
  · next released => simp [released, released_collected held released]
  · next unreleased => simp [unreleased]

def ResultsFit (s : PoolState α ρ) : Prop := s.results.items.length ≤ s.results.capacity

theorem move_fit (fit : ResultsFit s) (move : Move plan s action t) : ResultsFit t := by
  unfold ResultsFit at fit ⊢
  cases move with
  | dispatcher move => cases move <;> exact fit
  | worker found move =>
    cases move with
    | give heard room => simpa using Nat.succ_le_of_lt room
    | _ => exact fit
  | consume drains queued =>
    rw [queued, List.length_cons] at fit
    exact Nat.le_of_succ_le fit
  | _ => exact fit

-- First in, first out: what an action puts comes behind all that was there.
theorem move_puts (fit : ResultsFit s) (move : Move plan s action t) :
    t.taken ++ t.results.items = s.taken ++ s.results.items ++ s.puts action := by
  cases move with
  | dispatcher move => cases move <;> simp [puts, setWorker]
  | worker found move =>
    cases move with
    | give heard room => simp [puts, heard, found, Worker.offered, setWorker]
    | refused unheard => simp [puts, unheard, letGo, setWorker, Queue.dropProducer]
    | pass bufferless =>
      have empty : s.results.items = [] := by
        rw [ResultsFit, bufferless] at fit
        exact List.length_eq_zero_iff.mp (Nat.le_zero.mp fit)
      simp [puts, found, Worker.offered, setWorker, empty]
    | _ => simp [puts, answer, letGo, setWorker, Queue.dropProducer]
  | release | leave => simp [puts, Queue.dropProducer, Queue.dropConsumer]
  | consume drains queued => simp [puts, queued]
  | _ => simp [puts]

theorem runs_puts (run : Runs plan s path t) (fit : ResultsFit s) :
    t.taken ++ t.results.items = s.taken ++ s.results.items ++ noted plan puts s path := by
  refine runs_note (R := fun s notes t => t.taken ++ t.results.items = s.taken ++ s.results.items ++ notes)
    ?_ move_fit ?_ run fit
  · intro s
    simp
  · intro s t u action notes fit move rest
    rw [rest, move_puts fit move]
    simp

theorem panicked_stay (found : workers[i]? = some w) (before : w.hasPanicked = false) (after : v.hasPanicked = false) :
    (workers.set i v).countP Worker.hasPanicked = workers.countP Worker.hasPanicked := by
  obtain ⟨others, whole, changed⟩ := entry_split found
  simp [whole.countP_eq, (changed v).countP_eq, before, after]

theorem panicked_more (found : workers[i]? = some w) (before : w.hasPanicked = false) (after : v.hasPanicked = true) :
    (workers.set i v).countP Worker.hasPanicked = workers.countP Worker.hasPanicked + 1 := by
  obtain ⟨others, whole, changed⟩ := entry_split found
  simp [whole.countP_eq, (changed v).countP_eq, before, after]

theorem move_loses (move : Move plan s action t) :
    t.workers.countP Worker.hasPanicked = s.workers.countP Worker.hasPanicked + (loses plan s action).length := by
  cases move with
  | dispatcher move =>
    cases move with
    | pass offers waits => exact panicked_stay waits rfl rfl
    | _ => rfl
  | @worker _ _ i w found move =>
    cases move with
    | finish ended =>
      have nobody : loses plan s (.finish i) = [] := by simp [loses, found, ended]
      rw [nobody]
      exact panicked_stay found rfl rfl
    | panic ended =>
      have somebody : loses plan s (.finish i) = [i] := by simp [loses, found, ended, Ending.outcome?]
      rw [somebody]
      exact panicked_more found rfl rfl
    | _ => exact panicked_stay found rfl rfl
  | _ => rfl

theorem runs_loses (run : Runs plan s path t) : t.workers.countP Worker.hasPanicked =
    s.workers.countP Worker.hasPanicked + (noted plan (loses plan) s path).length := by
  refine runs_note (P := fun _ => True) (R := fun s notes t => t.workers.countP Worker.hasPanicked =
    s.workers.countP Worker.hasPanicked + notes.length) ?_ (fun _ _ => trivial) ?_ run trivial
  · intro s
    simp
  · intro s t u action notes _ move rest
    rw [rest, move_loses move, List.length_append]
    omega

theorem closed_gone (held : Handles s) (closed : s.results.take = .closed) :
    (∀ w ∈ s.workers, w.isGone = true) ∧ s.released = true ∧ s.joined = s.workers.length := by
  have unheld := (Queue.take_eq_closed.mp closed).2
  rw [held.resultProducers] at unheld
  have released : s.released = true := by
    by_contra unreleased
    simp [unreleased] at unheld
  exact ⟨alive_eq_zero.mp (by omega), released, held.released released⟩

-- Nobody is left who could put, and nothing is left to take.
theorem move_closed (held : Handles s) (closed : s.results.take = .closed) (move : Move plan s action t) :
    t.results.take = .closed ∧ s.puts action = [] := by
  have gone := (closed_gone held closed).1
  cases move with
  | dispatcher move => cases move <;> exact ⟨closed, rfl⟩
  | worker found move =>
    have before := (worker_turn move).1
    rw [gone _ (List.mem_of_getElem? found)] at before
    cases before
  | release =>
    obtain ⟨drained, unheld⟩ := Queue.take_eq_closed.mp closed
    have less : s.results.dropProducer.producers = 0 := by simp [Queue.dropProducer, unheld]
    exact ⟨Queue.take_eq_closed.mpr ⟨drained, less⟩, rfl⟩
  | consume drains queued =>
    rw [(Queue.take_eq_closed.mp closed).1] at queued
    cases queued
  | leave =>
    obtain ⟨drained, unheld⟩ := Queue.take_eq_closed.mp closed
    exact ⟨Queue.take_eq_closed.mpr ⟨drained, unheld⟩, rfl⟩
  | _ => exact ⟨closed, rfl⟩

theorem runs_closed (held : Handles s) (closed : s.results.take = .closed) (run : Runs plan s path t) :
    t.results.take = .closed ∧ noted plan puts s path = [] := by
  refine runs_note (P := fun s => Handles s ∧ s.results.take = .closed)
    (R := fun s notes t => s.results.take = .closed → t.results.take = .closed ∧ notes = [])
    ?_ ?_ ?_ run ⟨held, closed⟩ closed
  · intro s closed
    exact ⟨closed, rfl⟩
  · intro s t action kept move
    exact ⟨move_handles kept.1 move, (move_closed kept.1 kept.2 move).1⟩
  · intro s t u action notes kept move rest closed
    obtain ⟨still, none⟩ := move_closed kept.1 closed move
    obtain ⟨ends, later⟩ := rest still
    exact ⟨ends, by rw [none, later, List.append_nil]⟩

theorem opening_results (opened : a.opening? size = some s) :
    s.taken = [] ∧ s.results.items = [] ∧ s.workers.countP Worker.hasPanicked = 0 := by
  have idle : (List.replicate size (Worker.idle : Worker α ρ)).countP Worker.hasPanicked = 0 := by
    rw [List.countP_replicate]
    rfl
  rcases opening_cases opened with rfl | ⟨d, _, _, _, rfl⟩ <;> exact ⟨rfl, rfl, idle⟩

theorem released_unheld (held : Handles s) (released : s.released = true) : s.results.producers = 0 := by
  have gone : alive s.workers = 0 := alive_eq_zero.mpr (released_gone held released)
  rw [held.resultProducers, gone, released]
  rfl

-- The close is seen only behind the last worker and the coordinator.
theorem results_close_last (opened : a.opening? size = some first) (run : Runs a.plan first path s) :
    (s.results.take = .closed →
        s.workers.length = size ∧ (∀ w ∈ s.workers, w.isGone = true) ∧ s.joined = size ∧ s.released = true ∧
          s.taken = noted a.plan puts first path ∧
          ∀ later t, Runs a.plan s later t → t.results.take = .closed ∧ noted a.plan puts s later = []) ∧
      (a.consumer ≠ .finished → s.consumer = .finished → s.results.take = .closed) ∧
      ∀ report, s.awaited? = some report →
        s.results.producers = 0 ∧ report.handled.length = size ∧
          report.panicked = s.workers.countP Worker.hasPanicked ∧
          report.panicked = (noted a.plan (loses a.plan) first path).length := by
  have held := opened_handles opened run
  have size := opened_size opened run
  obtain ⟨untaken, empty, unpanicked⟩ := opening_results opened
  refine ⟨?_, ?_, ?_⟩
  · intro closed
    obtain ⟨gone, released, joined⟩ := closed_gone held closed
    have fit : ResultsFit first := by simp [ResultsFit, empty]
    have all := runs_puts run fit
    rw [(Queue.take_eq_closed.mp closed).1, untaken, empty] at all
    refine ⟨size, gone, joined.trans size, released, by simpa using all, ?_⟩
    intro later t more
    exact runs_closed held closed more
  · intro present finished
    exact Queue.take_eq_closed.mpr ((opened_exits opened present run).finished finished)
  · intro report awaited
    obtain ⟨released, rfl⟩ := (awaited_report held).mp awaited
    refine ⟨released_unheld held released, ?_, rfl, ?_⟩
    · simpa [PoolState.report] using size
    · have lost := runs_loses run
      rw [unpanicked, Nat.zero_add] at lost
      exact lost

-- Two workers, the first of which panics on the only job it takes.
def bruised : Assignment Nat Nat where
  plan := ⟨.ofList [3, 4], fun x => ⟨if x = 3 then .panic else .value (x * x), false⟩, false, false⟩
  jobCapacity := 2
  resultCapacity := 1
  dispatchesWhileRunning := false
  consumer := .draining
  cancelled := false

def bruisedPath : List PoolAction :=
  [.take 0, .take 1, .start 0, .start 1, .finish 1, .finish 0, .give 1, .join, .exit 1, .join, .release, .consume]

theorem bruised_close_last : ∃ first s, bruised.opening? 2 = some first ∧ Runs bruised.plan first bruisedPath s ∧
    s.results.take = .closed ∧ s.taken = noted bruised.plan puts first bruisedPath ∧
    (∀ later t, Runs bruised.plan s later t → t.results.take = .closed ∧ noted bruised.plan puts s later = []) ∧
    s.awaited? = some ⟨[0, 1], 1⟩ ∧ s.results.producers = 0 ∧
    (noted bruised.plan (loses bruised.plan) first bruisedPath).length = 1 := by
  have opened : bruised.opening? 2 = some _ := rfl
  have run : Runs bruised.plan (start 2 (.closed (.done 2)) 2 ⟨2, [⟨1, 3⟩, ⟨2, 4⟩], 0, 1⟩ 1 .draining false) bruisedPath _ :=
    runs_of_replay rfl
  have all := results_close_last opened run
  have closed := all.1 rfl
  have awaited := all.2.2 _ rfl
  exact ⟨_, _, opened, run, rfl, closed.2.2.2.2.1, closed.2.2.2.2.2, rfl, awaited.1, awaited.2.2.2.symm⟩

end PoolState
end GuardedWork
