import GuardedWork.Proofs.Batch.Moves
import GuardedWork.Proofs.Pool.Order

namespace GuardedWork

variable {α ρ : Type}

-- Of the payloads pulled before the start, the one that is let go if the token stops the dispatcher.
def Assignment.letGo (a : Assignment α ρ) : Nat :=
  if a.dispatchesWhileRunning then 0
  else
    let dispatcher := Dispatcher.ofQueue (.bounded a.jobCapacity) a.plan.dispatcherWatches a.cancelled
    (dispatcher.dispatch a.plan.source).elim 0 fun d =>
      ((a.plan.source d.dispatcher.dispatched).pulled matches .item _).toNat

namespace PoolState

variable {plan : PoolPlan α ρ} {a : Assignment α ρ} {size i before : Nat} {first s t : PoolState α ρ}
  {action : PoolAction} {path : List PoolAction} {w : Worker α ρ}

-- Beyond the jobs that are accepted there is one payload, if any; and if it was let go before the start, it was
-- the last.
structure Ahead (plan : PoolPlan α ρ) (before : Nat) (s : PoolState α ρ) : Prop where
  here : Dispatching plan s
  one : s.pulled + before ≤ s.dispatched + 1
  last : before = 0 ∨ ∃ ending, s.dispatcher = .closed ending

theorem dispatcher_unclosed (move : DispatcherMove plan s action t) : ∀ ending, s.dispatcher ≠ .closed ending := by
  intro ending closed
  cases move with
  | pullItem asks | pullEnd asks | pullPanic asks => simp [asks] at closed
  | stop holds | offer holds => simp [holds] at closed
  | enqueue offers | refused offers | pass offers => simp [offers] at closed
  | close closes => simp [closes] at closed

theorem dispatcher_ahead (here : Dispatching plan s) (one : s.pulled ≤ s.dispatched + 1)
    (move : DispatcherMove plan s action t) : t.pulled ≤ t.dispatched + 1 := by
  cases move with
  | pullItem asks =>
    simp only [Dispatching, asks] at here
    exact Nat.succ_le_succ (Nat.le_of_eq here)
  | enqueue | pass => exact Nat.le_succ_of_le one
  | _ => exact one

theorem move_ahead (ahead : Ahead plan before s) (move : Move plan s action t) : Ahead plan before t := by
  have here := move_dispatching ahead.here move
  cases move with
  | dispatcher move =>
    rcases ahead.last with none | ⟨ending, closed⟩
    · have one := dispatcher_ahead ahead.here (Nat.le_of_add_right_le ahead.one) move
      exact ⟨here, by rwa [none], .inl none⟩
    · exact absurd closed (dispatcher_unclosed move ending)
  | worker found move =>
    have same := worker_beside move
    refine ⟨here, ?_, ?_⟩
    · rw [same.pulled, same.dispatched]
      exact ahead.one
    · rw [same.dispatcher]
      exact ahead.last
  | _ => exact ⟨here, ahead.one, ahead.last⟩

theorem opening_ahead (opened : a.opening? size = some s) : Ahead a.plan a.letGo s := by
  have here := (opening_numbered opened).dispatching
  unfold Assignment.opening? at opened
  split at opened
  · next running =>
    obtain rfl := Option.some.inj opened
    exact ⟨here, by simp [Assignment.letGo, running, start], .inl (if_pos running)⟩
  · next filled =>
    obtain ⟨d, ran, rfl⟩ := Option.map_eq_some_iff.mp opened
    refine ⟨here, ?_, .inr ⟨d.ending, rfl⟩⟩
    simp only [Assignment.letGo, filled, ran, Option.elim_some]
    exact Nat.add_le_add_left (Bool.toNat_le _) _

structure Backlog (a : Assignment α ρ) (size : Nat) (s : PoolState α ρ) : Prop where
  numbered : Numbered a.plan s
  inOrder : InOrder s
  fit : ResultsFit s
  ahead : Ahead a.plan a.letGo s
  size : s.workers.length = size
  capacities : s.jobs.capacity = a.jobCapacity ∧ s.results.capacity = a.resultCapacity

theorem opening_backlog (opened : a.opening? size = some s) : Backlog a size s where
  numbered := opening_numbered opened
  inOrder := opening_in_order opened
  fit := by simp [ResultsFit, (opening_results opened).2.1]
  ahead := opening_ahead opened
  size := opened_size opened .nil
  capacities := opening_capacities opened

theorem move_backlog (backlog : Backlog a size s) (move : Move a.plan s action t) : Backlog a size t where
  numbered := move_numbered backlog.numbered move
  inOrder := (move_takes backlog.inOrder move).1
  fit := move_fit backlog.fit move
  ahead := move_ahead backlog.ahead move
  size := (move_size move).trans backlog.size
  capacities := by
    obtain ⟨jobs, results⟩ := move_capacities move
    exact ⟨jobs.trans backlog.capacities.1, results.trans backlog.capacities.2⟩

theorem runs_backlog (opened : a.opening? size = some first) (run : Runs a.plan first path s) : Backlog a size s := by
  apply runs_keep _ run (opening_backlog opened)
  intro s t action
  exact move_backlog

theorem backlog_bounded (backlog : Backlog a size s) :
    s.pulled + a.letGo ≤ s.taken.length + (a.jobCapacity + a.resultCapacity + size + 1) := by
  have count := parcels_count backlog.numbered
  have hands := carried_within s.workers
  have jobs := backlog.inOrder.fit
  have results := backlog.fit
  have one := backlog.ahead.one
  unfold ResultsFit at results
  rw [backlog.capacities.1] at jobs
  rw [backlog.capacities.2] at results
  rw [backlog.size] at hands
  omega

-- Nothing is left to do but for the consumer.
def Stalled (plan : PoolPlan α ρ) (s : PoolState α ρ) : Prop :=
  ∀ action ∈ otherActions s.workers.length, s.step? plan action = none

theorem stalled_apart (stalled : Stalled plan s) (move : Move plan s action t)
    (other : action ∈ otherActions s.workers.length) : False := by
  have stepped := move_complete move
  rw [stalled action other] at stepped
  cases stepped

theorem other_listed {n : Nat} (inside : i < n) : .give i ∈ otherActions n ∧ .finish i ∈ otherActions n ∧
    .start i ∈ otherActions n ∧ .take i ∈ otherActions n ∧ .passJob i ∈ otherActions n := by
  simp [otherActions, inside]

theorem stalled_dispatcher (stalled : Stalled plan s) (busy : ∀ ending, s.dispatcher ≠ .closed ending) :
    ∃ payload, s.dispatcher = .offering payload := by
  have apart : ∀ {action t}, DispatcherMove plan s action t → action ∈ otherActions s.workers.length → False :=
    fun move => stalled_apart stalled (.dispatcher move)
  cases phase : s.dispatcher with
  | asking =>
    cases pulled : (plan.source s.pulled).pulled with
    | item payload => exact (apart (.pullItem phase pulled) (by simp [otherActions])).elim
    | ended => exact (apart (.pullEnd phase pulled) (by simp [otherActions])).elim
    | panicked => exact (apart (.pullPanic phase pulled) (by simp [otherActions])).elim
  | holding payload =>
    cases stopped : plan.dispatcherWatches && s.cancelled with
    | false => exact (apart (.offer phase stopped) (by simp [otherActions])).elim
    | true =>
      obtain ⟨watched, cancelled⟩ := Bool.and_eq_true_iff.mp stopped
      exact (apart (.stop phase watched cancelled) (by simp [otherActions])).elim
  | offering payload => exact ⟨payload, rfl⟩
  | closing ending => exact (apart (.close phase) (by simp [otherActions])).elim
  | closed ending => exact absurd phase (busy ending)

theorem stalled_jobs {payload : α} (stalled : Stalled plan s) (inOrder : InOrder s)
    (offers : s.dispatcher = .offering payload) : s.jobs.items.length = s.jobs.capacity := by
  have apart : ∀ {t}, DispatcherMove plan s .enqueue t → False :=
    fun move => stalled_apart stalled (.dispatcher move) (by simp [otherActions])
  by_cases unheard : s.jobs.consumers = 0
  · exact (apart (.refused offers unheard)).elim
  rcases Nat.lt_or_eq_of_le inOrder.fit with room | full
  · exact (apart (.enqueue offers unheard room)).elim
  · exact full

theorem stalled_worker {payload : α} (stalled : Stalled plan s) (inOrder : InOrder s)
    (offers : s.dispatcher = .offering payload) (found : s.workers[i]? = some w) (alive : w.isGone = false) :
    ∃ r, w.phase = .offering r := by
  obtain ⟨_, finishes, starts, takes, passes⟩ := other_listed (List.getElem?_eq_some_iff.mp found).1
  have apart : ∀ {action t}, WorkerMove plan s i w action t → action ∈ otherActions s.workers.length → False :=
    fun move => stalled_apart stalled (.worker found move)
  obtain ⟨phase, handled⟩ := w
  cases phase with
  | waiting =>
    cases queued : s.jobs.items with
    | cons job rest => exact (apart (.take queued) takes).elim
    | nil =>
      have bufferless := stalled_jobs stalled inOrder offers
      rw [queued] at bufferless
      exact (stalled_apart stalled (.dispatcher (.pass offers found bufferless.symm)) passes).elim
  | holding job =>
    cases stopped : plan.workersWatch && s.cancelled with
    | false => exact (apart (.start stopped) starts).elim
    | true =>
      obtain ⟨watched, cancelled⟩ := Bool.and_eq_true_iff.mp stopped
      exact (apart (.skip watched cancelled) starts).elim
  | running job =>
    cases ending : (plan.transform job.payload).ending with
    | value v => exact (apart (.finish (by rw [ending]; rfl)) finishes).elim
    | failure f => exact (apart (.finish (by rw [ending]; rfl)) finishes).elim
    | panic => exact (apart (.panic ending) finishes).elim
  | offering r => exact ⟨r, rfl⟩
  | exited | refused | panicked => cases alive

theorem stalled_results {r : JobResult ρ} (stalled : Stalled plan s) (fit : ResultsFit s)
    (found : s.workers[i]? = some w) (offers : w.phase = .offering r) :
    s.results.items.length = s.results.capacity := by
  obtain ⟨gives, _⟩ := other_listed (List.getElem?_eq_some_iff.mp found).1
  obtain ⟨phase, handled⟩ := w
  cases offers
  by_cases unheard : s.results.consumers = 0
  · exact (stalled_apart stalled (.worker found (.refused unheard)) gives).elim
  rcases Nat.lt_or_eq_of_le fit with room | full
  · exact (stalled_apart stalled (.worker found (.give unheard room)) gives).elim
  · exact full

-- So there is no smaller bound.
theorem stalled_backlog (sized : size ≠ 0) (opened : a.opening? size = some first) (run : Runs a.plan first path s)
    (busy : ∀ ending, s.dispatcher ≠ .closed ending) (alive : ∀ w ∈ s.workers, w.isGone = false)
    (stalled : Stalled a.plan s) :
    s.pulled = s.taken.length + (a.jobCapacity + a.resultCapacity + size + 1) := by
  have backlog := runs_backlog opened run
  obtain ⟨payload, offers⟩ := stalled_dispatcher stalled busy
  have offering : ∀ w ∈ s.workers, ∃ r, w.phase = .offering r := by
    intro w member
    obtain ⟨i, found⟩ := List.mem_iff_getElem?.mp member
    exact stalled_worker stalled backlog.inOrder offers found (alive w member)
  have hands : (carried s.workers).card = s.workers.length := by
    have one : ∀ w ∈ s.workers, w.parcels.card = 1 := by
      intro w member
      obtain ⟨r, offers⟩ := offering w member
      simp [Worker.parcels, offers]
    rw [carried_card, List.map_congr_left one, List.map_const', List.sum_replicate_nat, Nat.mul_one]
  have results : s.results.items.length = s.results.capacity := by
    have staffed : 0 < s.workers.length := by
      rw [backlog.size]
      exact Nat.pos_of_ne_zero sized
    obtain ⟨r, offers⟩ := offering _ (List.getElem_mem staffed)
    exact stalled_results stalled backlog.fit (List.getElem?_eq_getElem staffed) offers
  have jobs := stalled_jobs stalled backlog.inOrder offers
  have count := parcels_count backlog.numbered
  have here := backlog.numbered.dispatching
  simp only [Dispatching, offers] at here
  rw [hands, jobs, results, backlog.size, backlog.capacities.1, backlog.capacities.2] at count
  omega

end PoolState

namespace Batch

variable {b : Batch} {source : Source α} {transform : Transform α ρ} {cancelled : Bool}

-- A batch dispatches while it runs, and its two queues are of one capacity.
theorem backlog_within :
    (∀ (b : Batch) (source : Source α) (transform : Transform α ρ) (cancelled : Bool) (path : List BatchAction)
        (s : BatchState α ρ), BatchState.Runs b (b.plan source transform) (b.opening cancelled) path s →
      s.pool.pulled ≤ s.pool.taken.length + (2 * b.queueCapacity + b.workerCount + 1)) ∧
    ∀ (a : Assignment α ρ) (size : Nat) (first : PoolState α ρ) (path : List PoolAction) (s : PoolState α ρ),
      a.opening? size = some first → PoolState.Runs a.plan first path s →
      s.pulled + a.letGo ≤ s.taken.length + (a.jobCapacity + a.resultCapacity + size + 1) := by
  refine ⟨?_, ?_⟩
  · intro b source transform cancelled path s run
    have opened : (b.assignment source transform cancelled).opening? b.workerCount = _ := assignment_opening
    have bounded : s.pool.pulled ≤ s.pool.taken.length + (b.queueCapacity + b.queueCapacity + b.workerCount + 1) :=
      PoolState.backlog_bounded (PoolState.runs_backlog opened (BatchState.runs_pool run))
    rwa [← Nat.two_mul] at bounded
  · intro a size first path s opened run
    exact PoolState.backlog_bounded (PoolState.runs_backlog opened run)

-- The transform panics on the first payload; the source never ends.
def crowd : PoolPlan Nat Nat :=
  ⟨fun i => ⟨.item (i + 1), false⟩, fun x => ⟨if x = 1 then .panic else .value (x * x), false⟩, false, false⟩

-- The other worker has filled the results by the time of the panic, and the dispatcher the jobs.
def crowdedPath : List PoolAction :=
  [.pull, .check, .enqueue, .take 0, .start 0, .pull, .check, .enqueue, .take 1, .start 1, .finish 1, .give 1, .pull,
    .check, .enqueue, .take 1, .start 1, .finish 1, .pull, .check, .enqueue, .pull, .finish 0]

-- A pool of one worker, with neither buffer nor consumer.
def unbuffered : Assignment Nat Nat where
  plan := crowd
  jobCapacity := 0
  resultCapacity := 0
  dispatchesWhileRunning := true
  consumer := .dropped
  cancelled := false

theorem crowded_backlog :
    (∃ s : BatchState Nat Nat,
      BatchState.Runs ⟨"crowd", 2, 1, false⟩ crowd (opening ⟨"crowd", 2, 1, false⟩ false) (crowdedPath.map .work) s ∧
        s.pool.taken = [] ∧ s.pool.pulled = 5 ∧ s.pool.pulled ≤ 0 + (2 * 1 + 2 + 1)) ∧
      ∃ first s, unbuffered.opening? 1 = some first ∧
        PoolState.Runs crowd first [.pull, .check, .passJob 0, .pull, .start 0, .finish 0] s ∧ s.taken = [] ∧
        s.pulled = 2 ∧ s.pulled + unbuffered.letGo ≤ 0 + (0 + 0 + 1 + 1) := by
  obtain ⟨batches, pools⟩ := backlog_within (α := Nat) (ρ := Nat)
  refine ⟨?_, ?_⟩
  · have run : BatchState.Runs ⟨"crowd", 2, 1, false⟩ crowd (opening ⟨"crowd", 2, 1, false⟩ false)
      (crowdedPath.map .work) _ := BatchState.runs_of_replay rfl
    exact ⟨_, run, rfl, rfl, batches _ _ _ _ _ _ run⟩
  · have opened : unbuffered.opening? 1 = some _ := rfl
    have run : PoolState.Runs crowd (.start 1 .asking 0 (.bounded 0) 0 .dropped false)
      [.pull, .check, .passJob 0, .pull, .start 0, .finish 0] _ := PoolState.runs_of_replay rfl
    exact ⟨_, _, opened, run, rfl, rfl, pools _ _ _ _ _ opened run⟩

end Batch
end GuardedWork
