import GuardedWork.Proofs.Pool.Fates
import GuardedWork.Proofs.Pool.Progress
import GuardedWork.Proofs.Pool.Shares
import GuardedWork.Proofs.Pool.Work

namespace GuardedWork

variable {α ρ : Type}

namespace PoolState

variable {plan : PoolPlan α ρ} {s t first : PoolState α ρ} {action : PoolAction} {path : List PoolAction} {i size : Nat}
  {w : Worker α ρ} {workers : List (Worker α ρ)} {a : Assignment α ρ} {supply : List α}

structure WithoutConsumer (s : PoolState α ρ) : Prop where
  dropped : s.consumer = .dropped
  untaken : s.taken = []
  empty : s.results.items = []
  -- no worker comes to a second job
  once : ∀ w ∈ s.workers, w.handled = w.results.length

theorem worker_withoutConsumer (held : Handles s) (without : WithoutConsumer s) (found : s.workers[i]? = some w)
    (move : WorkerMove plan s i w action t) : WithoutConsumer t := by
  have own := without.once w (List.mem_of_getElem? found)
  have unheard : s.results.consumers = 0 := by rw [held.resultConsumers, if_pos without.dropped]
  cases move with
  | give heard => exact absurd unheard heard
  | pass _ drains => cases without.dropped.symm.trans drains
  | skip | finish => exact { without with once := set_all without.once (congrArg (· + 1) own) }
  | _ => exact { without with once := set_all without.once own }

theorem move_withoutConsumer (held : Handles s) (without : WithoutConsumer s) (move : Move plan s action t) : WithoutConsumer t := by
  cases move with
  | dispatcher move =>
    cases move with
    | pass offers waits =>
      have own := without.once _ (List.mem_of_getElem? waits)
      exact { without with once := set_all without.once own }
    | _ => exact { without with }
  | worker found move => exact worker_withoutConsumer held without found move
  | consume drains | seeClose drains => cases without.dropped.symm.trans drains
  | leave => exact { without with dropped := rfl }
  | _ => exact { without with }

theorem opened_withoutConsumer (dropped : a.consumer = .dropped) (opened : a.opening? size = some first)
    (run : Runs a.plan first path s) : WithoutConsumer s := by
  have kept := runs_keep (P := fun s => Handles s ∧ WithoutConsumer s)
    (fun known move => ⟨move_handles known.1 move, move_withoutConsumer known.1 known.2 move⟩) run
    ⟨opening_handles opened, ?_⟩
  · exact kept.2
  · obtain ⟨untaken, empty, _⟩ := opening_results opened
    refine ⟨(opening_consumer opened).trans dropped, untaken, empty, ?_⟩
    rw [opening_workers opened]
    intro w inside
    rw [List.eq_of_mem_replicate inside]
    rfl

theorem withoutConsumer_share (without : WithoutConsumer s) (i : Nat) : (s.share i).length ≤ 1 := by
  have none : s.share i = s.keptBy i := by rw [share, without.untaken, without.empty]; rfl
  rw [none, keptBy]
  cases s.workers[i]? with
  | none => exact Nat.zero_le 1
  | some w =>
    obtain ⟨phase, handled⟩ := w
    cases phase <;> simp [Worker.keeps]

theorem withoutConsumer_handed (without : WithoutConsumer s) (numbered : Numbered plan s) (inOrder : InOrder s) :
    s.handedOut = (carried s.workers).card := by
  have ids := congrArg Multiset.card (handed_ids numbered inOrder)
  rw [Multiset.card_map, Multiset.coe_card, List.length_range', handed, without.untaken, without.empty] at ids
  simpa [Parcel.ofResults] using ids.symm

-- Whoever has gone was refused its result, panicked, or had no job.
theorem gone_parcels (gone : ∀ w ∈ workers, w.isGone = true) :
    (carried workers).card = (workers.flatMap Worker.results).length + workers.countP Worker.hasPanicked := by
  induction workers with
  | nil => rfl
  | cons w others ih =>
    have own : w.parcels.card = w.results.length + if w.hasPanicked then 1 else 0 := by
      have here := gone w List.mem_cons_self
      obtain ⟨phase, handled⟩ := w
      cases phase with
      | exited | refused | panicked => rfl
      | waiting | holding | running | offering => cases here
    have rest := ih fun x inside => gone x (List.mem_cons_of_mem w inside)
    rw [carried] at rest
    rw [carried, List.map_cons, List.sum_cons, Multiset.card_add, own, rest, List.flatMap_cons, List.length_append,
      List.countP_cons]
    omega

theorem unexited_parcels (gone : ∀ w ∈ workers, w.isGone = true) (unexited : ∀ w ∈ workers, w.phase ≠ .exited) :
    (carried workers).card = workers.length := by
  have one : workers.map (fun w => w.parcels.card) = workers.map fun _ => 1 := by
    apply List.map_congr_left
    intro w inside
    have here := gone w inside
    have other := unexited w inside
    obtain ⟨phase, handled⟩ := w
    cases phase with
    | exited => exact absurd rfl other
    | refused | panicked => rfl
    | waiting | holding | running | offering => cases here
  rw [carried_card, one]
  simp

-- Either all workers have had a job, or there were no more jobs.
theorem withoutConsumer_ends (gives : plan.source.Gives supply) (held : Handles s) (exits : Exits s) (without : WithoutConsumer s)
    (numbered : Numbered plan s) (inOrder : InOrder s) (gone : ∀ w ∈ s.workers, w.isGone = true) :
    s.handedOut = min s.workers.length s.dispatched ∧
      ((plan.dispatcherWatches && s.cancelled) = false → s.handedOut = min s.workers.length supply.length) := by
  have handed := withoutConsumer_handed without numbered inOrder
  have hands := carried_within s.workers
  have within := dispatched_within gives numbered
  by_cases exited : ∃ w ∈ s.workers, w.phase = .exited
  · obtain ⟨w, member, exited⟩ := exited
    obtain ⟨drained, unheld⟩ := exits.drained w member exited
    obtain ⟨ending, closed⟩ := closed_of_unheld held unheld
    have all : s.handedOut = s.dispatched := by rw [handedOut, drained, List.length_nil, Nat.sub_zero]
    have heard : ending ≠ .refused := by
      rintro rfl
      exact (exits.forsaken (.inr closed) w member).2 exited
    refine ⟨by omega, fun unstopped => ?_⟩
    have whole := (closed_whole gives unstopped numbered closed heard).1
    omega
  · push Not at exited
    have full := unexited_parcels gone exited
    have accepted : s.handedOut ≤ s.dispatched := Nat.sub_le _ _
    omega

theorem withoutConsumer_report (without : WithoutConsumer s) (booked : Booked s) (gone : ∀ w ∈ s.workers, w.isGone = true) :
    s.report.handledInAll + s.report.panicked = (carried s.workers).card ∧ s.counted.length = s.report.handledInAll := by
  have none : s.everyResult = s.workers.flatMap Worker.results := by
    rw [everyResult, without.untaken, without.empty, List.append_nil, List.append_nil]
  have handled : s.report.handled = s.workers.map fun w => w.results.length := by
    apply List.map_congr_left
    intro w inside
    have own := without.once w inside
    obtain ⟨phase, n⟩ := w
    cases phase <;> first | exact own | rfl
  have sum : s.report.handledInAll = (s.workers.flatMap Worker.results).length := by
    rw [PoolReport.handledInAll, handled, List.length_flatMap]
    rfl
  refine ⟨by rw [gone_parcels gone, sum]; rfl, ?_⟩
  rw [booked.counted.length_eq, List.length_map, none, sum]

theorem one_job_each (p : WorkerPool) (gives : a.plan.source.Gives supply) (dropped : a.consumer = .dropped)
    (opened : a.opening? p.size = some first) (run : Runs a.plan first path s) :
    (∀ i, path.countP (PoolAction.givesJobTo i) ≤ 1) ∧
      ((∀ w ∈ s.workers, w.isGone = true) → path.countP PoolAction.takesJob = min p.size s.dispatched ∧
        ((a.plan.dispatcherWatches && s.cancelled) = false →
          path.countP PoolAction.takesJob = min p.size supply.length)) ∧
      (∀ report, s.awaited? = some report → (∀ w ∈ s.workers, w.isGone = true) ∧
        report.handledInAll + report.panicked = path.countP PoolAction.takesJob ∧
        (p.size < UInt64.size → report.total? = some report.handledInAll) ∧
        p.growth s .completed + p.growth s .failed + p.growth s .cancelled =
          path.countP PoolAction.takesJob - report.panicked) ∧
      (∀ job, s.jobs.put job = .refused ↔ ∀ w ∈ s.workers, w.isGone = true) ∧
      ((s.released && s.dispatcherDone) = false → CanMove a.plan s) ∧
      path.length ≤ 8 * supply.length + 2 * p.size + 5 := by
  have held := opened_handles opened run
  have without := opened_withoutConsumer dropped opened run
  have numbered := opened_numbered opened run
  have lined := runs_keep move_lined run (opening_lined opened)
  have size := opened_size opened run
  have taken := opened_handed opened run
  have hands := carried_within s.workers
  have handed := withoutConsumer_handed without numbered lined.inOrder
  refine ⟨fun i => ?_, fun gone => ?_, fun report awaited => ?_, fun job => ?_, fun unfinished => ?_, ?_⟩
  · rw [← share_count opened run]
    exact withoutConsumer_share without i
  · have exits := opened_exits opened (by simp [dropped]) run
    have ends := withoutConsumer_ends gives held exits without numbered lined.inOrder gone
    rwa [size, taken] at ends
  · obtain ⟨released, rfl⟩ := (awaited_report held).mp awaited
    have gone := released_gone held released
    obtain ⟨all, counted⟩ := withoutConsumer_report without (opened_booked opened run) gone
    refine ⟨gone, by omega, fun fits => if_pos (by omega), ?_⟩
    rw [WorkerPool.growth_inAll]
    omega
  · rw [Queue.put_eq_refused, held.jobConsumers, alive_eq_zero]
  · refine unfinished_can_move held (fun _ _ _ _ => .inl ?_) unfinished
    rw [held.resultConsumers, if_pos without.dropped]
  · exact opened_bounded (Source.gives_stops gives) opened run

-- Two workers for three jobs, the first of which takes its worker with it.
def abandoned : Assignment Nat Nat where
  plan := ⟨.ofList [3, 4, 5], fun x => ⟨if x = 3 then .panic else .value (x * x), false⟩, false, false⟩
  jobCapacity := 0
  resultCapacity := 1
  dispatchesWhileRunning := true
  consumer := .dropped
  cancelled := false

def abandonedPath : List PoolAction :=
  [.pull, .check, .passJob 0, .pull, .check, .passJob 1, .pull, .check, .start 0, .start 1, .finish 0, .finish 1,
    .give 1, .enqueue, .closeJobs, .join, .join, .release]

theorem abandoned_one_job_each : ∃ first s, abandoned.opening? 2 = some first ∧
    Runs abandoned.plan first abandonedPath s ∧ s.awaited? = some ⟨[0, 1], 1⟩ ∧
    abandonedPath.countP PoolAction.takesJob = min 2 3 ∧ s.dispatched? = some (.error .noConsumer) ∧
    WorkerPool.growth ⟨"abandoned", 2⟩ s .completed + WorkerPool.growth ⟨"abandoned", 2⟩ s .failed +
      WorkerPool.growth ⟨"abandoned", 2⟩ s .cancelled = 1 := by
  have opened : abandoned.opening? 2 = some _ := rfl
  have run : Runs abandoned.plan (start 2 .asking 0 (.bounded 0) 1 .dropped false) abandonedPath _ := runs_of_replay rfl
  obtain ⟨_, taken, awaited, _⟩ :=
    one_job_each ⟨"abandoned", 2⟩ (Source.list_gives [3, 4, 5]) rfl opened run
  obtain ⟨gone, _, _, grown⟩ := awaited _ rfl
  exact ⟨_, _, opened, run, rfl, (taken gone).2 rfl, rfl, grown⟩

theorem move_idle (stays : action ≠ .leave) (idle : s.consumer = .idle) (move : Move plan s action t) :
    t.consumer = .idle ∧ t.taken = s.taken := by
  cases move with
  | dispatcher move => cases move <;> exact ⟨idle, rfl⟩
  | worker found move =>
    cases move with
    | pass _ drains => cases idle.symm.trans drains
    | _ => exact ⟨idle, rfl⟩
  | consume drains | seeClose drains => cases idle.symm.trans drains
  | leave => exact absurd rfl stays
  | _ => exact ⟨idle, rfl⟩

theorem runs_idle (run : Runs plan s path t) (stays : .leave ∉ path) (idle : s.consumer = .idle) :
    t.consumer = .idle ∧ t.taken = s.taken := by
  induction run with
  | nil => exact ⟨idle, rfl⟩
  | cons step _ ih =>
    obtain ⟨stepped⟩ := step
    obtain ⟨here, elsewhere⟩ := not_or.mp (List.mem_cons.not.mp stays)
    obtain ⟨next, same⟩ := move_idle (Ne.symm here) idle (move_sound stepped)
    obtain ⟨last, untaken⟩ := ih elsewhere next
    exact ⟨last, untaken.trans same⟩

-- A result in a worker's hands is not among those in the queue.
theorem fitting_gives (numbered : Numbered plan s) (fitting : s.dispatched ≤ s.results.capacity) : GivesFreely s := by
  intro w member r offers
  obtain ⟨i, found⟩ := List.getElem?_of_mem member
  obtain ⟨others, whole, _⟩ := carried_split found
  have count := parcels_count numbered
  have own : w.parcels.card = 1 := by simp [Worker.parcels, offers]
  rw [whole, Multiset.card_add, own] at count
  exact .inr (by omega)

-- A pool where nothing panics, with a consumer that waits and takes nothing.
structure Undrained (plan : PoolPlan α ρ) (s : PoolState α ρ) : Prop where
  handles : Handles s
  exits : Exits s
  numbered : Numbered plan s
  booked : Booked s
  fit : ResultsFit s
  staffed : s.workers ≠ []
  present : s.consumer = .idle
  untaken : s.taken = []
  unpanicked : ∀ w ∈ s.workers, w.hasPanicked = false

theorem opened_undrained (sized : size ≠ 0) (idle : a.consumer = .idle)
    (endings : ∀ job, a.plan.source.Supplies job → (a.plan.transform job.payload).ending ≠ .panic)
    (opened : a.opening? size = some first) (run : Runs a.plan first path s) (stays : .leave ∉ path) :
    Undrained a.plan s := by
  have numbered := opened_numbered opened run
  obtain ⟨present, untaken⟩ := runs_idle run stays ((opening_consumer opened).trans idle)
  rw [(opening_results opened).1] at untaken
  have staffed : s.workers ≠ [] := by
    rw [← List.length_pos_iff, opened_size opened run]
    omega
  exact {
    handles := opened_handles opened run
    exits := opened_exits opened (by simp [idle]) run
    numbered
    booked := opened_booked opened run
    fit := runs_keep move_fit run (opening_lined opened).fit
    staffed
    present
    untaken
    unpanicked := numbered_unpanicked numbered endings }

theorem undrained_exited (undrained : Undrained plan s) (gone : ∀ w ∈ s.workers, w.isGone = true) :
    ∀ w ∈ s.workers, w.phase = .exited := by
  intro w member
  have present : s.consumer ≠ .dropped := by simp [undrained.present]
  rcases gone_phases undrained.exits present member (gone w member) with exited | ⟨job, panicked⟩
  · exact exited
  · have unpanicked := undrained.unpanicked w member
    simp [Worker.hasPanicked, panicked] at unpanicked

-- The workers have gone at the end of the jobs, and all answers are in the queue.
theorem undrained_whole (undrained : Undrained plan s) (gone : ∀ w ∈ s.workers, w.isGone = true) :
    s.everyResult = s.results.items ∧ (s.results.items.map JobResult.jobId).Perm (List.range' 1 s.dispatched) ∧
      ∃ ending, s.dispatcher = .closed ending ∧ ending ≠ .refused := by
  have exited := undrained_exited undrained gone
  obtain ⟨parcels, ending, closed⟩ := exited_parcels undrained.handles undrained.exits undrained.staffed exited
  refine ⟨?_, ?_, ending, closed, ?_⟩
  · have none : s.workers.flatMap Worker.results = [] := by
      rw [List.flatMap_eq_nil_iff]
      intro w member
      simp [Worker.results, exited w member]
    rw [everyResult, none, undrained.untaken, List.nil_append, List.append_nil]
  · have ids := undrained.numbered.ids
    rw [parcels, undrained.untaken, Multiset.map_add, ids_ofResults, ids_ofResults, List.map_nil, Multiset.coe_nil,
      add_zero] at ids
    exact Multiset.coe_eq_coe.mp ids
  · rintro rfl
    obtain ⟨w, member⟩ := List.exists_mem_of_ne_nil _ undrained.staffed
    exact (undrained.exits.forsaken (.inr closed) w member).2 (exited w member)

theorem undrained_count (undrained : Undrained plan s) (gone : ∀ w ∈ s.workers, w.isGone = true) :
    s.dispatched = s.results.items.length := by
  simpa using (undrained_whole undrained gone).2.1.length_eq.symm

theorem undrained_report (undrained : Undrained plan s) (gone : ∀ w ∈ s.workers, w.isGone = true) :
    s.report.panicked = 0 ∧ s.report.handledInAll = s.dispatched := by
  have unpanicked : s.report.panicked = 0 := by
    apply List.countP_eq_zero.mpr
    simpa using undrained.unpanicked
  rw [report_inAll undrained.booked unpanicked, (undrained_whole undrained gone).1, undrained_count undrained gone]
  exact ⟨unpanicked, rfl⟩

theorem undrained_supply (gives : plan.source.Gives supply) (undrained : Undrained plan s)
    (gone : ∀ w ∈ s.workers, w.isGone = true) (unstopped : (plan.dispatcherWatches && s.cancelled) = false) :
    s.dispatched = supply.length := by
  obtain ⟨_, _, ending, closed, heard⟩ := undrained_whole undrained gone
  exact (closed_whole gives unstopped undrained.numbered closed heard).1

theorem wait_without_drain (sized : size ≠ 0) (gives : a.plan.source.Gives supply) (idle : a.consumer = .idle)
    (endings : ∀ job, a.plan.source.Supplies job → (a.plan.transform job.payload).ending ≠ .panic)
    (opened : a.opening? size = some first) (run : Runs a.plan first path s) (stays : .leave ∉ path) :
    s.dispatched ≤ supply.length ∧ path.length ≤ 8 * supply.length + 2 * size + 5 ∧
      (s.dispatched ≤ a.resultCapacity → (s.released && s.dispatcherDone) = false → CanMove a.plan s) ∧
      ((∀ w ∈ s.workers, w.isGone = true) →
        s.dispatched ≤ a.resultCapacity ∧ s.dispatcherDone = true ∧
        (s.results.items.map JobResult.jobId).Perm (List.range' 1 s.dispatched) ∧
        ((a.plan.dispatcherWatches && s.cancelled) = false → s.dispatched = supply.length)) ∧
      (∀ report, s.awaited? = some report →
        (∀ w ∈ s.workers, w.isGone = true) ∧ report.panicked = 0 ∧ report.handledInAll = s.dispatched ∧
        (s.dispatched < UInt64.size → report.total? = some s.dispatched)) ∧
      ((a.plan.dispatcherWatches && s.cancelled) = false → a.resultCapacity < supply.length →
        (∃ w ∈ s.workers, w.isGone = false) ∧ s.awaited? = none) := by
  have undrained := opened_undrained sized idle endings opened run stays
  have capacity := (opened_capacities opened run).2
  have within : (∀ w ∈ s.workers, w.isGone = true) → s.dispatched ≤ a.resultCapacity := by
    intro gone
    rw [undrained_count undrained gone, ← capacity]
    exact undrained.fit
  refine ⟨dispatched_within gives undrained.numbered, opened_bounded (Source.gives_stops gives) opened run, ?_, ?_, ?_, ?_⟩
  · intro fitting unfinished
    rw [← capacity] at fitting
    exact unfinished_can_move undrained.handles (fitting_gives undrained.numbered fitting) unfinished
  · intro gone
    obtain ⟨_, ids, ending, closed, _⟩ := undrained_whole undrained gone
    exact ⟨within gone, dispatcherDone_iff.mpr ⟨ending, closed⟩, ids, undrained_supply gives undrained gone⟩
  · intro report awaited
    obtain ⟨released, rfl⟩ := (awaited_report undrained.handles).mp awaited
    have gone := released_gone undrained.handles released
    obtain ⟨unpanicked, handled⟩ := undrained_report undrained gone
    refine ⟨gone, unpanicked, handled, ?_⟩
    intro small
    rw [PoolReport.total?, handled, if_pos small]
  · intro unstopped beyond
    have busy : ¬ ∀ w ∈ s.workers, w.isGone = true := by
      intro gone
      have fits := within gone
      rw [undrained_supply gives undrained gone unstopped] at fits
      exact Nat.not_le_of_lt beyond fits
    refine ⟨by simpa using busy, ?_⟩
    rw [Option.eq_none_iff_forall_ne_some]
    intro report awaited
    exact busy (released_gone undrained.handles ((awaited_report undrained.handles).mp awaited).1)

-- Two jobs for two workers, and results that wait in the queue.
def hoarding (resultCapacity : Nat) : Assignment Nat Nat where
  plan := ⟨.ofList [3, 4], fun x => ⟨.value (x * x), false⟩, false, false⟩
  jobCapacity := 2
  resultCapacity
  dispatchesWhileRunning := false
  consumer := .idle
  cancelled := false

def hoardingPath : List PoolAction := [.take 0, .take 1, .start 0, .start 1, .finish 0, .finish 1, .give 1]

theorem hoarding_without_drain :
    (∃ first s, (hoarding 2).opening? 2 = some first ∧
      Runs (hoarding 2).plan first (hoardingPath ++ [.give 0, .exit 0, .exit 1, .join, .join, .release]) s ∧
      s.awaited? = some ⟨[1, 1], 0⟩ ∧ (s.results.items.map JobResult.jobId).Perm [1, 2]) ∧
    ∃ first s, (hoarding 1).opening? 2 = some first ∧ Runs (hoarding 1).plan first hoardingPath s ∧
      (∃ w ∈ s.workers, w.isGone = false) ∧ s.awaited? = none := by
  have endings : ∀ job, (Source.ofList [3, 4]).Supplies job → (Ending.value (job.payload * job.payload)) ≠ .panic :=
    fun _ _ => nofun
  have roomy : (hoarding 2).opening? 2 = some _ := rfl
  have ended : Runs (hoarding 2).plan (start 2 (.closed (.done 2)) 2 ⟨2, [⟨1, 3⟩, ⟨2, 4⟩], 0, 1⟩ 2 .idle false)
      (hoardingPath ++ [.give 0, .exit 0, .exit 1, .join, .join, .release]) _ := runs_of_replay rfl
  have narrow : (hoarding 1).opening? 2 = some _ := rfl
  have stuck : Runs (hoarding 1).plan (start 2 (.closed (.done 2)) 2 ⟨2, [⟨1, 3⟩, ⟨2, 4⟩], 0, 1⟩ 1 .idle false)
      hoardingPath _ := runs_of_replay rfl
  obtain ⟨_, _, _, drained, awaited, _⟩ :=
    wait_without_drain (by decide) (Source.list_gives [3, 4]) rfl endings roomy ended (by decide)
  obtain ⟨_, _, _, _, _, unfit⟩ :=
    wait_without_drain (by decide) (Source.list_gives [3, 4]) rfl endings narrow stuck (by decide)
  obtain ⟨_, _, ids, _⟩ := drained (awaited _ rfl).1
  exact ⟨⟨_, _, roomy, ended, rfl, ids⟩, _, _, narrow, stuck, unfit rfl (by decide)⟩

end PoolState
end GuardedWork
