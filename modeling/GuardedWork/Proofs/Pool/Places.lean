import GuardedWork.Proofs.Pool.Opening
import Mathlib.Data.List.Pairwise
import Mathlib.Tactic.Abel

namespace GuardedWork

variable {α ρ : Type}

inductive Place where
  | jobQueue
  -- in the hands of this worker, as a job or as its result
  | worker (worker : Nat)
  | resultQueue
  | consumer
  -- with the worker that panicked on it
  | lostWith (worker : Nat)
  -- its queue had no consumer left
  | discarded
deriving DecidableEq, Repr

namespace Worker

def inHand (w : Worker α ρ) : List Nat :=
  match w.phase with
  | .holding job | .running job => [job.id]
  | .offering r => [r.jobId]
  | _ => []

def panickedOn (w : Worker α ρ) : List Nat :=
  match w.phase with
  | .panicked job => [job.id]
  | _ => []

def unheard (w : Worker α ρ) : List Nat :=
  match w.phase with
  | .refused r => [r.jobId]
  | _ => []

def results (w : Worker α ρ) : List (JobResult ρ) :=
  match w.phase with
  | .offering r | .refused r => [r]
  | _ => []

theorem ids_parcels (w : Worker α ρ) :
    w.parcels.map Parcel.id = ↑w.inHand + ↑w.panickedOn + (↑w.unheard : Multiset Nat) := by
  obtain ⟨phase, handled⟩ := w
  cases phase <;> rfl

theorem results_parcels (w : Worker α ρ) : w.parcels.filterMap Parcel.result? = ↑w.results := by
  obtain ⟨phase, handled⟩ := w
  cases phase <;> rfl

end Worker

namespace PoolState

variable {plan : PoolPlan α ρ} {a : Assignment α ρ} {size : Nat} {first s t : PoolState α ρ} {path : List PoolAction}
  {workers : List (Worker α ρ)}

def idsAt (s : PoolState α ρ) : Place → List Nat
  | .jobQueue => if s.jobs.consumers = 0 then [] else s.jobs.items.map Job.id
  | .worker i => s.workers[i]?.elim [] Worker.inHand
  | .resultQueue => if s.results.consumers = 0 then [] else s.results.items.map JobResult.jobId
  | .consumer => s.taken.map JobResult.jobId
  | .lostWith i => s.workers[i]?.elim [] Worker.panickedOn
  | .discarded => (if s.jobs.consumers = 0 then s.jobs.items.map Job.id else []) ++ s.workers.flatMap Worker.unheard ++
      if s.results.consumers = 0 then s.results.items.map JobResult.jobId else []

-- Every result there is, whether it has come to the consumer or not.
def everyResult (s : PoolState α ρ) : List (JobResult ρ) :=
  s.workers.flatMap Worker.results ++ s.results.items ++ s.taken

def places (s : PoolState α ρ) : List Place :=
  [.jobQueue, .resultQueue, .consumer, .discarded] ++ (List.range s.workers.length).map .worker ++
    (List.range s.workers.length).map .lostWith

theorem flatMap_places (f : Worker α ρ → List Nat) (workers : List (Worker α ρ)) :
    (List.range workers.length).flatMap (fun i => workers[i]?.elim [] f) = workers.flatMap f := by
  induction workers with
  | nil => rfl
  | cons w others ih => simpa [List.range_succ_eq_map, List.flatMap_map] using ih

theorem ids_carried (workers : List (Worker α ρ)) :
    (carried workers).map Parcel.id = ↑(workers.flatMap Worker.inHand) + ↑(workers.flatMap Worker.panickedOn) +
      (↑(workers.flatMap Worker.unheard) : Multiset Nat) := by
  induction workers with
  | nil => rfl
  | cons w others ih =>
    simp only [carried] at ih
    simp only [carried, List.map_cons, List.sum_cons, Multiset.map_add, ih, Worker.ids_parcels, List.flatMap_cons,
      ← Multiset.coe_add]
    abel

theorem ids_ofJobs (jobs : List (Job α)) :
    (Parcel.ofJobs jobs : Multiset (Parcel α ρ)).map Parcel.id = ↑(jobs.map Job.id) := by
  simp [Parcel.ofJobs, Parcel.id, Function.comp_def]

theorem ids_ofResults (results : List (JobResult ρ)) :
    (Parcel.ofResults results : Multiset (Parcel α ρ)).map Parcel.id = ↑(results.map JobResult.jobId) := by
  simp [Parcel.ofResults, Parcel.id, Function.comp_def]

-- What waits in a queue is at one place or the other.
theorem queued_or_discarded (gone : Prop) [Decidable gone] (ids : List Nat) :
    (↑ids : Multiset Nat) = ↑(if gone then [] else ids) + ↑(if gone then ids else []) := by
  split <;> simp

theorem ids_places (s : PoolState α ρ) : s.parcels.map Parcel.id = ↑(s.places.flatMap s.idsAt) := by
  rw [parcels, Multiset.map_add, Multiset.map_add, Multiset.map_add, ids_carried, ids_ofJobs, ids_ofResults,
    ids_ofResults, queued_or_discarded (s.jobs.consumers = 0) (s.jobs.items.map Job.id),
    queued_or_discarded (s.results.consumers = 0) (s.results.items.map JobResult.jobId)]
  simp only [places, List.flatMap_append, List.flatMap_map, List.flatMap_cons, List.flatMap_nil, idsAt, flatMap_places,
    ← Multiset.coe_add, Multiset.coe_nil]
  abel

theorem results_carried (workers : List (Worker α ρ)) :
    (carried workers).filterMap Parcel.result? = ↑(workers.flatMap Worker.results) := by
  induction workers with
  | nil => rfl
  | cons w others ih =>
    simp only [carried] at ih
    simp only [carried, List.map_cons, List.sum_cons, Multiset.filterMap_add, ih, Worker.results_parcels,
      List.flatMap_cons, ← Multiset.coe_add]

theorem everyResult_parcels (s : PoolState α ρ) : s.parcels.filterMap Parcel.result? = ↑s.everyResult := by
  have jobs : (Parcel.ofJobs s.jobs.items : Multiset (Parcel α ρ)).filterMap Parcel.result? = 0 := by
    simp [Parcel.ofJobs, Parcel.result?]
  have results : ∀ rs : List (JobResult ρ),
      (Parcel.ofResults rs : Multiset (Parcel α ρ)).filterMap Parcel.result? = ↑rs := by
    intro rs
    rw [Parcel.ofResults, Multiset.filterMap_coe, List.filterMap_map]
    exact congrArg Multiset.ofList List.filterMap_some
  simp [parcels, everyResult, Multiset.filterMap_add, results_carried, jobs, results]

theorem result_ids_le (parcels : Multiset (Parcel α ρ)) :
    (parcels.filterMap Parcel.result?).map JobResult.jobId ≤ parcels.map Parcel.id := by
  induction parcels using Multiset.induction_on with
  | empty => simp
  | cons p rest ih =>
    rw [Multiset.map_cons]
    cases p with
    | job j | lost j =>
      rw [Multiset.filterMap_cons_none _ _ rfl]
      exact ih.trans (Multiset.le_cons_self _ _)
    | result r =>
      rw [Multiset.filterMap_cons_some Parcel.result? _ _ rfl, Multiset.map_cons]
      exact Multiset.cons_le_cons _ ih

theorem numbered_results (numbered : Numbered plan s) : (s.everyResult.map JobResult.jobId).Nodup := by
  have below := result_ids_le s.parcels
  rw [everyResult_parcels, numbered.ids, Multiset.map_coe] at below
  exact Multiset.coe_nodup.mp (Multiset.nodup_of_le below (Multiset.coe_nodup.mpr List.nodup_range'))

theorem numbered_places (numbered : Numbered plan s) :
    (s.places.flatMap s.idsAt).Perm (List.range' 1 s.dispatched) := by
  rw [← Multiset.coe_eq_coe, ← ids_places, numbered.ids]

theorem mem_places {id : Nat} {place : Place} (there : id ∈ s.idsAt place) : place ∈ s.places := by
  have inside : ∀ {i : Nat} {f : Worker α ρ → List Nat}, id ∈ s.workers[i]?.elim [] f → i < s.workers.length := by
    intro i f member
    by_contra beyond
    rw [List.getElem?_eq_none (by omega)] at member
    cases member
  cases place with
  | worker i | lostWith i => simpa [places] using inside there
  | _ => simp [places]

theorem numbered_somewhere (numbered : Numbered plan s) {id : Nat} :
    (∃ place, id ∈ s.idsAt place) ↔ 1 ≤ id ∧ id ≤ s.dispatched := by
  have whole : id ∈ s.places.flatMap s.idsAt ↔ 1 ≤ id ∧ id ≤ s.dispatched := by
    rw [(numbered_places numbered).mem_iff, List.mem_range'_1]
    omega
  rw [← whole, List.mem_flatMap]
  exact ⟨fun ⟨place, there⟩ => ⟨place, mem_places there, there⟩, fun ⟨place, _, there⟩ => ⟨place, there⟩⟩

theorem numbered_apart (numbered : Numbered plan s) {id : Nat} {here there : Place} (one : id ∈ s.idsAt here)
    (two : id ∈ s.idsAt there) : here = there := by
  have nodup := (numbered_places numbered).nodup_iff.mpr List.nodup_range'
  have apart := (List.nodup_flatMap.mp nodup).2
  have symm : Std.Symm (Function.onFun List.Disjoint s.idsAt) := ⟨fun _ _ disjoint => disjoint.symm⟩
  by_contra differ
  exact apart.forall (mem_places one) (mem_places two) differ one two

theorem numbered_once (numbered : Numbered plan s) (place : Place) : (s.idsAt place).Nodup := by
  have nodup := (numbered_places numbered).nodup_iff.mpr List.nodup_range'
  by_cases empty : s.idsAt place = []
  · simp [empty]
  · obtain ⟨id, there⟩ := List.exists_mem_of_ne_nil _ empty
    exact (List.nodup_flatMap.mp nodup).1 place (mem_places there)

-- Whoever panicked did so on a job of the source.
theorem numbered_unpanicked (numbered : Numbered plan s)
    (endings : ∀ job, plan.source.Supplies job → (plan.transform job.payload).ending ≠ .panic) :
    ∀ w ∈ s.workers, w.hasPanicked = false := by
  intro w member
  obtain ⟨i, found⟩ := List.getElem?_of_mem member
  obtain ⟨others, whole, _⟩ := carried_split found
  obtain ⟨phase, handled⟩ := w
  cases phase with
  | panicked job =>
    have inside : Parcel.lost job ∈ s.parcels := by simp [parcels, whole, Worker.parcels]
    obtain ⟨supplied, panics⟩ := numbered.sound _ inside
    exact absurd panics (endings job supplied)
  | _ => rfl

-- With every worker out at the end of the jobs, all that was ever accepted is answered.
theorem exited_parcels (held : Handles s) (exits : Exits s) (staffed : s.workers ≠ [])
    (exited : ∀ w ∈ s.workers, w.phase = .exited) :
    s.parcels = Parcel.ofResults s.results.items + Parcel.ofResults s.taken ∧
      ∃ ending, s.dispatcher = .closed ending := by
  obtain ⟨w, member⟩ := List.exists_mem_of_ne_nil _ staffed
  obtain ⟨drained, closed⟩ := exits.drained w member (exited w member)
  have empty : carried s.workers = 0 := by
    refine List.sum_eq_zero ?_
    intro parcels inside
    obtain ⟨x, here, rfl⟩ := List.mem_map.mp inside
    simp [Worker.parcels, exited x here]
  refine ⟨?_, closed_of_unheld held closed⟩
  simp [parcels, empty, drained, Parcel.ofJobs]

-- With the close seen and nobody lost, it has come to the consumer.
theorem finished_parcels (held : Handles s) (exits : Exits s) (staffed : s.workers ≠ [])
    (finished : s.consumer = .finished) (unpanicked : ∀ w ∈ s.workers, w.hasPanicked = false) :
    s.parcels = Parcel.ofResults s.taken ∧ ∃ ending, s.dispatcher = .closed ending := by
  have exited := fun w member => finished_exited held exits finished (w := w) member (unpanicked w member)
  obtain ⟨parcels, closed⟩ := exited_parcels held exits staffed exited
  refine ⟨?_, closed⟩
  rw [parcels, (exits.finished finished).1]
  exact zero_add _

theorem every_job_in_one_place (sized : size ≠ 0) (opened : a.opening? size = some first)
    (run : Runs a.plan first path s) :
    (∀ id, 1 ≤ id ∧ id ≤ s.dispatched → ∃! place, id ∈ s.idsAt place) ∧
      (∀ place, (s.idsAt place).Nodup ∧ ∀ id ∈ s.idsAt place, 1 ≤ id ∧ id ≤ s.dispatched) ∧
      (s.everyResult.map JobResult.jobId).Nodup ∧
      (a.consumer ≠ .finished → s.consumer = .finished → (∀ w ∈ s.workers, w.hasPanicked = false) →
        (∃ ending, s.dispatcher = .closed ending) ∧
          (s.taken.map JobResult.jobId).Perm (List.range' 1 s.dispatched) ∧
          ∀ r ∈ s.taken, ∃ job, a.plan.source.Supplies job ∧ job.id = r.jobId ∧
            a.plan.Answers s.cancelled job r.outcome) := by
  have numbered := opened_numbered opened run
  refine ⟨?_, ?_, numbered_results numbered, ?_⟩
  · intro id accepted
    obtain ⟨place, there⟩ := (numbered_somewhere numbered).mpr accepted
    exact ⟨place, there, fun other also => numbered_apart numbered also there⟩
  · intro place
    exact ⟨numbered_once numbered place, fun id there => (numbered_somewhere numbered).mp ⟨place, there⟩⟩
  · intro present finished unpanicked
    have staffed : s.workers ≠ [] := by
      rw [← List.length_pos_iff, opened_size opened run]
      omega
    obtain ⟨parcels, closed⟩ :=
      finished_parcels (opened_handles opened run) (opened_exits opened present run) staffed finished unpanicked
    refine ⟨closed, ?_, ?_⟩
    · rw [← Multiset.coe_eq_coe, ← ids_ofResults, ← parcels, numbered.ids]
    · intro r member
      have inside : Parcel.result r ∈ s.parcels := by
        rw [parcels]
        exact List.mem_map_of_mem member
      obtain ⟨job, supplied, same, answers⟩ := numbered.sound _ inside
      exact ⟨job, supplied, same.symm, answers⟩

-- Two jobs for two workers, both queues without a buffer; the second job fails.
def pair : Assignment Nat Nat where
  plan := ⟨.ofList [3, 4], fun x => ⟨if x = 4 then .failure (.ofText "four") else .value (x * x), false⟩, false, false⟩
  jobCapacity := 0
  resultCapacity := 0
  dispatchesWhileRunning := true
  consumer := .draining
  cancelled := false

def pairPath : List PoolAction :=
  [.pull, .check, .passJob 0, .pull, .check, .passJob 1, .start 1, .finish 1, .passResult 1, .start 0, .finish 0,
    .passResult 0, .pull, .closeJobs, .exit 0, .exit 1, .join, .join, .release, .seeClose]

theorem pair_in_one_place : ∃ first s, pair.opening? 2 = some first ∧ Runs pair.plan first pairPath s ∧
    s.dispatched = 2 ∧ (∃! place, 2 ∈ s.idsAt place) ∧ (s.taken.map JobResult.jobId).Perm [1, 2] := by
  have opened : pair.opening? 2 = some _ := rfl
  have run : Runs pair.plan (start 2 .asking 0 (.bounded 0) 0 .draining false) pairPath _ := runs_of_replay rfl
  have all := every_job_in_one_place (by decide) opened run
  exact ⟨_, _, opened, run, rfl, all.1 2 (by decide), (all.2.2.2 (by decide) rfl (by decide)).2.1⟩

end PoolState
end GuardedWork
