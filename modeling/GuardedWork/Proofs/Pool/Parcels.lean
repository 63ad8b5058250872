import GuardedWork.Proofs.Pool.Exits
import Mathlib.Algebra.Order.BigOperators.Group.List
import Mathlib.Algebra.Order.Group.Multiset
import Mathlib.Algebra.Order.Group.Nat

namespace GuardedWork

variable {α ρ : Type}

-- Jobs are numbered from one on, in the order in which the source is asked.
def Source.Supplies (source : Source α) (job : Job α) : Prop :=
  ∃ k, job.id = k + 1 ∧ (source k).pulled = .item job.payload

-- A job is answered as its transform ends, or not at all tried once the token is cancelled.
def PoolPlan.Answers (plan : PoolPlan α ρ) (cancelled : Bool) (job : Job α) (outcome : Outcome ρ) : Prop :=
  (plan.transform job.payload).ending.outcome? = some outcome ∨
    plan.workersWatch = true ∧ cancelled = true ∧ outcome = .cancelled

inductive Parcel (α ρ : Type) where
  | job (job : Job α)
  | result (result : JobResult ρ)
  -- with the worker that panicked on it
  | lost (job : Job α)

def Parcel.id : Parcel α ρ → Nat
  | job j => j.id
  | result r => r.jobId
  | lost j => j.id

def Parcel.result? : Parcel α ρ → Option (JobResult ρ)
  | result r => some r
  | _ => none

def Parcel.Sound (plan : PoolPlan α ρ) (cancelled : Bool) : Parcel α ρ → Prop
  | job j => plan.source.Supplies j
  | result r => ∃ j, plan.source.Supplies j ∧ r.jobId = j.id ∧ plan.Answers cancelled j r.outcome
  | lost j => plan.source.Supplies j ∧ (plan.transform j.payload).ending = .panic

namespace Parcel

def ofJobs (jobs : List (Job α)) : Multiset (Parcel α ρ) := .ofList (jobs.map .job)
def ofResults (results : List (JobResult ρ)) : Multiset (Parcel α ρ) :=
  .ofList (results.map .result)

@[simp] theorem ofJobs_cons (j : Job α) (jobs : List (Job α)) :
    (ofJobs (j :: jobs) : Multiset (Parcel α ρ)) = .job j ::ₘ ofJobs jobs := rfl

@[simp] theorem ofJobs_concat (jobs : List (Job α)) (j : Job α) :
    (ofJobs (jobs ++ [j]) : Multiset (Parcel α ρ)) = .job j ::ₘ ofJobs jobs := by
  rw [ofJobs, List.map_append]
  exact Multiset.coe_eq_coe.mpr (List.perm_append_singleton _ _)

@[simp] theorem ofResults_cons (r : JobResult ρ) (results : List (JobResult ρ)) :
    (ofResults (r :: results) : Multiset (Parcel α ρ)) = .result r ::ₘ ofResults results := rfl

@[simp] theorem ofResults_concat (results : List (JobResult ρ)) (r : JobResult ρ) :
    (ofResults (results ++ [r]) : Multiset (Parcel α ρ)) = .result r ::ₘ ofResults results := by
  rw [ofResults, List.map_append]
  exact Multiset.coe_eq_coe.mpr (List.perm_append_singleton _ _)

end Parcel

def Worker.parcels (w : Worker α ρ) : Multiset (Parcel α ρ) :=
  match w.phase with
  | .holding job | .running job => {.job job}
  | .offering r | .refused r => {.result r}
  | .panicked job => {.lost job}
  | .waiting | .exited => 0

namespace PoolState

variable {plan : PoolPlan α ρ} {s t : PoolState α ρ} {action : PoolAction} {i : Nat} {v w : Worker α ρ}
  {workers : List (Worker α ρ)}

def carried (workers : List (Worker α ρ)) : Multiset (Parcel α ρ) := (workers.map Worker.parcels).sum

def parcels (s : PoolState α ρ) : Multiset (Parcel α ρ) :=
  carried s.workers + Parcel.ofJobs s.jobs.items + Parcel.ofResults s.results.items + Parcel.ofResults s.taken

theorem carried_split (found : workers[i]? = some w) :
    ∃ others, carried workers = w.parcels + others ∧ ∀ v, carried (workers.set i v) = v.parcels + others :=
  sum_split Worker.parcels found

-- Nobody has two parcels in hand.
theorem parcels_one (w : Worker α ρ) : w.parcels.card ≤ 1 := by
  obtain ⟨phase, handled⟩ := w
  cases phase <;> simp [Worker.parcels]

theorem carried_card (workers : List (Worker α ρ)) :
    (carried workers).card = (workers.map fun w => w.parcels.card).sum := by
  rw [carried, ← Multiset.cardHom_apply, map_list_sum, List.map_map]
  rfl

theorem carried_within (workers : List (Worker α ρ)) : (carried workers).card ≤ workers.length := by
  have within : ∀ n ∈ workers.map fun w => w.parcels.card, n ≤ 1 := by
    intro n inside
    obtain ⟨w, _, rfl⟩ := List.mem_map.mp inside
    exact parcels_one w
  rw [carried_card]
  simpa using List.sum_le_card_nsmul _ 1 within

-- What is written down beside the results: the counter of outcomes, and each worker's own count.
def books (s : PoolState α ρ) : List OutcomeKind × List Nat := (s.counted, s.workers.map Worker.handled)

theorem handled_more (found : workers[i]? = some w) (more : v.handled = w.handled + 1) :
    (workers.set i v).map Worker.handled = (workers.map Worker.handled).modify i (· + 1) := by
  rw [List.map_set, more, List.modify_eq_set_getElem?]
  simp [found]

-- How a worker comes to its answer.
inductive Turn (plan : PoolPlan α ρ) (s : PoolState α ρ) (i : Nat) (job : Job α) : Outcome ρ → Prop where
  | carriedOut {n : Nat} {outcome : Outcome ρ} (found : s.workers[i]? = some ⟨.running job, n⟩)
      (ended : (plan.transform job.payload).ending.outcome? = some outcome) : Turn plan s i job outcome
  | skipped {n : Nat} (found : s.workers[i]? = some ⟨.holding job, n⟩) (watched : plan.workersWatch = true)
      (cancelled : s.cancelled = true) : Turn plan s i job .cancelled

theorem Turn.answers {job : Job α} {outcome : Outcome ρ} {later : Bool} (turn : Turn plan s i job outcome)
    (grows : s.cancelled = true → later = true) : plan.Answers later job outcome := by
  cases turn with
  | carriedOut found ended => exact .inl ended
  | skipped found watched cancelled => exact .inr ⟨watched, grows cancelled, rfl⟩

inductive Shift (plan : PoolPlan α ρ) (s t : PoolState α ρ) : Prop where
  | kept (count : t.dispatched = s.dispatched) (same : t.parcels = s.parcels) (unwritten : t.books = s.books)
  | answered (job : Job α) (worker : Nat) (outcome : Outcome ρ) (rest : Multiset (Parcel α ρ))
      (count : t.dispatched = s.dispatched) (before : s.parcels = .job job ::ₘ rest)
      (after : t.parcels = .result ⟨job.id, worker, outcome⟩ ::ₘ rest) (turn : Turn plan s worker job outcome)
      (written : t.books = (outcome.kind :: s.counted, (s.workers.map Worker.handled).modify worker (· + 1)))
  | lost (job : Job α) (rest : Multiset (Parcel α ρ)) (count : t.dispatched = s.dispatched)
      (before : s.parcels = .job job ::ₘ rest) (after : t.parcels = .lost job ::ₘ rest)
      (panics : (plan.transform job.payload).ending = .panic) (unwritten : t.books = s.books)
  | accepted {a : α} (offers : s.dispatcher = .offering a) (count : t.dispatched = s.dispatched + 1)
      (after : t.parcels = .job ⟨s.dispatched + 1, a⟩ ::ₘ s.parcels) (unwritten : t.books = s.books)

theorem worker_shift (found : s.workers[i]? = some w) (move : WorkerMove plan s i w action t) : Shift plan s t := by
  obtain ⟨others, whole, changed⟩ := carried_split found
  let rest := others + Parcel.ofJobs s.jobs.items + Parcel.ofResults s.results.items + Parcel.ofResults s.taken
  have unwritten : ∀ {v}, v.handled = w.handled →
      (s.counted, (s.workers.set i v).map Worker.handled) = s.books :=
    fun same => congrArg (s.counted, ·) (map_set_same found same)
  have written : ∀ {v} (kind : OutcomeKind), v.handled = w.handled + 1 →
      (kind :: s.counted, (s.workers.set i v).map Worker.handled) =
        (kind :: s.counted, (s.workers.map Worker.handled).modify i (· + 1)) :=
    fun kind more => congrArg (kind :: s.counted, ·) (handled_more found more)
  cases move with
  | take queued =>
    exact .kept rfl (by simp [parcels, setWorker, whole, changed, queued, Worker.parcels]) (unwritten rfl)
  | exit | refused =>
    refine .kept rfl ?_ (unwritten rfl)
    simp [parcels, letGo, setWorker, whole, changed, Queue.dropConsumer, Queue.dropProducer, Worker.parcels]
  | start | give | pass =>
    exact .kept rfl (by simp [parcels, setWorker, whole, changed, Worker.parcels]) (unwritten rfl)
  | @skip n job watched cancelled =>
    refine .answered job i .cancelled rest rfl ?_ ?_ (.skipped found watched cancelled) (written _ rfl)
    · simp [rest, parcels, whole, Worker.parcels]
    · simp [rest, parcels, answer, setWorker, changed, Worker.parcels]
  | @finish n job outcome ended =>
    refine .answered job i outcome rest rfl ?_ ?_ (.carriedOut found ended) (written _ rfl)
    · simp [rest, parcels, whole, Worker.parcels]
    · simp [rest, parcels, answer, setWorker, changed, Worker.parcels]
  | @panic n job ended =>
    refine .lost job rest rfl ?_ ?_ ended (unwritten rfl)
    · simp [rest, parcels, whole, Worker.parcels]
    · simp [rest, parcels, letGo, setWorker, changed, Queue.dropConsumer, Queue.dropProducer, Worker.parcels]

theorem dispatcher_shift (move : DispatcherMove plan s action t) : Shift plan s t := by
  cases move with
  | pullItem | pullEnd | pullPanic | stop | offer | refused | close => exact .kept rfl rfl rfl
  | enqueue offers => exact .accepted offers rfl (by simp [parcels]) rfl
  | pass offers waits =>
    obtain ⟨others, whole, changed⟩ := carried_split waits
    refine .accepted offers rfl (by simp [parcels, setWorker, whole, changed, Worker.parcels]) ?_
    exact congrArg (s.counted, ·) (map_set_same waits rfl)

theorem move_shift (move : Move plan s action t) : Shift plan s t := by
  cases move with
  | dispatcher move => exact dispatcher_shift move
  | worker found move => exact worker_shift found move
  | consume drains queued => exact .kept rfl (by simp [parcels, queued]) rfl
  | join | release | seeClose | leave | cancel => exact .kept rfl rfl rfl

end PoolState
end GuardedWork
