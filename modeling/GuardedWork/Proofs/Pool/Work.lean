import GuardedWork.Proofs.Pool.Opening
import GuardedWork.Proofs.Supply
import Mathlib.Algebra.GroupWithZero.Nat

namespace GuardedWork

variable {α ρ : Type}

-- Asked for the place n, the source has no payload: it ends there or panics.
def Source.StopsAt (source : Source α) (n : Nat) : Prop := ∀ a, (source n).pulled ≠ .item a

theorem Source.ofList_stops (payloads : List α) : (Source.ofList payloads).StopsAt payloads.length := by
  intro a
  simp [Source.ofList]

theorem Source.gives_stops {source : Source α} {supply : List α} (gives : source.Gives supply) :
    source.StopsAt supply.length := by
  intro a item
  have inside := (gives supply.length (Nat.le_refl _) a).mp item
  simp at inside

-- A payload is worth what it weighs in its next hands and one more, at every stage from the source
-- on: eight before it is asked for, five in the job queue, one in the result queue.
def DispatcherPhase.weight : DispatcherPhase α → Nat
  | .asking => 2
  | .holding _ => 9
  | .offering _ => 8
  | .closing _ => 1
  | .closed _ => 0

def Worker.weight (w : Worker α ρ) : Nat :=
  match w.phase with
  | .waiting => 1
  | .holding _ => 5
  | .running _ => 4
  | .offering _ => 3
  | .exited | .refused _ | .panicked _ => 0

def ConsumerPhase.weight : ConsumerPhase → Nat
  | .draining | .idle => 1
  | .dropped | .finished => 0

namespace PoolState

variable {plan : PoolPlan α ρ} {s t : PoolState α ρ} {action : PoolAction} {i n size : Nat} {w : Worker α ρ}
  {workers : List (Worker α ρ)} {path : List PoolAction} {a : Assignment α ρ}

def carriedWeight (workers : List (Worker α ρ)) : Nat := (workers.map Worker.weight).sum

theorem weight_split (found : workers[i]? = some w) :
    ∃ others, carriedWeight workers = w.weight + others ∧
      ∀ v, carriedWeight (workers.set i v) = v.weight + others :=
  sum_split Worker.weight found

def workLeft (n : Nat) (s : PoolState α ρ) : Nat :=
  8 * (n - s.pulled) + s.dispatcher.weight + 5 * s.jobs.items.length + carriedWeight s.workers +
    s.results.items.length + (s.workers.length - s.joined) + (!s.released).toNat + s.consumer.weight +
    (!s.cancelled).toNat

theorem cancelled_weight (cancelled more : Bool) : (!(cancelled || more)).toNat ≤ (!cancelled).toNat := by
  cases cancelled <;> cases more <;> decide

theorem dispatcher_lowers (stops : plan.source.StopsAt n) (within : s.pulled ≤ n)
    (move : DispatcherMove plan s action t) : t.workLeft n < s.workLeft n := by
  cases move with
  | @pullItem a asks pulled =>
    have below : s.pulled < n := by
      refine Nat.lt_of_le_of_ne within ?_
      rintro rfl
      exact stops a pulled
    have cancelled := cancelled_weight s.cancelled (plan.source s.pulled).cancels
    simp only [workLeft, asks, DispatcherPhase.weight]
    omega
  | pullEnd asks | pullPanic asks =>
    have cancelled := cancelled_weight s.cancelled (plan.source s.pulled).cancels
    simp only [workLeft, asks, DispatcherPhase.weight, Queue.dropProducer]
    omega
  | stop holds | offer holds =>
    simp only [workLeft, holds, DispatcherPhase.weight]
    omega
  | enqueue offers | refused offers =>
    simp only [workLeft, offers, DispatcherPhase.weight, List.length_append, List.length_singleton]
    omega
  | close closes =>
    simp only [workLeft, closes, DispatcherPhase.weight, Queue.dropProducer]
    omega
  | pass offers waits =>
    obtain ⟨others, whole, changed⟩ := weight_split waits
    simp only [workLeft, setWorker, offers, whole, changed, DispatcherPhase.weight, Worker.weight, List.length_set]
    omega

theorem worker_lowers (found : s.workers[i]? = some w) (move : WorkerMove plan s i w action t) :
    t.workLeft n < s.workLeft n := by
  obtain ⟨others, whole, changed⟩ := weight_split found
  cases move with
  | take queued =>
    simp only [workLeft, setWorker, queued, whole, changed, Worker.weight, List.length_set, List.length_cons]
    omega
  | start | give | pass =>
    simp only [workLeft, setWorker, whole, changed, Worker.weight, List.length_set, List.length_append,
      List.length_singleton]
    omega
  | skip =>
    simp only [workLeft, answer, setWorker, whole, changed, Worker.weight, List.length_set]
    omega
  | @finish n job =>
    have cancelled := cancelled_weight s.cancelled (plan.transform job.payload).cancels
    simp only [workLeft, answer, setWorker, whole, changed, Worker.weight, List.length_set]
    omega
  | exit | refused =>
    simp only [workLeft, letGo, setWorker, whole, changed, Worker.weight, List.length_set, Queue.dropConsumer,
      Queue.dropProducer]
    omega
  | @panic n job =>
    have cancelled := cancelled_weight s.cancelled (plan.transform job.payload).cancels
    simp only [workLeft, letGo, setWorker, whole, changed, Worker.weight, List.length_set, Queue.dropConsumer,
      Queue.dropProducer]
    omega

theorem move_lowers (stops : plan.source.StopsAt n) (within : s.pulled ≤ n) (move : Move plan s action t) :
    t.workLeft n < s.workLeft n := by
  cases move with
  | dispatcher move => exact dispatcher_lowers stops within move
  | worker found move => exact worker_lowers found move
  | join found gone =>
    have inside := (List.getElem?_eq_some_iff.mp found).1
    simp only [workLeft]
    omega
  | release joined unreleased =>
    simp only [workLeft, unreleased, Queue.dropProducer, Bool.not_true, Bool.not_false, Bool.toNat_true,
      Bool.toNat_false]
    omega
  | consume drains queued =>
    simp only [workLeft, queued, List.length_cons]
    omega
  | seeClose drains =>
    simp only [workLeft, drains, ConsumerPhase.weight]
    omega
  | leave present =>
    rcases present with drains | idle
    · simp only [workLeft, drains, ConsumerPhase.weight, Queue.dropConsumer]
      omega
    · simp only [workLeft, idle, ConsumerPhase.weight, Queue.dropConsumer]
      omega
  | cancel fresh =>
    simp only [workLeft, fresh, Bool.not_true, Bool.not_false, Bool.toNat_true, Bool.toNat_false]
    omega

-- The source is never asked beyond the place where it stops.
theorem move_within (stops : plan.source.StopsAt n) (within : s.pulled ≤ n) (move : Move plan s action t) :
    t.pulled ≤ n := by
  cases move with
  | dispatcher move =>
    cases move with
    | @pullItem a asks pulled =>
      refine Nat.lt_of_le_of_ne within ?_
      rintro rfl
      exact stops a pulled
    | _ => exact within
  | worker found move => rw [(worker_beside move).pulled]; exact within
  | _ => exact within

theorem runs_lower (stops : plan.source.StopsAt n) (run : Runs plan s path t) (within : s.pulled ≤ n) :
    path.length + t.workLeft n ≤ s.workLeft n := by
  induction run with
  | nil => simp
  | cons step _ ih =>
    obtain ⟨stepped⟩ := step
    have move := move_sound stepped
    have lower := move_lowers stops within move
    have rest := ih (move_within stops within move)
    rw [List.length_cons]
    omega

theorem idle_weight (size : Nat) : carriedWeight (List.replicate size (Worker.idle : Worker α ρ)) = size := by
  simp [carriedWeight, Worker.idle, Worker.weight]

theorem start_workLeft {dispatcher : DispatcherPhase α} {dispatched capacity : Nat} {jobs : Queue (Job α)}
    {consumer : ConsumerPhase} {cancelled : Bool} :
    (start size dispatcher dispatched jobs capacity consumer cancelled : PoolState α ρ).workLeft n =
      8 * (n - dispatched) + dispatcher.weight + 5 * jobs.items.length + 2 * size + 1 + consumer.weight +
        (!cancelled).toNat := by
  simp [workLeft, start, idle_weight]
  omega

theorem opened_bounded (stops : a.plan.source.StopsAt n) (opened : a.opening? size = some s)
    (run : Runs a.plan s path t) : path.length ≤ 8 * n + 2 * size + 5 := by
  have fresh (cancelled : Bool) : (!cancelled).toNat ≤ 1 := Bool.toNat_le _
  have present : a.consumer.weight ≤ 1 := by cases a.consumer <;> decide
  rcases opening_cases opened with rfl | ⟨d, filling, _, _, rfl⟩
  · have spent := runs_lower stops run (Nat.zero_le n)
    have unset := fresh a.cancelled
    simp only [start_workLeft, DispatcherPhase.weight, Queue.bounded, List.length_nil] at spent
    omega
  · have within : d.dispatcher.dispatched ≤ n := by
      by_contra beyond
      obtain ⟨x, item⟩ := filling.supplied n (Nat.lt_of_not_le beyond)
      exact stops x item
    have spent := runs_lower stops run within
    have unset := fresh d.dispatcher.cancelled
    simp only [start_workLeft, DispatcherPhase.weight, Queue.dropProducer, filling.count] at spent
    omega

end PoolState
end GuardedWork
