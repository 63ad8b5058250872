import GuardedWork.Proofs.Queue.Transfer
import GuardedWork.Queue.Shared
import Mathlib.Data.List.Basic

namespace GuardedWork.Transfer

variable {α : Type} {q : Queue α} {t u : Transfer α} {action : Action} {path : List Action} {xs : List α} {k : Nat}

-- Of all items, how many the one thread has when it is done.
def wanted (t : Transfer α) : Nat := t.got.length + t.toTake

def callsLeft (t : Transfer α) : Nat := t.toPut.length + t.toTake

-- As many items as are wanted are taken, as many of the rest as fit are buffered.
def settled (t : Transfer α) : Transfer α where
  queue := { t.queue with items := (t.whole.drop t.wanted).take t.queue.capacity }
  toPut := t.whole.drop (t.wanted + t.queue.capacity)
  toTake := t.wanted - t.whole.length
  got := t.whole.take t.wanted

-- Neither thread can go on, so that one of them that is not done waits for ever.
def Ended (t : Transfer α) : Prop := ∀ action, step? action t = none

def PutWaits (t : Transfer α) : Prop := ∃ a rest, t.toPut = a :: rest ∧ t.queue.put a = .blocks
def TakeWaits (t : Transfer α) : Prop := t.toTake ≠ 0 ∧ t.queue.take = .blocks

-- There are enough items for the one thread, and not too many for the other.
def GoesThrough (t : Transfer α) : Prop :=
  t.wanted ≤ t.whole.length ∧ t.whole.length - t.wanted ≤ t.queue.capacity

theorem move_wanted (move : Move t action u) : u.wanted = t.wanted := by
  cases move with
  | put => rfl
  | take toTake => simp only [wanted, toTake, List.length_append, List.length_singleton]; omega
  | handOver _ toTake => simp only [wanted, toTake, List.length_append, List.length_singleton]; omega

theorem move_handles (move : Move t action u) :
    u.queue.producers = t.queue.producers ∧ u.queue.consumers = t.queue.consumers := by
  cases move <;> exact ⟨rfl, rfl⟩

theorem move_calls (move : Move t action u) : u.callsLeft < t.callsLeft := by
  cases move with
  | put toPut => simp [callsLeft, toPut]
  | take toTake => simp [callsLeft, toTake]
  | handOver toPut toTake => simp only [callsLeft, toPut, toTake, List.length_cons]; omega

-- What a run keeps, as it leads from one transfer to another.
structure Leads (t u : Transfer α) : Prop extends Follows t u where
  wanted : u.wanted = t.wanted
  producers : u.queue.producers = t.queue.producers
  consumers : u.queue.consumers = t.queue.consumers

theorem move_leads {v : Transfer α} (leads : Leads t u) (move : Move u action v) : Leads t v := by
  have next := move_follows leads.fits move
  obtain ⟨producers, consumers⟩ := move_handles move
  exact { whole := next.whole.trans leads.whole, capacity := next.capacity.trans leads.capacity, fits := next.fits,
          wanted := (move_wanted move).trans leads.wanted, producers := producers.trans leads.producers,
          consumers := consumers.trans leads.consumers }

theorem runs_lead (fits : t.queue.items.length ≤ t.queue.capacity) (run : Runs t path u) : Leads t u :=
  runs_keep move_leads run ⟨⟨rfl, rfl, fits⟩, rfl, rfl, rfl⟩

theorem runs_calls (run : Runs t path u) : path.length + u.callsLeft ≤ t.callsLeft := by
  induction run with
  | nil => simp
  | cons stepped _ ih =>
    have fewer := move_calls (move_sound stepped)
    rw [List.length_cons]
    omega

theorem leads_settled (leads : Leads t u) : u.settled = t.settled := by
  have handles : u.queue.capacity = t.queue.capacity ∧ _ ∧ _ := ⟨leads.capacity, leads.producers, leads.consumers⟩
  simp [settled, leads.whole, leads.wanted, handles]

theorem leads_through (leads : Leads t u) : u.GoesThrough ↔ t.GoesThrough := by
  rw [GoesThrough, GoesThrough, leads.whole, leads.wanted, leads.capacity]

theorem start_wanted : wanted ⟨q, xs, k, []⟩ = k := Nat.zero_add k

theorem start_through :
    GoesThrough ⟨q, xs, k, []⟩ ↔ k ≤ (q.items ++ xs).length ∧ (q.items ++ xs).length - k ≤ q.capacity := by
  rw [GoesThrough, start_wanted]
  rfl

-- Whoever takes is done or finds nothing, whoever puts is done or finds no room.
theorem ended_cases (heard : t.queue.consumers ≠ 0) (fits : t.queue.items.length ≤ t.queue.capacity) (ended : Ended t) :
    (t.toTake = 0 ∧ (t.toPut = [] ∨ t.queue.items.length = t.queue.capacity)) ∨ (t.queue.items = [] ∧ t.toPut = []) := by
  have still : ∀ action u, ¬ Move t action u := by
    intro action u move
    cases (ended action).symm.trans (move_complete move)
  have filled : t.toPut = [] ∨ t.queue.items.length = t.queue.capacity := by
    cases toPut : t.toPut with
    | nil => exact .inl rfl
    | cons a rest => exact .inr (Nat.le_antisymm fits (Nat.le_of_not_lt fun room => still _ _ (.put toPut heard room)))
  cases toTake : t.toTake with
  | zero => exact .inl ⟨rfl, filled⟩
  | succ n =>
    cases queued : t.queue.items with
    | cons a rest => exact absurd (.take toTake queued) (still _ _)
    | nil =>
      -- an empty queue is full only where an item is handed over
      refine .inr ⟨rfl, ?_⟩
      cases toPut : t.toPut with
      | nil => rfl
      | cons a rest =>
        have bufferless : t.queue.items.length = t.queue.capacity := filled.resolve_left (by simp [toPut])
        rw [queued] at bufferless
        exact absurd (.handOver toPut toTake bufferless.symm) (still _ _)

theorem ended_settled (heard : t.queue.consumers ≠ 0) (fits : t.queue.items.length ≤ t.queue.capacity) (ended : Ended t) :
    t = t.settled := by
  obtain ⟨⟨capacity, items, producers, consumers⟩, toPut, toTake, got⟩ := t
  rcases ended_cases heard fits ended with ⟨rfl, rfl | filled⟩ | ⟨rfl, rfl⟩
  · have short : items.length ≤ capacity := fits
    have allPut : (got ++ items).length ≤ got.length + capacity := by
      rw [List.length_append]
      exact Nat.add_le_add_left short _
    simp only [settled, whole, wanted, List.append_nil, Nat.add_zero, List.drop_left, List.take_left,
      List.take_of_length_le short, List.drop_eq_nil_of_le allPut, List.length_append, Nat.sub_eq_zero_of_le
        (Nat.le_add_right got.length items.length)]
  · replace filled : items.length = capacity := filled
    simp [settled, whole, wanted, ← filled]
  · have allGot : got.length ≤ got.length + toTake := Nat.le_add_right _ _
    simp [settled, whole, wanted, List.take_of_length_le allGot, Nat.le_add_right_of_le allGot]

theorem through_done (through : t.GoesThrough) :
    t.settled = ⟨{ t.queue with items := t.whole.drop t.wanted }, [], 0, t.whole.take t.wanted⟩ := by
  obtain ⟨enough, fitting⟩ := through
  have short : (t.whole.drop t.wanted).length ≤ t.queue.capacity := by rwa [List.length_drop]
  have allPut : t.whole.length ≤ t.wanted + t.queue.capacity := by omega
  rw [settled, List.take_of_length_le short, List.drop_eq_nil_of_le allPut, Nat.sub_eq_zero_of_le enough]

theorem isDone_iff : t.isDone = true ↔ t.toPut = [] ∧ t.toTake = 0 := by
  simp [isDone]

theorem done_ended (done : t.isDone = true) : Ended t := by
  obtain ⟨allPut, allTaken⟩ := isDone_iff.mp done
  rintro (_ | _ | _) <;> simp [step?, allPut, allTaken]

theorem unended_steps : ¬ Ended t ↔ ∃ action u, step? action t = some u := by
  simp [Ended, Option.ne_none_iff_exists']

theorem done_through (fits : t.queue.items.length ≤ t.queue.capacity) (done : t.isDone = true) : t.GoesThrough := by
  obtain ⟨allPut, allTaken⟩ := isDone_iff.mp done
  constructor
  · simp [wanted, whole, allTaken, allPut]
  · simpa [wanted, whole, allTaken, allPut] using fits

-- Not both threads wait: the one has too few items, or the other too many.
theorem ended_waits (opened : t.queue.producers ≠ 0) (heard : t.queue.consumers ≠ 0)
    (fits : t.queue.items.length ≤ t.queue.capacity) (ended : Ended t) (unfit : ¬ t.GoesThrough) :
    (PutWaits t ∧ t.toTake = 0) ∨ (TakeWaits t ∧ t.toPut = []) := by
  rcases ended_cases heard fits ended with ⟨allTaken, allPut | filled⟩ | ⟨empty, allPut⟩
  · exact absurd (done_through fits (isDone_iff.mpr ⟨allPut, allTaken⟩)) unfit
  · cases toPut : t.toPut with
    | nil => exact absurd (done_through fits (isDone_iff.mpr ⟨toPut, allTaken⟩)) unfit
    | cons a rest => exact .inl ⟨⟨a, rest, toPut, by simp [Queue.put, Queue.hasRoom, heard, filled]⟩, allTaken⟩
  · refine .inr ⟨⟨fun allTaken => unfit (done_through fits (isDone_iff.mpr ⟨allPut, allTaken⟩)), ?_⟩, allPut⟩
    simp [Queue.take, Queue.isClosed, empty, opened]

-- The end is a function of the start, so that it does not matter whose turn it is.
theorem transfer_confluent (fits : q.items.length ≤ q.capacity) (opened : q.producers ≠ 0) (heard : q.consumers ≠ 0)
    (run : Runs ⟨q, xs, k, []⟩ path t) :
    path.length + t.callsLeft ≤ xs.length + k ∧ (∀ a, t.queue.put a ≠ .refused) ∧ t.queue.take ≠ .closed ∧
      (Ended t → t = settled ⟨q, xs, k, []⟩) ∧
      (k ≤ (q.items ++ xs).length ∧ (q.items ++ xs).length - k ≤ q.capacity →
        (t.isDone = false → ∃ action u, step? action t = some u) ∧
          (t.isDone = true ∨ Ended t →
            t = ⟨{ q with items := (q.items ++ xs).drop k }, [], 0, (q.items ++ xs).take k⟩)) ∧
      (¬ (k ≤ (q.items ++ xs).length ∧ (q.items ++ xs).length - k ≤ q.capacity) →
        t.isDone = false ∧ (Ended t → (PutWaits t ∧ t.toTake = 0) ∨ (TakeWaits t ∧ t.toPut = []))) := by
  have leads := runs_lead fits run
  have stillOpened : t.queue.producers ≠ 0 := leads.producers ▸ opened
  have stillHeard : t.queue.consumers ≠ 0 := leads.consumers ▸ heard
  have through : t.GoesThrough ↔ k ≤ (q.items ++ xs).length ∧ (q.items ++ xs).length - k ≤ q.capacity :=
    (leads_through leads).trans start_through
  have last : Ended t → t = settled ⟨q, xs, k, []⟩ := fun ended =>
    (ended_settled stillHeard leads.fits ended).trans (leads_settled leads)
  refine ⟨runs_calls run, fun a refused => stillHeard (Queue.put_eq_refused.mp refused),
    fun closed => stillOpened (Queue.take_eq_closed.mp closed).2, last, ?_, ?_⟩
  · intro fitting
    have allDone : Ended t → t = ⟨{ q with items := (q.items ++ xs).drop k }, [], 0, (q.items ++ xs).take k⟩ := by
      intro ended
      rw [last ended, through_done (start_through.mpr fitting), start_wanted]
      rfl
    constructor
    · intro unfinished
      apply unended_steps.mp
      intro ended
      rw [allDone ended] at unfinished
      cases unfinished
    · rintro (done | ended)
      · exact allDone (done_ended done)
      · exact allDone ended
  · intro unfit
    rw [← through] at unfit
    constructor
    · apply Bool.eq_false_iff.mpr
      intro done
      exact unfit (done_through leads.fits done)
    · intro ended
      exact ended_waits stillOpened stillHeard leads.fits ended unfit

-- Two items go straight over; of three, the last stays in the hand of a thread that waits for ever.
theorem rendezvous_confluent :
    Runs ⟨.bounded 0, ['a', 'b'], 2, []⟩ [.handOver, .handOver] ⟨.bounded 0, [], 0, ['a', 'b']⟩ ∧
      Runs ⟨.bounded 0, ['a', 'b', 'c'], 2, []⟩ [.handOver, .handOver] ⟨.bounded 0, ['c'], 0, ['a', 'b']⟩ ∧
      PutWaits (⟨.bounded 0, ['c'], 0, ['a', 'b']⟩ : Transfer Char) ∧
      ∀ path t, Runs ⟨.bounded 0, ['a', 'b'], 2, []⟩ path t → Ended t → t = ⟨.bounded 0, [], 0, ['a', 'b']⟩ := by
  have stays : (Queue.bounded 0 : Queue Char).items.length ≤ (Queue.bounded 0 : Queue Char).capacity := Nat.le_refl 0
  have two : Runs ⟨.bounded 0, ['a', 'b'], 2, []⟩ [.handOver, .handOver] ⟨.bounded 0, [], 0, ['a', 'b']⟩ :=
    .cons rfl (.cons rfl .nil)
  have three : Runs ⟨.bounded 0, ['a', 'b', 'c'], 2, []⟩ [.handOver, .handOver] ⟨.bounded 0, ['c'], 0, ['a', 'b']⟩ :=
    .cons rfl (.cons rfl .nil)
  obtain ⟨_, _, _, _, _, unfit⟩ := transfer_confluent stays Nat.one_ne_zero Nat.one_ne_zero three
  have waiting : Ended (⟨.bounded 0, ['c'], 0, ['a', 'b']⟩ : Transfer Char) := by rintro (_ | _ | _) <;> rfl
  refine ⟨two, three, ?_, fun path t run ended => ?_⟩
  · exact ((unfit (by decide)).2 waiting).elim (·.1) fun takes => absurd takes.2 (by decide)
  · obtain ⟨_, _, _, _, fitting, _⟩ := transfer_confluent stays Nat.one_ne_zero Nat.one_ne_zero run
    exact (fitting (by decide)).2 (.inr ended)

theorem next_none (stopped : t.next? = none) : Ended t := by
  simp only [next?, Option.orElse_eq_orElse, Option.orElse_eq_or, Option.or_eq_none_iff] at stopped
  rintro (_ | _ | _)
  · exact stopped.2.1
  · exact stopped.1
  · exact stopped.2.2

theorem run_ended {fuel : Nat} (enough : t.callsLeft ≤ fuel) : Ended (t.run fuel) := by
  induction fuel generalizing t with
  | zero =>
    have none : t.toPut.length + t.toTake = 0 := Nat.le_zero.mp enough
    rw [Nat.add_eq_zero_iff, List.length_eq_zero_iff] at none
    exact done_ended (isDone_iff.mpr none)
  | succ fuel ih =>
    rw [run]
    split
    · next u found =>
      obtain ⟨action, stepped⟩ := next_step found
      exact ih (Nat.le_of_lt_succ (Nat.lt_of_lt_of_le (move_calls (move_sound stepped)) enough))
    · next stopped => exact next_none stopped

theorem finish_settled (fits : t.queue.items.length ≤ t.queue.capacity) (heard : t.queue.consumers ≠ 0) :
    t.finish = t.settled := by
  obtain ⟨path, run⟩ := run_reached t t.callsLeft
  have leads := runs_lead fits run
  exact (ended_settled (leads.consumers ▸ heard) leads.fits (run_ended (Nat.le_refl _))).trans (leads_settled leads)

theorem settled_done : t.settled.isDone = true ↔ t.GoesThrough := by
  rw [isDone_iff, settled, GoesThrough, List.drop_eq_nil_iff, Nat.sub_eq_zero_iff_le, Nat.sub_le_iff_le_add', and_comm]

end GuardedWork.Transfer

namespace GuardedWork.SharedQueue

variable {α : Type} {s : SharedQueue α} {xs : List α} {k : Nat}

theorem transfer_exact (fits : s.items.length ≤ s.capacity) (heard : s.consumers.count true ≠ 0) :
    s.transfer xs k =
      if k ≤ (s.items ++ xs).length ∧ (s.items ++ xs).length - k ≤ s.capacity then
        (.transferred ((s.items ++ xs).take k) true, s.setItems ((s.items ++ xs).drop k))
      else (.wouldBlock, s) := by
  have ends : Transfer.finish ⟨s.queue, xs, k, []⟩ = Transfer.settled ⟨s.queue, xs, k, []⟩ :=
    Transfer.finish_settled fits heard
  have goesThrough : (Transfer.settled ⟨s.queue, xs, k, []⟩).isDone = true ↔
      k ≤ (s.items ++ xs).length ∧ (s.items ++ xs).length - k ≤ s.capacity :=
    Transfer.settled_done.trans Transfer.start_through
  simp only [transfer, ends, goesThrough]
  split
  · next fitting =>
    rw [Transfer.through_done (Transfer.start_through.mpr fitting), Transfer.start_wanted]
    rfl
  · rfl

end GuardedWork.SharedQueue
