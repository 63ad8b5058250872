import GuardedWork.Proofs.Exchange
import GuardedWork.Proofs.Pipeline.Flow
import Mathlib.Algebra.Order.BigOperators.Group.List
import Mathlib.Algebra.Order.Group.Nat

namespace GuardedWork

variable {α : Type}

namespace StagePhase

-- Whether a thread has no hand free. One that is gone has none either.
def busy : StagePhase α → Nat
  | waiting => 0
  | holding _ | offering _ | gone => 1

def left : StagePhase α → Nat
  | gone => 1
  | waiting | holding _ | offering _ => 0

theorem busy_le (phase : StagePhase α) : phase.busy ≤ 1 := by
  cases phase with
  | waiting => exact Nat.zero_le 1
  | holding | offering | gone => exact Nat.le_refl 1

end StagePhase

def Link.kept (l : Link α) : Nat := l.buffer.length + l.phase.busy

namespace PipelineState

variable {p : Pipeline α} {first : PipelineConsumer} {s t : PipelineState α} {action : PipelineAction}
  {path : List PipelineAction} {links : List (Link α)} {l m next : Link α} {pulled taken i : Nat}

def kept (links : List (Link α)) : Nat := (links.map Link.kept).sum
def leavers (links : List (Link α)) : Nat := (links.map fun l => l.phase.left).sum

-- Some of the threads that are gone went with empty hands.
def Accounted (pulled taken : Nat) (links : List (Link α)) : Prop :=
  ∃ empty ≤ leavers links, pulled + empty = taken + kept links

theorem accounted_set {more after : Nat} (empty : Nat) (accounted : Accounted pulled taken links)
    (found : links[i]? = some l) (leaves : l.phase.left + empty ≤ m.phase.left)
    (balance : more + taken + l.kept + empty = pulled + after + m.kept) :
    Accounted more after (links.set i m) := by
  obtain ⟨before, within, total⟩ := accounted
  have keeps : kept (links.set i m) + l.kept = kept links + m.kept := sum_set Link.kept found m
  have goes : leavers (links.set i m) + l.phase.left = leavers links + m.phase.left :=
    sum_set (fun l => l.phase.left) found m
  exact ⟨before + empty, by omega, by omega⟩

-- It goes with nothing, or with what it has in its hands.
theorem accounted_gone (accounted : Accounted pulled taken links) (found : links[i]? = some l)
    (alive : l.phase ≠ .gone) : Accounted pulled taken (links.set i { l with phase := .gone }) := by
  cases phase : l.phase with
  | waiting =>
    apply accounted_set 1 accounted found
    · simp [phase, StagePhase.left]
    · simp [phase, Link.kept, StagePhase.busy, Nat.add_assoc]
  | holding a | offering b =>
    apply accounted_set 0 accounted found
    · simp [phase, StagePhase.left]
    · simp [phase, Link.kept, StagePhase.busy]
  | gone => exact absurd phase alive

theorem accounted_still {more after : Nat} (accounted : Accounted pulled taken links) (found : links[i]? = some l)
    (alive : l.phase ≠ .gone) (balance : more + taken + l.kept = pulled + after + m.kept) :
    Accounted more after (links.set i m) := by
  refine accounted_set 0 accounted found ?_ balance
  cases phase : l.phase with
  | gone => exact absurd phase alive
  | waiting | holding | offering => exact Nat.zero_le _

theorem accounted_less {a : α} {rest : List α} (accounted : Accounted pulled taken links) (found : links[i]? = some l)
    (queued : l.buffer = a :: rest) : Accounted pulled (taken + 1) (links.set i { l with buffer := rest }) := by
  apply accounted_set 0 accounted found
  · exact Nat.le_refl _
  · simp only [Link.kept, queued, List.length_cons]
    omega

-- Between two neighbours an item counts as taken for the moment.
theorem accounted_given {b : α} (accounted : Accounted pulled taken links) (found : links[i]? = some l)
    (offers : l.phase = .offering b) : Accounted pulled (taken + 1) (links.set i { l with phase := .waiting }) := by
  apply accounted_still accounted found
  · simp [offers]
  · simp only [Link.kept, offers, StagePhase.busy]
    omega

theorem accounted_got {a : α} (accounted : Accounted pulled (taken + 1) links) (found : links[i]? = some l)
    (waits : l.phase = .waiting) : Accounted pulled taken (links.set i { l with phase := .holding a }) := by
  apply accounted_still accounted found
  · simp [waits]
  · simp only [Link.kept, waits, StagePhase.busy]
    omega

theorem move_accounted (accounted : Accounted s.pulled s.taken.length s.links) (move : Move p s action t) :
    Accounted t.pulled t.taken.length t.links := by
  cases move with
  | pullItem found waits =>
    apply accounted_still accounted found (by simp [waits])
    simp only [waits, Link.kept, StagePhase.busy, setLink]
    omega
  | pullEnd found waits => exact accounted_gone accounted found (by simp [waits])
  | close found reader waits => exact accounted_gone accounted reader (by simp [waits])
  | panic found staged holds => exact accounted_gone accounted found (by simp [holds])
  | refused found offers => exact accounted_gone accounted found (by simp [offers])
  | accept found reader waits queued =>
    exact accounted_got (accounted_less accounted found queued) (reader_still reader) waits
  | work found staged holds =>
    apply accounted_still accounted found (by simp [holds])
    simp only [holds, Link.kept, StagePhase.busy, setLink]
  | put found offers =>
    apply accounted_still accounted found (by simp [offers])
    simp only [offers, Link.kept, StagePhase.busy, setLink, List.length_append, List.length_singleton]
  | pass found offers bufferless reader waits =>
    exact accounted_got (accounted_given accounted found offers) (reader_still reader) waits
  | hand found offers =>
    rw [List.length_append]
    exact accounted_given accounted found offers
  | consume found queued =>
    rw [List.length_append]
    exact accounted_less accounted found queued
  | seeClose | drop => exact accounted

theorem move_capacities (move : Move p s action t) : t.links.map Link.capacity = s.links.map Link.capacity := by
  cases move with
  | pullItem found | pullEnd found | work found | panic found | put found | refused found | hand found
  | consume found => exact map_set_same found rfl
  | close found reader => exact map_set_same reader rfl
  | accept found reader | pass found offers bufferless reader =>
    refine (map_set_same (reader_still reader) ?_).trans (map_set_same found ?_) <;> rfl
  | seeClose | drop => rfl

structure ReadAhead (p : Pipeline α) (s : PipelineState α) : Prop where
  wired : Wired p s.links
  capacities : s.links.map Link.capacity = p.capacity :: p.stages.map Stage.capacity
  accounted : Accounted s.pulled s.taken.length s.links

theorem start_ahead (p : Pipeline α) (first : PipelineConsumer) : ReadAhead p (start p first) := by
  refine ⟨start_wired p first, ?_, 0, Nat.zero_le _, ?_⟩
  · simp [start, Link.ofCapacity, Function.comp_def]
  · simp [start, kept, Link.ofCapacity, Link.kept, StagePhase.busy, Function.comp_def]

theorem move_ahead (ahead : ReadAhead p s) (move : Move p s action t) : ReadAhead p t :=
  ⟨move_wired ahead.wired move, (move_capacities move).trans ahead.capacities, move_accounted ahead.accounted move⟩

theorem runs_ahead (run : Runs p (start p first) path s) : ReadAhead p s := by
  apply runs_keep _ run (start_ahead p first)
  intro s t action
  exact move_ahead

-- In all the outputs and in the hands of all the threads.
theorem rooms_sum (ahead : ReadAhead p s) : (s.links.map fun l => l.capacity + 1).sum =
    p.capacity + (p.stages.map Stage.capacity).sum + p.stages.length + 1 := by
  have capacities := congrArg List.sum ahead.capacities
  have size := ahead.wired.size
  rw [List.sum_cons] at capacities
  rw [List.sum_map_add, capacities, List.map_const', List.sum_replicate_nat, size, Nat.mul_one]
  rfl

theorem kept_within (ahead : ReadAhead p s) (member : l ∈ s.links) : l.kept ≤ l.capacity + 1 := by
  obtain ⟨i, found⟩ := List.mem_iff_getElem?.mp member
  exact Nat.add_le_add (ahead.wired.sound i l found).1 l.phase.busy_le

-- What is pulled and not taken lies in an output, or in the hands of a thread, or has gone with a thread.
theorem reads_ahead_within (run : Runs p (start p first) path s) :
    s.pulled ≤ s.taken.length + (p.capacity + (p.stages.map Stage.capacity).sum + p.stages.length + 1) := by
  have ahead := runs_ahead run
  obtain ⟨empty, _, total⟩ := ahead.accounted
  have within : kept s.links ≤ (s.links.map fun l => l.capacity + 1).sum := by
    apply List.sum_le_sum
    intro l member
    exact kept_within ahead member
  rw [rooms_sum ahead] at within
  omega

-- The second stage panics on the number one; the source never ends.
def endless : Pipeline Nat :=
  ⟨fun i => ⟨.item i, false⟩, 0, [⟨1, fun x => some (x + 10)⟩, ⟨0, fun x => if x = 11 then none else some (x * x)⟩]⟩

def endlessPath : List PipelineAction :=
  [.pull, .pass 0, .work 0, .put 1, .accept 1, .work 1, .pass 2, .drop, .pull, .pass 0, .work 0, .put 1, .accept 1,
    .pull, .pass 0, .work 0, .put 1, .pull, .pass 0, .work 0, .pull, .work 1]

-- The stage that panics has left its input full, and a full hand behind it.
theorem endless_reads_ahead : ∃ s, Runs endless (start endless (.wanting 1)) endlessPath s ∧
    s.consumer = .dropped ∧ s.taken = [100] ∧ s.pulled = 5 ∧ 5 ≤ 1 + (0 + (1 + (0 + 0)) + 2 + 1) := by
  have run : Runs endless (start endless (.wanting 1)) endlessPath _ := runs_of_replay rfl
  exact ⟨_, run, rfl, rfl, rfl, reads_ahead_within run⟩

-- Nothing is left to do but what the consumer does.
def Stalled (p : Pipeline α) (s : PipelineState α) : Prop :=
  ∀ action t, s.step? p action = some t → (t.taken, t.consumer) ≠ (s.taken, s.consumer)

theorem stalled_apart (stalled : Stalled p s) (move : Move p s action t)
    (same : (t.taken, t.consumer) = (s.taken, s.consumer)) : False :=
  stalled action t (move_complete move) same

theorem stalled_full {b : α} (stalled : Stalled p s) (wired : Wired p s.links) (found : s.links[i]? = some l)
    (offers : l.phase = .offering b) : l.buffer.length = l.capacity := by
  rcases Nat.lt_or_eq_of_le (wired.sound i l found).1 with room | full
  · cases read : s.isRead i with
    | true => exact (stalled_apart stalled (.put found offers read room) rfl).elim
    | false => exact (stalled_apart stalled (.refused found offers read) rfl).elim
  · exact full

-- From the source on everybody waits for the thread behind it.
theorem stalled_offering (stalled : Stalled p s) (wired : Wired p s.links) (alive : ∀ l ∈ s.links, l.phase ≠ .gone)
    (found : s.links[i]? = some l) : ∃ b, l.phase = .offering b := by
  induction i generalizing l with
  | zero =>
    cases phase : l.phase with
    | waiting =>
      by_cases item : ∃ a, (p.source s.pulled).pulled = .item a
      · obtain ⟨a, pulled⟩ := item
        exact (stalled_apart stalled (.pullItem found phase pulled) rfl).elim
      · exact (stalled_apart stalled (.pullEnd found phase (not_exists.mp item)) rfl).elim
    | holding a => exact absurd phase ((wired.sound _ _ found).2 rfl a)
    | offering b => exact ⟨b, rfl⟩
    | gone => exact absurd phase (alive l (List.mem_of_getElem? found))
  | succ i ih =>
    have inside := (List.getElem?_eq_some_iff.mp found).1
    cases phase : l.phase with
    | waiting =>
      have before := List.getElem?_eq_getElem (Nat.lt_of_succ_lt inside)
      obtain ⟨b, offers⟩ := ih before
      have full := stalled_full stalled wired before offers
      cases queued : s.links[i].buffer with
      | cons a rest => exact (stalled_apart stalled (.accept before found phase queued) rfl).elim
      | nil =>
        rw [queued] at full
        exact (stalled_apart stalled (.pass before offers full.symm found phase) rfl).elim
    | holding a =>
      have staged : i < p.stages.length := by
        rw [wired.size] at inside
        exact Nat.lt_of_succ_lt_succ inside
      cases worked : p.stages[i].work a with
      | some b =>
        exact (stalled_apart stalled (.work found (List.getElem?_eq_getElem staged) phase worked) rfl).elim
      | none =>
        exact (stalled_apart stalled (.panic found (List.getElem?_eq_getElem staged) phase worked) rfl).elim
    | offering b => exact ⟨b, rfl⟩
    | gone => exact absurd phase (alive l (List.mem_of_getElem? found))

-- So there is no smaller bound.
theorem stalled_reads_ahead (run : Runs p (start p first) path s) (alive : ∀ l ∈ s.links, l.phase ≠ .gone)
    (stalled : Stalled p s) :
    s.pulled = s.taken.length + (p.capacity + (p.stages.map Stage.capacity).sum + p.stages.length + 1) := by
  have ahead := runs_ahead run
  have offering : ∀ l ∈ s.links, l.kept = l.capacity + 1 ∧ l.phase.left = 0 := by
    intro l member
    obtain ⟨i, found⟩ := List.mem_iff_getElem?.mp member
    obtain ⟨b, offers⟩ := stalled_offering stalled ahead.wired alive found
    have full := stalled_full stalled ahead.wired found offers
    simp [Link.kept, full, offers, StagePhase.busy, StagePhase.left]
  obtain ⟨empty, within, total⟩ := ahead.accounted
  have full : kept s.links = (s.links.map fun l => l.capacity + 1).sum :=
    congrArg List.sum (List.map_congr_left fun l member => (offering l member).1)
  have nobody : leavers s.links = 0 := by
    apply List.sum_eq_zero
    intro n member
    obtain ⟨l, inside, rfl⟩ := List.mem_map.mp member
    exact (offering l inside).2
  rw [rooms_sum ahead] at full
  omega

end PipelineState
end GuardedWork
