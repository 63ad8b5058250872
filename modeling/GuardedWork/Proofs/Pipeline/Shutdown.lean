import GuardedWork.Proofs.Pipeline.Progress
import GuardedWork.Proofs.Pipeline.ReadAhead

namespace GuardedWork

variable {α : Type}

-- Of the outputs from the source on: all of a pipeline but the answers of its threads.
def Pipeline.capacities (p : Pipeline α) : List Nat := p.capacity :: p.stages.map Stage.capacity

namespace PipelineState

variable {p q : Pipeline α} {capacities : List Nat} {first : PipelineConsumer} {s t : PipelineState α}
  {action : PipelineAction} {path later : List PipelineAction} {i : Nat} {l : Link α}

-- Each step is one of some pipeline with these capacities: no answer of a thread binds the next one.
inductive FreeRuns (capacities : List Nat) : PipelineState α → List PipelineAction → PipelineState α → Prop where
  | nil {s : PipelineState α} : FreeRuns capacities s [] s
  | cons {p : Pipeline α} {s t u : PipelineState α} {action : PipelineAction} {rest : List PipelineAction}
      (shaped : p.capacities = capacities) (stepped : s.step? p action = some t) (run : FreeRuns capacities t rest u) :
      FreeRuns capacities s (action :: rest) u

-- The runs of one pipeline are among them.
theorem runs_free (run : Runs p s path t) : FreeRuns p.capacities s path t := by
  induction run with
  | nil => exact .nil
  | cons stepped _ ih => exact .cons rfl stepped ih

theorem ahead_of_capacities (ahead : ReadAhead p s) (same : p.capacities = q.capacities) : ReadAhead q s := by
  have size : p.stages.length = q.stages.length := by
    simpa [Pipeline.capacities] using congrArg List.length same
  refine ⟨⟨ahead.wired.size.trans (congrArg (· + 1) size), ahead.wired.sound⟩, ?_, ahead.accounted⟩
  exact ahead.capacities.trans same

theorem free_runs_ahead (run : FreeRuns p.capacities s path t) (ahead : ReadAhead p s) : ReadAhead p t := by
  induction run with
  | nil => exact ahead
  | cons shaped stepped _ ih =>
    have before := ahead_of_capacities ahead shaped.symm
    exact ih (ahead_of_capacities (move_ahead before (move_sound stepped)) shaped)

theorem pulled_within (ahead : ReadAhead p s) :
    s.pulled ≤ s.taken.length + (p.capacities.map (· + 1)).sum := by
  obtain ⟨empty, _, total⟩ := ahead.accounted
  have within : kept s.links ≤ ((s.links.map Link.capacity).map (· + 1)).sum := by
    rw [List.map_map]
    exact List.sum_le_sum fun l member => kept_within ahead member
  rw [ahead.capacities] at within
  unfold Pipeline.capacities
  omega

theorem move_without_consumer (left : s.consumer.isThere = false) (move : Move p s action t) :
    t.consumer.isThere = false ∧ t.taken = s.taken := by
  have absent {consumer : PipelineConsumer} (wants : s.consumer.afterTake? = some consumer) : False :=
    Bool.false_ne_true (left.symm.trans (PipelineConsumer.afterTake_there wants))
  cases move with
  | hand found offers bufferless ends wants => exact (absent wants).elim
  | consume found queued wants => exact (absent wants).elim
  | seeClose found drained gone wants => exact (absent wants).elim
  | drop done => rw [done] at left; cases left
  | _ => exact ⟨left, rfl⟩

-- What is pulled stays within a bound that does not move, so that all the work left is lowered by each step.
theorem free_runs_lower (run : FreeRuns p.capacities s path t) (ahead : ReadAhead p s)
    (left : s.consumer.isThere = false) {n : Nat} (bound : s.taken.length + (p.capacities.map (· + 1)).sum = n) :
    path.length + t.workLeft n ≤ s.workLeft n := by
  induction run with
  | nil => simp
  | @cons q s t u action rest shaped stepped _ ih =>
    have move := move_sound stepped
    have before := ahead_of_capacities ahead shaped.symm
    have after := ahead_of_capacities (move_ahead before move) shaped
    obtain ⟨still, taken⟩ := move_without_consumer left move
    have within : t.pulled ≤ n := by
      rw [← bound, ← taken]
      exact pulled_within after
    have lower := move_lowers_within before.wired within move
    have more := ih after still (by rw [taken, bound])
    rw [List.length_cons]
    omega

theorem unread_can_move (wired : Wired p s.links) (found : s.links[i]? = some l) (alive : l.phase ≠ .gone)
    (unread : s.isRead i = false) : CanMove p s := by
  cases phase : l.phase with
  | waiting => exact waiting_can_move wired found phase
  | holding a => exact holding_can_move wired found phase
  | offering b => exact ⟨_, _, .refused found phase unread⟩
  | gone => exact absurd phase alive

-- By the number of threads behind it: the last of those that are there has no reader to wait for.
theorem unwanted_can_move (behind : Nat) (wired : Wired p s.links) (left : s.consumer.isThere = false)
    (found : s.links[i]? = some l) (alive : l.phase ≠ .gone) (size : s.links.length = i + behind + 1) :
    CanMove p s := by
  induction behind generalizing i l with
  | zero =>
    have ends : s.links[i + 1]? = none := List.getElem?_eq_none (Nat.le_of_eq size)
    exact unread_can_move wired found alive (by simpa [isRead, ends] using left)
  | succ behind ih =>
    have inside : i + 1 < s.links.length := by omega
    have reader := List.getElem?_eq_getElem inside
    by_cases gone : s.links[i + 1].phase = .gone
    · exact unread_can_move wired found alive (by simp [isRead, reader, gone, StagePhase.isGone])
    · exact ih reader gone (by omega)

theorem living_can_move (wired : Wired p s.links) (living : ∃ l ∈ s.links, l.phase ≠ .gone) : CanMove p s := by
  obtain ⟨l, member, alive⟩ := living
  obtain ⟨i, found⟩ := List.mem_iff_getElem?.mp member
  cases there : s.consumer.isThere with
  | true => exact present_can_move wired there
  | false =>
    have inside := (List.getElem?_eq_some_iff.mp found).1
    exact unwanted_can_move (s.links.length - i - 1) wired there found alive (by omega)

-- A consumer that is there takes, or has what it came for and leaves.
theorem no_thread_left_behind (run : FreeRuns p.capacities (start p first) path s) :
    (∀ q : Pipeline α, q.capacities = p.capacities → (∃ l ∈ s.links, l.phase ≠ .gone) →
      ∃ action t, s.step? q action = some t) ∧
      (s.consumer.isThere = false → ∃ bound, ∀ later t, FreeRuns p.capacities s later t →
        later.length ≤ bound ∧
          ∀ q : Pipeline α, q.capacities = p.capacities → (∀ action, t.step? q action = none) →
            ∀ l ∈ t.links, l.phase = .gone) := by
  have ahead := free_runs_ahead run (start_ahead p first)
  have goes_on {t : PipelineState α} (ahead : ReadAhead p t) (q : Pipeline α) (same : q.capacities = p.capacities)
      (living : ∃ l ∈ t.links, l.phase ≠ .gone) : ∃ action u, t.step? q action = some u := by
    obtain ⟨action, u, move⟩ := living_can_move (ahead_of_capacities ahead same.symm).wired living
    exact ⟨action, u, move_complete move⟩
  refine ⟨goes_on ahead, fun left => ⟨s.workLeft (s.taken.length + (p.capacities.map (· + 1)).sum), ?_⟩⟩
  intro later t more
  refine ⟨?_, ?_⟩
  · exact Nat.le_of_add_right_le (free_runs_lower more ahead left rfl)
  · intro q same stuck l member
    by_contra alive
    obtain ⟨action, u, stepped⟩ := goes_on (free_runs_ahead more ahead) q same ⟨l, member, alive⟩
    rw [stuck action] at stepped
    cases stepped

theorem free_runs_of_replay {steps : List (Pipeline α × PipelineAction)}
    (shaped : ∀ step ∈ steps, step.1.capacities = capacities)
    (replayed : steps.foldlM (fun s step => s.step? step.1 step.2) s = some t) :
    FreeRuns capacities s (steps.map Prod.snd) t := by
  induction steps generalizing s with
  | nil => cases replayed; exact .nil
  | cons step rest ih =>
    obtain ⟨next, stepped, replayed⟩ := Option.bind_eq_some_iff.mp replayed
    obtain ⟨here, behind⟩ := List.forall_mem_cons.mp shaped
    exact .cons here stepped (ih behind replayed)

-- Without buffers, and with a source that never ends: always the same item, of which the stage makes something
-- else every time.
def fickle (answer : Option Nat) : Pipeline Nat := ⟨fun _ => ⟨.item 7, false⟩, 0, [⟨0, fun _ => answer⟩]⟩

def fickleSteps : List (Pipeline Nat × PipelineAction) :=
  [.pull, .pass 0, .work 0, .pass 1, .pull, .pass 0].map (fickle (some 10), ·) ++
    [.work 0, .pass 1, .drop, .pull, .pass 0].map (fickle (some 20), ·)

-- The stage has taken an item when the consumer leaves.
def fickleLeft : PipelineState Nat := ⟨3, [⟨.waiting, 0, []⟩, ⟨.holding 7, 0, []⟩], .dropped, [10, 20]⟩

-- It panics on that one, and the source has nobody to give the next to.
def fickleEnd : List (Pipeline Nat × PipelineAction) := [.work 0, .pull, .put 0].map (fickle none, ·)

theorem fickle_left_behind :
    FreeRuns [0, 0] (start (fickle none) (.wanting 2)) (fickleSteps.map Prod.snd) fickleLeft ∧
      (∃ action t, fickleLeft.step? (fickle none) action = some t) ∧
      (∃ bound, ∀ later t, FreeRuns [0, 0] fickleLeft later t → later.length ≤ bound) ∧
      ∃ t, FreeRuns [0, 0] fickleLeft (fickleEnd.map Prod.snd) t ∧ ∀ l ∈ t.links, l.phase = .gone := by
  have run : FreeRuns [0, 0] (start (fickle none) (.wanting 2)) (fickleSteps.map Prod.snd) fickleLeft :=
    free_runs_of_replay (by simp [fickleSteps, fickle, Pipeline.capacities]) rfl
  obtain ⟨goes_on, ends⟩ := no_thread_left_behind (p := fickle none) run
  obtain ⟨bound, within⟩ := ends rfl
  refine ⟨run, goes_on (fickle none) rfl ⟨_, List.mem_cons_self, nofun⟩, ⟨bound, ?_⟩, ?_⟩
  · exact fun later t more => (within later t more).1
  · have final : FreeRuns [0, 0] fickleLeft (fickleEnd.map Prod.snd) _ :=
      free_runs_of_replay (by simp [fickleEnd, fickle, Pipeline.capacities]) rfl
    exact ⟨_, final, by decide⟩

end PipelineState
end GuardedWork
