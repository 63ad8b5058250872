import GuardedWork.Proofs.Pipeline.Progress

namespace GuardedWork

variable {α : Type}

namespace Pipeline

-- The pipeline of a list whose iterator may panic in some place.
def ofList (items : List α) (panicsAt : Option Nat) (capacity : Nat) (stages : List (Stage α)) : Pipeline α :=
  ⟨(Source.ofList items).panickingAt panicsAt, capacity, stages⟩

-- The source panics in this place, or a stage does on what reaches it of the item there.
def FailsAt (p : Pipeline α) (i : Nat) : Prop :=
  match (p.source i).pulled with
  | .item a => through p.stages a = none
  | .panicked => True
  | .ended => False

variable {p : Pipeline α} {supply items : List α} {panicsAt : Option Nat} {capacity i : Nat} {stages : List (Stage α)}

theorem fails_item {a : α} (gives : p.source.Gives supply) (item : supply[i]? = some a) :
    p.FailsAt i ↔ through p.stages a = none := by
  have inside := (List.getElem?_eq_some_iff.mp item).1
  have pulled := (gives i (Nat.le_of_lt inside) a).mpr item
  simp [FailsAt, pulled]

theorem unfailing_before (gives : p.source.Gives supply) (before : i < (mapped (through p.stages) supply).length) :
    ¬ p.FailsAt i := by
  have inside : i < supply.length := Nat.lt_of_lt_of_le before (mapped_within _ _)
  have values := congrArg (·[i]?) (mapped_values (through p.stages) supply)
  simp only [List.getElem?_map, List.getElem?_take_of_lt before, List.getElem?_eq_getElem inside,
    List.getElem?_eq_getElem before, Option.map_some, Option.some.injEq] at values
  rw [fails_item gives (List.getElem?_eq_getElem inside), values]
  simp

theorem ofList_fails (inside : (mapped (through stages) (beforePanic panicsAt items)).length < items.length) :
    (ofList items panicsAt capacity stages).FailsAt (mapped (through stages) (beforePanic panicsAt items)).length := by
  have gives : (ofList items panicsAt capacity stages).source.Gives (beforePanic panicsAt items) :=
    Source.ofList_gives items panicsAt
  rcases Nat.lt_or_eq_of_le (mapped_within (through stages) (beforePanic panicsAt items)) with short | all
  · have item := List.getElem?_eq_getElem short
    exact (fails_item gives item).mpr (mapped_stops item)
  · -- No stage panics, so that it is the iterator which keeps the rest back.
    rw [all] at inside ⊢
    cases panicsAt with
    | none => exact absurd inside (Nat.lt_irrefl _)
    | some n =>
      have here : (beforePanic (some n) items).length = n := by
        simp only [beforePanic, Option.elim_some, List.length_take] at inside ⊢
        omega
      simp [FailsAt, ofList, Source.panickingAt, here]

end Pipeline

namespace PipelineState

variable {p : Pipeline α} {supply : List α} {first : PipelineConsumer} {s t : PipelineState α}
  {action : PipelineAction} {fuel : Nat}

-- The first place that fails and what comes out before it are fixed ahead of every schedule. A consumer
-- that is there is never stuck, and a run is bounded, so that in the end it has what it came for.
theorem every_schedule_maps (items : List α) (panicsAt : Option Nat) (capacity : Nat) (stages : List (Stage α)) :
    ∃ k outs, k ≤ items.length ∧
      (∀ i < k, ¬ (Pipeline.ofList items panicsAt capacity stages).FailsAt i) ∧
      (k < items.length → (Pipeline.ofList items panicsAt capacity stages).FailsAt k) ∧
      (items.take k).map (Pipeline.through stages) = outs.map some ∧
      ∀ first path s, first.isThere = true →
        Runs (Pipeline.ofList items panicsAt capacity stages)
          (start (Pipeline.ofList items panicsAt capacity stages) first) path s →
        s.taken <+: outs ∧
          (s.consumer = .finished → s.taken = outs) ∧
          (∀ n, first = .wanting n → s.consumer.isThere = false → s.taken = outs.take n) ∧
          (s.consumer.isThere = true →
            ∃ action t, s.step? (Pipeline.ofList items panicsAt capacity stages) action = some t) ∧
          path.length ≤ stepBound items.length stages.length := by
  have gives : (Pipeline.ofList items panicsAt capacity stages).source.Gives (beforePanic panicsAt items) :=
    Source.ofList_gives items panicsAt
  have within := mapped_within (Pipeline.through stages) (beforePanic panicsAt items)
  refine ⟨(mapped (Pipeline.through stages) (beforePanic panicsAt items)).length,
    mapped (Pipeline.through stages) (beforePanic panicsAt items), ?_, fun i => Pipeline.unfailing_before gives,
    Pipeline.ofList_fails, ?_, ?_⟩
  · exact Nat.le_trans within (beforePanic_within panicsAt items)
  · rw [← beforePanic_take within, mapped_values]
  intro first path s there run
  have flows := runs_flows gives there run
  refine ⟨flows_taken flows, ?_, ?_, ?_, ?_⟩
  · intro finished
    have reached := flows.reached
    rw [finished] at reached
    exact reached.1
  · intro n wanted left
    exact (PipelineConsumer.reached_left flows.reached left).2 n wanted
  · intro present
    obtain ⟨action, t, move⟩ := present_can_move flows.wired present
    exact ⟨action, t, move_complete move⟩
  · have lower := runs_lower gives run (start_wired _ _) (Nat.zero_le _)
    have bound := start_workLeft (Pipeline.ofList items panicsAt capacity stages) first
      (beforePanic_within panicsAt items)
    exact Nat.le_trans (Nat.le_of_add_right_le lower) bound

-- The source panics behind the third item, and each stage before: the first on the third item, the
-- second on what comes to it of the second.
def faulty : Pipeline Nat :=
  .ofList [1, 2, 3, 4] (some 3) 0
    [⟨0, fun x => if x = 3 then none else some (x * x)⟩, ⟨1, fun x => if x = 4 then none else some (x + 10)⟩]

def faultyPath : List PipelineAction :=
  [.pull, .pass 0, .pull, .work 0, .pass 1, .pass 0, .work 1, .pull, .put 2, .work 0, .pass 1, .pass 0, .work 0,
    .work 1, .consume, .pull, .seeClose]

theorem faulty_schedule_maps : ∃ k s, Runs faulty (start faulty (.wanting 3)) faultyPath s ∧
    k ≤ 4 ∧ (k < 4 → faulty.FailsAt k) ∧ s.consumer = .finished ∧ s.taken = [11] ∧
    ([1, 2, 3, 4].take k).map (Pipeline.through faulty.stages) = s.taken.map some := by
  have run : Runs faulty (start faulty (.wanting 3)) faultyPath _ := runs_of_replay rfl
  obtain ⟨k, outs, within, _, fails, values, every⟩ := every_schedule_maps [1, 2, 3, 4] (some 3) 0 faulty.stages
  have all := every (.wanting 3) faultyPath _ rfl run
  refine ⟨k, _, run, within, fails, rfl, rfl, ?_⟩
  rw [values, all.2.1 rfl]

theorem stage_listed {n i : Nat} (inside : i < n) :
    .accept i ∈ downstreamFirst n ∧ .close i ∈ downstreamFirst n ∧ .work i ∈ downstreamFirst n := by
  simp [downstreamFirst, inside]

theorem thread_listed {n i : Nat} (inside : i < n + 1) : .put i ∈ downstreamFirst n ∧ .pass i ∈ downstreamFirst n := by
  cases i with
  | zero => simp [downstreamFirst]
  | succ i => simp [downstreamFirst, Nat.lt_of_succ_lt_succ inside]

-- The order of the run that is carried out leaves nobody out.
theorem move_listed (wired : Wired p s.links) (move : Move p s action t) :
    action ∈ downstreamFirst p.stages.length := by
  have within : ∀ {i : Nat} {l : Link α}, s.links[i]? = some l → i < p.stages.length + 1 := by
    intro i l found
    rw [← wired.size]
    exact (List.getElem?_eq_some_iff.mp found).1
  cases move with
  | accept found reader => exact (stage_listed (Nat.lt_of_succ_lt_succ (within reader))).1
  | close found reader => exact (stage_listed (Nat.lt_of_succ_lt_succ (within reader))).2.1
  | work found | panic found => exact (stage_listed (Nat.lt_of_succ_lt_succ (within found))).2.2
  | put found | refused found => exact (thread_listed (within found)).1
  | pass found | hand found => exact (thread_listed (within found)).2
  | pullItem | pullEnd | consume | seeClose | drop => simp [downstreamFirst]

theorem next_found (wired : Wired p s.links) (can : CanMove p s) :
    ∃ t, s.next? p (downstreamFirst p.stages.length) = some t := by
  obtain ⟨action, t, move⟩ := can
  rw [← Option.isSome_iff_exists, next?, List.findSome?_isSome_iff]
  exact ⟨action, move_listed wired move, by rw [move_complete move]; rfl⟩

theorem run_leaves (gives : p.source.Gives supply) (wired : Wired p s.links) (within : s.pulled ≤ supply.length)
    (enough : s.workLeft supply.length ≤ fuel) :
    (s.run p (downstreamFirst p.stages.length) fuel).consumer.isThere = false := by
  induction fuel generalizing s with
  | zero =>
    rw [run]
    by_contra there
    rw [Bool.not_eq_false] at there
    simp [workLeft, there] at enough
  | succ fuel ih =>
    rw [run]
    split
    · next there =>
      obtain ⟨t, found⟩ := next_found wired (present_can_move wired there)
      obtain ⟨action, _, stepped⟩ := List.exists_of_findSome?_eq_some found
      have move := move_sound stepped
      have lower := move_lowers gives wired within move
      rw [found]
      exact ih (move_wired wired move) (move_within gives within move) (by omega)
    · next left => exact Bool.eq_false_iff.mpr left

theorem outputs_mapped (gives : p.source.Gives supply) {items : Nat} (within : supply.length ≤ items) :
    (p.outputs items).consumer = .finished ∧ (p.outputs items).taken = mapped (Pipeline.through p.stages) supply := by
  have left : (p.outputs items).consumer.isThere = false :=
    run_leaves gives (start_wired p _) (Nat.zero_le _) (start_workLeft p _ within)
  obtain ⟨path, run⟩ := run_reached p (downstreamFirst p.stages.length) (stepBound items p.stages.length)
    (start p .draining)
  exact PipelineConsumer.reached_drained (runs_flows gives rfl run).reached left

-- Square, then add ten.
example : ((Pipeline.ofList [1, 2, 3, 4, 5] none 0
    [⟨0, fun n => some (n * n)⟩, ⟨0, fun n => some (n + 10)⟩]).outputs 5).taken = [11, 14, 19, 26, 35] := by decide

end PipelineState
end GuardedWork
