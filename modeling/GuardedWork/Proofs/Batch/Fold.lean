import GuardedWork.Proofs.Batch.Returns
import GuardedWork.Proofs.Pool.AnswersAll

namespace GuardedWork

variable {α β ρ : Type}

namespace Batch

variable {b : Batch} {transform : Transform α ρ} {payloads : List α} {f : β → ρ → β} {init : β} {cancelled : Bool}
  {s : BatchState α ρ} {path : List BatchAction} {result : Except WorkError (BatchOutput ρ)}

theorem returned_sequential (sized : b.workerCount ≠ 0)
    (answers : PoolState.AnswersAll (b.plan (.ofList payloads) transform) payloads) (commutes : ∀ a x y, f (f a x) y = f (f a y) x)
    (run : BatchState.Runs b (b.plan (.ofList payloads) transform) (b.opening cancelled) path s)
    (returned : s.caller = .returned result) :
    ∃ o, result = .ok o ∧ Summary.Sequential transform f init payloads (o.summary f init) := by
  have underway := opened_underway run
  have knows := underway.knows
  rw [returned] at knows
  have staffed : s.pool.workers ≠ [] := by
    rw [← List.length_pos_iff, underway.size]
    omega
  have done : s.pool.consumer = .finished → ∀ {ending}, s.pool.dispatcher = .closed ending → ∃ n, ending = .done n :=
    fun finished => PoolState.answersAll_done answers underway.handles underway.exits underway.numbered staffed finished
  cases result with
  | ok o =>
    obtain ⟨finished, closed, results, _⟩ := knows
    have whole := (PoolState.answersAll_dispatched answers underway.numbered closed).2
    refine ⟨o, rfl, Summary.sequential_of_perm commutes ?_⟩
    rw [results]
    exact PoolState.answersAll_taken answers underway.handles underway.exits underway.numbered staffed finished whole
  | error e =>
    obtain ⟨finished, ⟨closed, _⟩ | ⟨closed, _⟩⟩ := knows
    · obtain ⟨count, impossible⟩ := done finished closed
      cases impossible
    · obtain ⟨count, impossible⟩ := done finished closed
      cases impossible

theorem plan_answersAll (unwatched : b.watched = false) (endings : ∀ a ∈ payloads, (transform a).ending ≠ .panic) :
    PoolState.AnswersAll (b.plan (.ofList payloads) transform) payloads :=
  ⟨rfl, ⟨unwatched, unwatched⟩, endings⟩

-- Of any two runs as well, also of batches with other sizes.
theorem fold_is_sequential (init : β) (sized : b.workerCount ≠ 0) (roomy : b.queueCapacity ≠ 0)
    (unwatched : b.watched = false) (endings : ∀ a ∈ payloads, (transform a).ending ≠ .panic)
    (commutes : ∀ a x y, f (f a x) y = f (f a y) x)
    (run : BatchState.Runs b (b.plan (.ofList payloads) transform) (b.opening cancelled) path s) :
    ((∀ result, s.caller ≠ .returned result) → s.CanMove b (b.plan (.ofList payloads) transform)) ∧
      path.length ≤ 8 * payloads.length + 2 * b.workerCount + 7 ∧
      (∀ result, s.caller = .returned result → ∃ o, result = .ok o ∧
        Summary.ofResults? (fun a v => some (f a v)) init o.results = some (o.summary f init) ∧
        Summary.Sequential transform f init payloads (o.summary f init)) ∧
      ∀ (other : Batch) (before : Bool) (steps : List BatchAction) (t : BatchState α ρ) (o p : BatchOutput ρ),
        other.workerCount ≠ 0 → other.watched = false →
        BatchState.Runs other (other.plan (.ofList payloads) transform) (other.opening before) steps t →
        s.caller = .returned (.ok o) → t.caller = .returned (.ok p) → (o.summary f init).Agrees (p.summary f init) := by
  have answers := plan_answersAll unwatched endings
  refine ⟨?_, ?_, ?_, ?_⟩
  · exact BatchState.unreturned_can_move roomy (opened_underway run)
  · exact run_bounded (Source.ofList_stops payloads) run
  · intro result returned
    obtain ⟨o, rfl, sequential⟩ := returned_sequential sized answers commutes run returned
    exact ⟨o, rfl, Summary.ofResults?_total f init o.results, sequential⟩
  · intro other before steps t o p otherSized otherUnwatched otherRun one two
    obtain ⟨_, same, first⟩ := returned_sequential sized answers commutes run one
    obtain ⟨_, also, second⟩ := returned_sequential otherSized (plan_answersAll otherUnwatched endings) commutes otherRun two
    cases same
    cases also
    exact first.agree second

-- Two workers share three jobs, the second of which fails and is the first to be answered.
def sharing : Batch := ⟨"sharing", 2, 1, false⟩

def sharingPath : List BatchAction :=
  [.work .pull, .work .check, .work .enqueue, .work (.take 0), .work .pull, .work .check, .work .enqueue,
    .work (.take 1), .work (.start 1), .work (.finish 1), .work (.give 1), .work .consume, .work (.start 0), .work (.finish 0),
    .work (.give 0), .work .consume, .work .pull, .work .check, .work .enqueue, .work (.take 1), .work (.start 1),
    .work (.finish 1), .work (.give 1), .work .pull, .work .closeJobs, .work (.exit 0), .work (.exit 1), .work .join,
    .work .join, .work .release, .work .consume, .work .seeClose, .joinDispatcher, .awaitPool]

def squareBut (bad : Nat) : Transform Nat Nat :=
  fun x => ⟨if x = bad then .failure (.ofText "bad") else .value (x * x), false⟩

theorem sharing_fold_is_sequential : ∃ (s : BatchState Nat Nat) (o : BatchOutput Nat),
    BatchState.Runs sharing (sharing.plan (.ofList [3, 4, 5]) (squareBut 4)) (sharing.opening false) sharingPath s ∧
      s.caller = .returned (.ok o) ∧ o.results.map JobResult.jobId = [2, 1, 3] ∧
      Summary.Sequential (squareBut 4) (· + ·) 0 [3, 4, 5] (o.summary (· + ·) 0) := by
  have run : BatchState.Runs sharing (sharing.plan (.ofList [3, 4, 5]) (squareBut 4))
      (sharing.opening false : BatchState Nat Nat) sharingPath _ := BatchState.runs_of_replay rfl
  have all := fold_is_sequential (f := (· + ·)) 0 (by decide) (by decide) rfl (by decide) Nat.add_right_comm run
  obtain ⟨o, same, _, sequential⟩ := all.2.2.1 _ rfl
  cases same
  exact ⟨_, _, run, rfl, rfl, sequential⟩

end Batch
end GuardedWork
