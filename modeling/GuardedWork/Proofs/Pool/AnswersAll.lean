import GuardedWork.Proofs.Pool.Fates

namespace GuardedWork

variable {α ρ : Type}

theorem Source.ofList_supplies {payloads : List α} {job : Job α} (supplied : (Source.ofList payloads).Supplies job) :
    ∃ k, job.id = k + 1 ∧ payloads[k]? = some job.payload := by
  obtain ⟨k, id, pulled⟩ := supplied
  refine ⟨k, id, ?_⟩
  unfold Source.ofList at pulled
  split at pulled
  · next found => cases pulled; exact found
  · cases pulled

namespace PoolState

variable {plan : PoolPlan α ρ} {s : PoolState α ρ} {payloads : List α}

-- Nothing panics and nobody looks at the token, so each payload is answered by its transform.
structure AnswersAll (plan : PoolPlan α ρ) (payloads : List α) : Prop where
  source : plan.source = .ofList payloads
  unwatched : plan.dispatcherWatches = false ∧ plan.workersWatch = false
  endings : ∀ a ∈ payloads, (plan.transform a).ending ≠ .panic

theorem answersAll_workers (answers : AnswersAll plan payloads) (numbered : Numbered plan s) :
    ∀ w ∈ s.workers, w.hasPanicked = false := by
  refine numbered_unpanicked numbered ?_
  intro job supplied
  rw [answers.source] at supplied
  obtain ⟨k, _, found⟩ := Source.ofList_supplies supplied
  exact answers.endings job.payload (List.mem_of_getElem? found)

theorem answersAll_gives (answers : AnswersAll plan payloads) : plan.source.Gives payloads := by
  rw [answers.source]
  exact Source.list_gives payloads

theorem answersAll_unstopped (answers : AnswersAll plan payloads) : (plan.dispatcherWatches && s.cancelled) = false := by
  rw [answers.unwatched.1, Bool.false_and]

theorem answersAll_dispatched {count : Nat} (answers : AnswersAll plan payloads) (numbered : Numbered plan s)
    (closed : s.dispatcher = .closed (.done count)) : count = payloads.length ∧ s.dispatched = payloads.length := by
  obtain ⟨whole, ⟨same, _⟩ | ⟨same, _⟩⟩ := closed_whole (answersAll_gives answers) (answersAll_unstopped answers) numbered closed (by simp)
  · exact ⟨DispatchEnd.done.inj same, whole⟩
  · cases same

-- Nobody is lost and the source does not panic, so the dispatcher has put every payload.
theorem answersAll_done (answers : AnswersAll plan payloads) (handles : Handles s) (exits : Exits s) (numbered : Numbered plan s)
    (staffed : s.workers ≠ []) (finished : s.consumer = .finished) {ending : DispatchEnd}
    (closed : s.dispatcher = .closed ending) : ∃ count, ending = .done count := by
  obtain ⟨w, member⟩ := List.exists_mem_of_ne_nil _ staffed
  have heard : ending ≠ .refused := by
    rintro rfl
    exact finished_unrefused handles exits finished member (answersAll_workers answers numbered w member) closed
  obtain ⟨_, ⟨same, _⟩ | ⟨_, broken⟩⟩ := closed_whole (answersAll_gives answers) (answersAll_unstopped answers) numbered closed heard
  · exact ⟨_, same⟩
  · simp [answers.source, Source.ofList] at broken

theorem answersAll_taken (answers : AnswersAll plan payloads) (handles : Handles s) (exits : Exits s) (numbered : Numbered plan s)
    (staffed : s.workers ≠ []) (finished : s.consumer = .finished) (whole : s.dispatched = payloads.length) :
    (s.taken.map Entry.ofResult).Perm (Entry.ofPayloads plan.transform payloads) := by
  obtain ⟨w, member⟩ := List.exists_mem_of_ne_nil _ staffed
  have exited := finished_exited handles exits finished member (answersAll_workers answers numbered w member)
  have drained := (exits.drained w member exited).1
  have taken := finished_taken (answersAll_gives answers) answers.unwatched.2 handles exits numbered finished drained whole
  have answered : (Entry.ofPayloads plan.transform payloads).filter (fun e => e.2.isSome) =
      Entry.ofPayloads plan.transform payloads := by
    rw [List.filter_eq_self]
    intro e inside
    obtain ⟨⟨a, id⟩, listed, rfl⟩ := List.mem_map.mp inside
    have supplied := answers.endings a (List.fst_mem_of_mem_zipIdx listed)
    cases ending : (plan.transform a).ending <;> simp_all [Ending.outcome?]
  rwa [answered] at taken

end PoolState

end GuardedWork
