import GuardedWork.Summary
import GuardedWork.Transform

namespace GuardedWork

variable {β ρ : Type}

-- The outcome of a job whose transform came to an end; a panic has none.
def Ending.outcome? : Ending ρ → Option (Outcome ρ)
  | .value v => some (.completed v)
  | .failure f => some (.failed f)
  | .panic => none

def Ending.value? (e : Ending ρ) : Option ρ := e.outcome?.bind Outcome.value?
def Ending.failure? (e : Ending ρ) : Option Failure := e.outcome?.bind Outcome.failure?

-- No transform answers that its job is cancelled.
theorem Ending.uncancelled {e : Ending ρ} {outcome : Outcome ρ} (answers : e.outcome? = some outcome) :
    outcome.kind ≠ .cancelled := by
  cases e <;> cases answers <;> simp [Outcome.kind]

namespace Summary

def valuesOf (results : List (JobResult ρ)) : List ρ := results.filterMap fun r => r.outcome.value?

def failuresOf (results : List (JobResult ρ)) : List (Nat × Failure) :=
  results.filterMap fun r => r.outcome.failure?.map (r.jobId, ·)

def countOf (kind : OutcomeKind) (results : List (JobResult ρ)) : Nat := results.countP fun r => r.outcome.kind == kind

theorem foldl_add (f : β → ρ → β) (s : Summary β) (results : List (JobResult ρ)) :
    results.foldl (add f) s = {
      value := (valuesOf results).foldl f s.value
      completed := s.completed + (valuesOf results).length
      cancelled := s.cancelled + countOf .cancelled results
      failures := s.failures ++ failuresOf results } := by
  induction results generalizing s with
  | nil => simp [valuesOf, failuresOf, countOf]
  | cons r rest ih =>
    rw [List.foldl_cons, ih]
    cases outcome : r.outcome <;>
      simp [add, valuesOf, failuresOf, countOf, outcome, Outcome.value?, Outcome.failure?, Outcome.kind] <;> omega

theorem ofResults_eq (f : β → ρ → β) (init : β) (results : List (JobResult ρ)) :
    ofResults f init results =
      ⟨(valuesOf results).foldl f init, (valuesOf results).length, countOf .cancelled results, failuresOf results⟩ := by
  rw [ofResults, foldl_add]
  simp [start]

theorem ofResults?_total (f : β → ρ → β) (init : β) (results : List (JobResult ρ)) :
    ofResults? (fun a v => some (f a v)) init results = some (ofResults f init results) := by
  have adds : add? (fun a v => some (f a v)) = fun s r => some (add f s r) := by
    funext s r
    unfold add? add
    split <;> simp
  rw [ofResults?, adds]
  exact List.foldlM_pure

theorem ofResults_counts (f : β → ρ → β) (init : β) (results : List (JobResult ρ)) :
    (ofResults f init results).completed + (ofResults f init results).cancelled + (ofResults f init results).failed =
      results.length := by
  simp only [ofResults_eq, failed]
  induction results with
  | nil => rfl
  | cons r rest ih =>
    cases outcome : r.outcome <;>
      simp_all [valuesOf, failuresOf, countOf, Outcome.value?, Outcome.failure?, Outcome.kind] <;> omega

-- A fold that may panic, and did not, has counted as any other.
theorem foldlM_counts {f : β → ρ → Option β} {results : List (JobResult ρ)} {s t : Summary β}
    (folded : results.foldlM (add? f) s = some t) :
    t.completed = s.completed + countOf .completed results ∧ t.failed = s.failed + countOf .failed results ∧
      t.cancelled = s.cancelled + countOf .cancelled results := by
  induction results generalizing s with
  | nil => cases folded; exact ⟨rfl, rfl, rfl⟩
  | cons r rest ih =>
    obtain ⟨next, added, folded⟩ := Option.bind_eq_some_iff.mp folded
    obtain ⟨completed, failed, cancelled⟩ := ih folded
    rw [completed, failed, cancelled]
    simp only [countOf, List.countP_cons]
    cases outcome : r.outcome with
    | completed v =>
      simp only [add?, outcome] at added
      obtain ⟨value, _, rfl⟩ := Option.map_eq_some_iff.mp added
      simp [Outcome.kind, Summary.failed]
      omega
    | failed e =>
      simp only [add?, outcome, Option.some.injEq] at added
      subst added
      simp [Outcome.kind, Summary.failed]
      omega
    | cancelled =>
      simp only [add?, outcome, Option.some.injEq] at added
      subst added
      simp [Outcome.kind, Summary.failed]
      omega

theorem ofResults?_counts {f : β → ρ → Option β} {init : β} {results : List (JobResult ρ)} {s : Summary β}
    (folded : ofResults? f init results = some s) :
    s.completed = countOf .completed results ∧ s.failed = countOf .failed results ∧
      s.cancelled = countOf .cancelled results := by
  have counts := foldlM_counts folded
  simpa [start, failed] using counts

end Summary
end GuardedWork
