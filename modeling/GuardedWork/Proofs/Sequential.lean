import GuardedWork.Proofs.Summary
import Mathlib.Data.List.Perm.Basic

namespace GuardedWork

variable {α β ρ : Type}

-- What comes of a job, under its number; none if its transform panics.
abbrev Entry (ρ : Type) := Nat × Option (Outcome ρ)

namespace Entry

variable {transform : Transform α ρ} {payloads : List α} {results : List (JobResult ρ)}

def ofResult (r : JobResult ρ) : Entry ρ := (r.jobId, some r.outcome)

-- As the payloads are numbered.
def ofPayloads (transform : Transform α ρ) (payloads : List α) : List (Entry ρ) :=
  (payloads.zipIdx 1).map fun (a, id) => (id, (transform a).ending.outcome?)

def value? (e : Entry ρ) : Option ρ := e.2.bind Outcome.value?
def failure? (e : Entry ρ) : Option (Nat × Failure) := (e.2.bind Outcome.failure?).map (e.1, ·)

theorem ofPayloads_range (transform : Transform α ρ) (payloads : List α) :
    ofPayloads transform payloads = (List.range' 1 payloads.length).map fun id =>
      (id, payloads[id - 1]?.bind fun a => (transform a).ending.outcome?) := by
  refine List.ext_getElem (by simp [ofPayloads]) ?_
  intro k left right
  have inside : k < payloads.length := by simpa [ofPayloads] using left
  simp [ofPayloads, inside, Nat.add_comm 1 k]

theorem values_ofPayloads (transform : Transform α ρ) (payloads : List α) :
    (ofPayloads transform payloads).filterMap value? = payloads.filterMap fun a => (transform a).ending.value? := by
  have unnumbered := congrArg (List.filterMap fun a => (transform a).ending.value?) (List.zipIdx_map_fst 1 payloads)
  rw [List.filterMap_map] at unnumbered
  rw [ofPayloads, List.filterMap_map]
  exact unnumbered

theorem failures_ofPayloads (transform : Transform α ρ) (payloads : List α) :
    (ofPayloads transform payloads).filterMap failure? =
      (payloads.zipIdx 1).filterMap fun (a, id) => (transform a).ending.failure?.map (id, ·) := by
  rw [ofPayloads, List.filterMap_map]
  rfl

theorem values_ofResults (results : List (JobResult ρ)) :
    (results.map ofResult).filterMap value? = Summary.valuesOf results := by
  rw [List.filterMap_map]
  rfl

theorem failures_ofResults (results : List (JobResult ρ)) :
    (results.map ofResult).filterMap failure? = Summary.failuresOf results := by
  rw [List.filterMap_map]
  rfl

theorem uncancelled (same : (results.map ofResult).Perm (ofPayloads transform payloads)) :
    Summary.countOf .cancelled results = 0 := by
  refine List.countP_eq_zero.mpr ?_
  intro r member
  have inside : ofResult r ∈ ofPayloads transform payloads := same.mem_iff.mp (List.mem_map_of_mem member)
  obtain ⟨⟨a, id⟩, _, entry⟩ := List.mem_map.mp inside
  have kind := Ending.uncancelled (congrArg Prod.snd entry)
  simpa using kind

end Entry

namespace Summary

variable {transform : Transform α ρ} {f : β → ρ → β} {init : β} {payloads : List α} {results : List (JobResult ρ)}
  {s t : Summary β}

-- As one worker leaves it that takes the payloads in their order.
structure Sequential (transform : Transform α ρ) (f : β → ρ → β) (init : β) (payloads : List α) (s : Summary β) :
    Prop where
  value : s.value = (payloads.filterMap fun a => (transform a).ending.value?).foldl f init
  completed : s.completed = payloads.countP fun a => (transform a).ending.value?.isSome
  cancelled : s.cancelled = 0
  failures : s.failures.Perm ((payloads.zipIdx 1).filterMap fun (a, id) => (transform a).ending.failure?.map (id, ·))
  counts : s.completed + s.cancelled + s.failed = payloads.length
  total : payloads.length < UInt64.size → s.total? = some payloads.length

def Agrees (s t : Summary β) : Prop :=
  s.value = t.value ∧ s.completed = t.completed ∧ s.cancelled = t.cancelled ∧ s.failed = t.failed

theorem Sequential.agree (one : Sequential transform f init payloads s) (two : Sequential transform f init payloads t) :
    s.Agrees t :=
  ⟨one.value.trans two.value.symm, one.completed.trans two.completed.symm, one.cancelled.trans two.cancelled.symm,
    (one.failures.trans two.failures.symm).length_eq⟩

theorem sequential_of_perm (commutes : ∀ a x y, f (f a x) y = f (f a y) x)
    (same : (results.map Entry.ofResult).Perm (Entry.ofPayloads transform payloads)) :
    Sequential transform f init payloads (ofResults f init results) := by
  have values : (valuesOf results).Perm (payloads.filterMap fun a => (transform a).ending.value?) := by
    rw [← Entry.values_ofResults, ← Entry.values_ofPayloads]
    exact same.filterMap _
  have length : results.length = payloads.length := by simpa [Entry.ofPayloads] using same.length_eq
  have counts := (ofResults_counts f init results).trans length
  refine ⟨?_, ?_, ?_, ?_, counts, ?_⟩
  · rw [ofResults_eq]
    exact values.foldl_eq' (fun x _ y _ a => commutes a x y) init
  · rw [ofResults_eq, ← List.length_filterMap_eq_countP]
    exact values.length_eq
  · rw [ofResults_eq]
    exact Entry.uncancelled same
  · rw [ofResults_eq, ← Entry.failures_ofPayloads]
    exact Entry.failures_ofResults results ▸ same.filterMap _
  · intro fits
    rw [total?, counts]
    exact if_pos fits

-- The summary of the answers in the order of the payloads, for a fold that may care for it.
def ofPayloads (transform : Transform α ρ) (f : β → ρ → β) (init : β) (payloads : List α) : Summary β where
  value := (payloads.filterMap fun a => (transform a).ending.value?).foldl f init
  completed := payloads.countP fun a => (transform a).ending.value?.isSome
  cancelled := 0
  failures := (payloads.zipIdx 1).filterMap fun (a, id) => (transform a).ending.failure?.map (id, ·)

theorem ofResults_payloads (f : β → ρ → β) (init : β)
    (same : results.map Entry.ofResult = Entry.ofPayloads transform payloads) :
    ofResults f init results = ofPayloads transform f init payloads := by
  have values : valuesOf results = payloads.filterMap fun a => (transform a).ending.value? := by
    rw [← Entry.values_ofResults, same, Entry.values_ofPayloads]
  have failures : failuresOf results =
      (payloads.zipIdx 1).filterMap fun (a, id) => (transform a).ending.failure?.map (id, ·) := by
    rw [← Entry.failures_ofResults, same, Entry.failures_ofPayloads]
  have uncancelled : countOf .cancelled results = 0 := Entry.uncancelled (List.Perm.of_eq same)
  rw [ofResults_eq, ofPayloads, values, failures, uncancelled, List.length_filterMap_eq_countP]

theorem failed_ids (results : List (JobResult ρ)) :
    ((failuresOf results).map Prod.fst).Sublist (results.map JobResult.jobId) := by
  induction results with
  | nil => exact List.Sublist.refl _
  | cons r rest ih =>
    rw [List.map_cons, failuresOf, List.filterMap_cons]
    cases r.outcome.failure? with
    | none => exact ih.cons _
    | some e => exact ih.cons_cons _

end Summary

end GuardedWork
