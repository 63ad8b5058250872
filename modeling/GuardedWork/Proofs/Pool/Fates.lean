import GuardedWork.Proofs.Pool.Ledgers
import GuardedWork.Proofs.Sequential
import GuardedWork.Proofs.Supply

namespace GuardedWork

variable {α ρ : Type}

def Transformed.panics (t : Transformed ρ) : Bool := t.ending matches .panic

theorem Transformed.panics_iff (t : Transformed ρ) : t.panics = true ↔ t.ending.outcome? = none := by
  unfold panics
  cases t.ending <;> simp [Ending.outcome?]

-- The answer to a job as it is, or as its transform will give it; none if the job is lost.
def Parcel.fate (transform : Transform α ρ) : Parcel α ρ → Entry ρ
  | job j => (j.id, (transform j.payload).ending.outcome?)
  | result r => Entry.ofResult r
  | lost j => (j.id, none)

def Parcel.isLost : Parcel α ρ → Bool
  | lost _ => true
  | _ => false

theorem Parcel.fate_lost {transform : Transform α ρ} {p : Parcel α ρ} (lost : p.isLost = true) :
    (p.fate transform).2 = none := by
  cases p <;> first | rfl | cases lost

theorem Entry.countP_lost (transform : Transform α ρ) (payloads : List α) :
    (ofPayloads transform payloads).countP (fun e => e.2.isNone) = payloads.countP fun a => (transform a).panics := by
  have unnumbered := congrArg (List.countP fun a => (transform a).panics) (List.zipIdx_map_fst 1 payloads)
  rw [List.countP_map] at unnumbered
  rw [ofPayloads, List.countP_map, ← unnumbered]
  congr 1
  funext e
  rw [Bool.eq_iff_iff]
  simp [Transformed.panics_iff]

theorem Entry.answered_or_lost (transform : Transform α ρ) (payloads : List α) :
    ((ofPayloads transform payloads).filter fun e => e.2.isSome).length +
      payloads.countP (fun a => (transform a).panics) = payloads.length := by
  have parted := List.length_eq_length_filter_add (l := ofPayloads transform payloads) fun e => e.2.isSome
  have lost : ((ofPayloads transform payloads).filter fun e => !e.2.isSome).length =
      payloads.countP fun a => (transform a).panics := by
    rw [← countP_lost, List.countP_eq_length_filter]
    simp only [Option.not_isSome]
  rw [lost] at parted
  exact parted.symm.trans (by simp [ofPayloads])

namespace PoolState

variable {plan : PoolPlan α ρ} {s : PoolState α ρ} {supply : List α} {workers : List (Worker α ρ)}
  {ending : DispatchEnd}

theorem dispatched_within (gives : plan.source.Gives supply) (numbered : Numbered plan s) :
    s.dispatched ≤ supply.length := by
  by_contra beyond
  obtain ⟨a, pulled⟩ := numbered.supplied supply.length (by omega)
  have item := (gives supply.length (Nat.le_refl _) a).mp pulled
  simp at item

-- The dispatcher has put whatever there is, once the source has no payload for it.
theorem dispatched_whole (gives : plan.source.Gives supply) (numbered : Numbered plan s)
    (stops : ∀ a, (plan.source s.dispatched).pulled ≠ .item a) : s.dispatched = supply.length := by
  have within := dispatched_within gives numbered
  by_contra differ
  have before : s.dispatched < supply.length := by omega
  exact stops _ ((gives _ within _).mpr (List.getElem?_eq_getElem before))

-- Neither a close for want of workers nor a look at the token cuts the dispatcher short.
theorem closed_whole (gives : plan.source.Gives supply) (unstopped : (plan.dispatcherWatches && s.cancelled) = false)
    (numbered : Numbered plan s) (closed : s.dispatcher = .closed ending) (heard : ending ≠ .refused) :
    s.dispatched = supply.length ∧
      (ending = .done supply.length ∧ (plan.source supply.length).pulled = .ended ∨
        ending = .panicked ∧ (plan.source supply.length).pulled = .panicked) := by
  have ends := numbered.dispatching
  simp only [Dispatching, closed] at ends
  cases ending with
  | refused => exact absurd rfl heard
  | panicked =>
    have whole := dispatched_whole gives numbered fun a item => by cases ends.symm.trans item
    exact ⟨whole, .inr ⟨rfl, whole ▸ ends⟩⟩
  | done n =>
    obtain ⟨rfl, ended | ⟨watched, cancelled⟩⟩ := ends
    · have whole := dispatched_whole gives numbered fun a item => by cases ended.symm.trans item
      exact ⟨whole, .inl ⟨congrArg _ whole, whole ▸ ended⟩⟩
    · simp [watched, cancelled] at unstopped

theorem numbered_fates (gives : plan.source.Gives supply) (unwatched : plan.workersWatch = false)
    (numbered : Numbered plan s) :
    s.parcels.map (Parcel.fate plan.transform) = ↑(Entry.ofPayloads plan.transform (supply.take s.dispatched)) := by
  have within := dispatched_within gives numbered
  have byId : s.parcels.map (Parcel.fate plan.transform) = (s.parcels.map Parcel.id).map fun id =>
      (id, (supply.take s.dispatched)[id - 1]?.bind fun a => (plan.transform a).ending.outcome?) := by
    rw [Multiset.map_map]
    refine Multiset.map_congr rfl ?_
    intro p member
    have known : ∀ job, plan.source.Supplies job → job.id = p.id →
        (supply.take s.dispatched)[p.id - 1]? = some job.payload := by
      intro job supplied same
      obtain ⟨k, id, pulled⟩ := supplied
      have inside : p.id ∈ s.parcels.map Parcel.id := Multiset.mem_map_of_mem _ member
      rw [numbered.ids, Multiset.mem_coe, List.mem_range'_1] at inside
      have place : p.id - 1 = k := by omega
      rw [place, List.getElem?_take_of_lt (by omega)]
      exact (gives k (by omega) _).mp pulled
    have sound := numbered.sound p member
    cases p with
    | job j =>
      simp only [Function.comp_apply, known j sound rfl, Option.bind_some]
      rfl
    | lost j =>
      simp only [Function.comp_apply, known j sound.1 rfl, Option.bind_some, sound.2]
      rfl
    | result r =>
      obtain ⟨j, supplied, same, answers⟩ := sound
      have outcome : (plan.transform j.payload).ending.outcome? = some r.outcome := by
        simpa [PoolPlan.Answers, unwatched] using answers
      simp only [Function.comp_apply, known j supplied same.symm, Option.bind_some, outcome]
      rfl
  rw [byId, numbered.ids, Multiset.map_coe, Entry.ofPayloads_range, List.length_take, Nat.min_eq_left within]

theorem lost_carried (workers : List (Worker α ρ)) :
    (carried workers).countP (fun p => p.isLost = true) = workers.countP Worker.hasPanicked := by
  induction workers with
  | nil => rfl
  | cons w others ih =>
    have own : w.parcels.countP (fun p => p.isLost = true) = if w.hasPanicked = true then 1 else 0 := by
      obtain ⟨phase, handled⟩ := w
      cases phase <;> rfl
    simp only [carried] at ih
    simp only [carried, List.map_cons, List.sum_cons, Multiset.countP_add, ih, own, List.countP_cons, Nat.add_comm]

theorem panicked_within (gives : plan.source.Gives supply) (unwatched : plan.workersWatch = false)
    (numbered : Numbered plan s) :
    s.workers.countP Worker.hasPanicked ≤ supply.countP fun a => (plan.transform a).panics := by
  have part : carried s.workers ≤ s.parcels := by simp only [parcels, add_assoc, Multiset.le_add_right]
  calc s.workers.countP Worker.hasPanicked
      = (carried s.workers).countP (fun p => p.isLost = true) := (lost_carried s.workers).symm
    _ ≤ s.parcels.countP (fun p => p.isLost = true) := Multiset.countP_le_of_le _ part
    _ = (s.parcels.filter fun p => p.isLost = true).card := Multiset.countP_eq_card_filter ..
    _ ≤ (s.parcels.filter fun p => (p.fate plan.transform).2.isNone = true).card := by
        refine Multiset.card_le_card (Multiset.monotone_filter_right _ ?_)
        intro p lost
        simp [Parcel.fate_lost lost]
    _ = (s.parcels.map (Parcel.fate plan.transform)).countP (fun e => e.2.isNone = true) := by rw [Multiset.countP_map]
    _ = (supply.take s.dispatched).countP fun a => (plan.transform a).panics := by
        simp only [numbered_fates gives unwatched numbered, Multiset.coe_countP, Bool.decide_eq_true, Entry.countP_lost]
    _ ≤ supply.countP fun a => (plan.transform a).panics := (List.take_sublist ..).countP_le

theorem mem_carried {p : Parcel α ρ} : p ∈ carried workers ↔ ∃ w ∈ workers, p ∈ w.parcels := by
  induction workers with
  | nil => simp [carried]
  | cons w others ih =>
    simp only [carried] at ih
    simp [carried, ih]

theorem finished_carried (held : Handles s) (exits : Exits s) (finished : s.consumer = .finished) :
    ∀ p ∈ carried s.workers, p.isLost = true := by
  intro p inside
  obtain ⟨w, member, own⟩ := mem_carried.mp inside
  rcases finished_phases held exits finished member with exited | ⟨job, panicked⟩
  · simp [Worker.parcels, exited] at own
  · rw [Worker.parcels, panicked] at own
    cases Multiset.mem_singleton.mp own
    rfl

-- With the jobs and the results drained, what is answered is what does not panic.
theorem finished_taken (gives : plan.source.Gives supply) (unwatched : plan.workersWatch = false) (held : Handles s)
    (exits : Exits s) (numbered : Numbered plan s) (finished : s.consumer = .finished) (drained : s.jobs.items = [])
    (whole : s.dispatched = supply.length) :
    (s.taken.map Entry.ofResult).Perm ((Entry.ofPayloads plan.transform supply).filter fun e => e.2.isSome) := by
  have fates := numbered_fates gives unwatched numbered
  rw [parcels, drained, (exits.finished finished).1, whole, List.take_length] at fates
  have answered := congrArg (Multiset.filter fun e => e.2.isSome = true) fates
  have lost : ((carried s.workers).map (Parcel.fate plan.transform)).filter (fun e => e.2.isSome = true) = 0 := by
    rw [Multiset.filter_eq_nil]
    intro e inside
    obtain ⟨p, member, rfl⟩ := Multiset.mem_map.mp inside
    simp [Parcel.fate_lost (finished_carried held exits finished p member)]
  have taken : (Parcel.ofResults s.taken : Multiset (Parcel α ρ)).map (Parcel.fate plan.transform) =
      ↑(s.taken.map Entry.ofResult) := by
    rw [Parcel.ofResults, Multiset.map_coe, List.map_map]
    rfl
  have present : (s.taken.map Entry.ofResult).filter (fun e => e.2.isSome) = s.taken.map Entry.ofResult := by
    rw [List.filter_eq_self]
    intro e inside
    obtain ⟨r, _, rfl⟩ := List.mem_map.mp inside
    rfl
  have empty : (Parcel.ofJobs [] : Multiset (Parcel α ρ)) = 0 ∧ (Parcel.ofResults [] : Multiset (Parcel α ρ)) = 0 :=
    ⟨rfl, rfl⟩
  rw [empty.1, empty.2, add_zero, add_zero, Multiset.map_add, Multiset.filter_add, lost, zero_add, taken] at answered
  simp only [Multiset.filter_coe, Bool.decide_eq_true, present] at answered
  exact Multiset.coe_eq_coe.mp answered

end PoolState
end GuardedWork
