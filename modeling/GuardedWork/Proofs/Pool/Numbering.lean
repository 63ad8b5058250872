import GuardedWork.Proofs.Pool.Parcels

namespace GuardedWork

variable {α ρ : Type} {plan : PoolPlan α ρ} {cancelled later : Bool}

-- Where a dispatcher may end, behind the number of jobs accepted.
def Source.EndsAt (source : Source α) (watched cancelled : Bool) (dispatched : Nat) : DispatchEnd → Prop
  | .done n => n = dispatched ∧ ((source n).pulled = .ended ∨ watched = true ∧ cancelled = true)
  | .refused => True
  | .panicked => (source dispatched).pulled = .panicked

theorem Source.EndsAt.mono {source : Source α} {watched : Bool} {n : Nat} {ending : DispatchEnd}
    (grows : cancelled = true → later = true) (ends : source.EndsAt watched cancelled n ending) :
    source.EndsAt watched later n ending := by
  cases ending with
  | done m =>
    obtain ⟨count, ended | ⟨seen, set⟩⟩ := ends
    · exact ⟨count, .inl ended⟩
    · exact ⟨count, .inr ⟨seen, grows set⟩⟩
  | refused | panicked => exact ends

theorem Parcel.Sound.mono {p : Parcel α ρ} (grows : cancelled = true → later = true) (sound : p.Sound plan cancelled) :
    p.Sound plan later := by
  cases p with
  | job j | lost j => exact sound
  | result r =>
    obtain ⟨j, supplied, same, ended | ⟨watched, set, outcome⟩⟩ := sound
    · exact ⟨j, supplied, same, .inl ended⟩
    · exact ⟨j, supplied, same, .inr ⟨watched, grows set, outcome⟩⟩

namespace PoolState

variable {s t : PoolState α ρ} {action : PoolAction} {i : Nat} {w : Worker α ρ}

def Dispatching (plan : PoolPlan α ρ) (s : PoolState α ρ) : Prop :=
  match s.dispatcher with
  | .asking => s.pulled = s.dispatched
  | .holding a | .offering a => s.pulled = s.dispatched + 1 ∧ (plan.source s.dispatched).pulled = .item a
  | .closing ending | .closed ending => plan.source.EndsAt plan.dispatcherWatches s.cancelled s.dispatched ending

structure Numbered (plan : PoolPlan α ρ) (s : PoolState α ρ) : Prop where
  dispatching : Dispatching plan s
  supplied : ∀ k < s.dispatched, ∃ a, (plan.source k).pulled = .item a
  ids : s.parcels.map Parcel.id = ↑(List.range' 1 s.dispatched)
  sound : ∀ p ∈ s.parcels, p.Sound plan s.cancelled

theorem move_cancelled (move : Move plan s action t) (cancelled : s.cancelled = true) : t.cancelled = true := by
  cases move with
  | dispatcher move => cases move <;> simp [setWorker, cancelled]
  | worker found move => cases move <;> simp [letGo, answer, setWorker, cancelled]
  | cancel => rfl
  | _ => exact cancelled

theorem dispatching_of_beside (dispatcher : t.dispatcher = s.dispatcher) (pulled : t.pulled = s.pulled)
    (dispatched : t.dispatched = s.dispatched) (grows : s.cancelled = true → t.cancelled = true)
    (here : Dispatching plan s) : Dispatching plan t := by
  unfold Dispatching at here ⊢
  rw [dispatcher, pulled, dispatched]
  split at here
  · exact here
  · exact here
  · exact here
  · exact here.mono grows
  · exact here.mono grows

theorem dispatcher_dispatching (here : Dispatching plan s) (move : DispatcherMove plan s action t) :
    Dispatching plan t := by
  cases move with
  | pullItem asks pulled =>
    simp only [Dispatching, asks] at here ⊢
    exact ⟨by rw [here], by rw [← here, pulled]⟩
  | pullEnd asks pulled =>
    simp only [Dispatching, asks] at here ⊢
    exact ⟨rfl, .inl (by rw [← here, pulled])⟩
  | pullPanic asks pulled =>
    simp only [Dispatching, asks] at here ⊢
    exact here ▸ pulled
  | stop holds watched cancelled => exact ⟨rfl, .inr ⟨watched, cancelled⟩⟩
  | offer holds => simpa only [Dispatching, holds] using here
  | enqueue offers | pass offers =>
    simp only [Dispatching, offers] at here ⊢
    exact here.1
  | refused => exact True.intro
  | close closes => simpa only [Dispatching, closes] using here

theorem move_dispatching (here : Dispatching plan s) (move : Move plan s action t) : Dispatching plan t := by
  have grows := move_cancelled move
  cases move with
  | dispatcher move => exact dispatcher_dispatching here move
  | worker found move =>
    have same := worker_beside move
    exact dispatching_of_beside same.dispatcher same.pulled same.dispatched grows here
  | _ => exact dispatching_of_beside (s := s) rfl rfl rfl grows here

-- A job that turns into something else keeps its number.
theorem ids_replace {p q : Parcel α ρ} {rest : Multiset (Parcel α ρ)} {ids : Multiset Nat} (same : q.id = p.id)
    (before : s.parcels = p ::ₘ rest) (after : t.parcels = q ::ₘ rest) (known : s.parcels.map Parcel.id = ids) :
    t.parcels.map Parcel.id = ids := by
  rw [after, Multiset.map_cons, same, ← Multiset.map_cons, ← before, known]

theorem sound_replace {p q : Parcel α ρ} {rest : Multiset (Parcel α ρ)} (before : s.parcels = p ::ₘ rest)
    (after : t.parcels = q ::ₘ rest) (turned : q.Sound plan t.cancelled)
    (known : ∀ p ∈ s.parcels, p.Sound plan t.cancelled) : ∀ p ∈ t.parcels, p.Sound plan t.cancelled := by
  intro x inside
  rw [after] at inside
  rcases Multiset.mem_cons.mp inside with rfl | old
  · exact turned
  · exact known x (by rw [before]; exact Multiset.mem_cons_of_mem old)

theorem move_numbered (numbered : Numbered plan s) (move : Move plan s action t) : Numbered plan t := by
  have dispatching := move_dispatching numbered.dispatching move
  have known : ∀ p ∈ s.parcels, p.Sound plan t.cancelled :=
    fun p inside => (numbered.sound p inside).mono (move_cancelled move)
  cases move_shift move with
  | kept count same =>
    exact ⟨dispatching, count ▸ numbered.supplied, by rw [same, count, numbered.ids], same ▸ known⟩
  | answered job worker outcome rest count before after turn =>
    have supplied : plan.source.Supplies job := known (.job job) (by simp [before])
    refine ⟨dispatching, count ▸ numbered.supplied, ?_, ?_⟩
    · exact ids_replace (p := .job job) (q := .result _) rfl before after (count ▸ numbered.ids)
    · exact sound_replace before after ⟨job, supplied, rfl, turn.answers (move_cancelled move)⟩ known
  | lost job rest count before after panics =>
    have supplied : plan.source.Supplies job := known (.job job) (by simp [before])
    refine ⟨dispatching, count ▸ numbered.supplied, ?_, ?_⟩
    · exact ids_replace (p := .job job) (q := .lost job) rfl before after (count ▸ numbered.ids)
    · exact sound_replace before after ⟨supplied, panics⟩ known
  | @accepted a offers count after =>
    have here := numbered.dispatching
    simp only [Dispatching, offers] at here
    refine ⟨dispatching, ?_, ?_, ?_⟩
    · intro k below
      rw [count] at below
      rcases Nat.lt_succ_iff_lt_or_eq.mp below with old | rfl
      · exact numbered.supplied k old
      · exact ⟨a, here.2⟩
    · rw [after, count, Multiset.map_cons, numbered.ids, List.range'_1_concat, Nat.add_comm s.dispatched]
      exact Multiset.coe_eq_coe.mpr (List.perm_append_singleton _ _).symm
    · intro p inside
      rw [after] at inside
      rcases Multiset.mem_cons.mp inside with rfl | old
      · exact ⟨s.dispatched, rfl, here.2⟩
      · exact known p old

-- Each job that was accepted is in one place.
theorem parcels_count (numbered : Numbered plan s) : s.dispatched =
    (carried s.workers).card + s.jobs.items.length + s.results.items.length + s.taken.length := by
  have ids := congrArg Multiset.card numbered.ids
  rw [Multiset.card_map, Multiset.coe_card, List.length_range'] at ids
  simpa [parcels, Parcel.ofJobs, Parcel.ofResults] using ids.symm

end PoolState
end GuardedWork
