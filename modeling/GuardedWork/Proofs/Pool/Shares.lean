import GuardedWork.Proofs.Pool.Ledgers
import GuardedWork.Proofs.Pool.Turns

namespace GuardedWork

variable {α ρ : Type}

def PoolAction.givesJobTo (i : Nat) : PoolAction → Bool
  | take k | passJob k => k == i
  | _ => false

-- The job that is in its hands, or was when it left.
def Worker.keeps (w : Worker α ρ) : List Nat :=
  match w.phase with
  | .waiting | .exited => []
  | .holding job | .running job | .panicked job => [job.id]
  | .offering r | .refused r => [r.jobId]

theorem Worker.ids_kept (w : Worker α ρ) : w.parcels.map Parcel.id = ↑w.keeps := by
  obtain ⟨phase, handled⟩ := w
  cases phase <;> rfl

namespace PoolState

variable {plan : PoolPlan α ρ} {s t : PoolState α ρ} {action : PoolAction} {path : List PoolAction} {i k size : Nat}
  {w : Worker α ρ} {a : Assignment α ρ} {first : PoolState α ρ}

def keptBy (i : Nat) (s : PoolState α ρ) : List Nat := s.workers[i]?.elim [] Worker.keeps

def putBy (i : Nat) (results : List (JobResult ρ)) : List Nat :=
  (results.filter fun r => r.worker == i).map JobResult.jobId

-- All jobs that a worker has taken, from the first on.
def share (i : Nat) (s : PoolState α ρ) : List Nat := putBy i (s.taken ++ s.results.items) ++ s.keptBy i

def handsTo (i : Nat) (s : PoolState α ρ) (action : PoolAction) : List Nat :=
  if action.givesJobTo i then [s.handedOut + 1] else []

theorem putBy_append (xs ys : List (JobResult ρ)) : putBy i (xs ++ ys) = putBy i xs ++ putBy i ys := by
  rw [putBy, List.filter_append, List.map_append, putBy, putBy]

theorem bufferless_handed (inOrder : InOrder s) (bufferless : s.jobs.capacity = 0) : s.dispatched = s.handedOut := by
  rw [handedOut, bufferless_empty inOrder bufferless, List.length_nil, Nat.sub_zero]

theorem other_jobs (other : action.worker? = some k) (differ : k ≠ i) : action.givesJobTo i = false := by
  cases action <;> cases other <;> simp [PoolAction.givesJobTo, differ]

theorem kept_found (found : s.workers[i]? = some w) : s.keptBy i = w.keeps := by rw [keptBy, found, Option.elim_some]

theorem kept_set (found : s.workers[i]? = some w) {v : Worker α ρ} (workers : t.workers = s.workers.set i v) :
    t.keptBy i = v.keeps :=
  kept_found (by rw [workers, List.getElem?_set_self (List.getElem?_eq_some_iff.mp found).1])

theorem move_kept (inOrder : InOrder s) (signed : Signed s) (move : Move plan s action t) (i : Nat) :
    putBy i (s.puts action) ++ t.keptBy i = s.keptBy i ++ handsTo i s action := by
  cases move with
  | dispatcher move =>
    cases move with
    | @pass a k n offers waits bufferless =>
      by_cases here : k = i
      · subst here
        rw [kept_found waits, kept_set waits rfl, bufferless_handed inOrder bufferless]
        simp [putBy, puts, handsTo, PoolAction.givesJobTo, Worker.keeps]
      · simp [putBy, puts, keptBy, handsTo, PoolAction.givesJobTo, setWorker, here]
    | _ => simp [putBy, puts, keptBy, handsTo, PoolAction.givesJobTo]
  | @worker _ _ k w found move =>
    by_cases here : k = i
    · subst here
      have before := kept_found found
      have signs : ∀ r ∈ w.offered, r.worker = k := by simpa [offeredBy, found] using signed k
      cases move with
      | take queued =>
        rw [before, kept_set found rfl]
        simp [putBy, puts, handsTo, PoolAction.givesJobTo, Worker.keeps, (queued_next inOrder queued).1]
      | give heard | pass =>
        have own := signs _ (List.mem_singleton_self _)
        rw [before, kept_set found rfl]
        simp_all [putBy, puts, handsTo, PoolAction.givesJobTo, Worker.keeps, Worker.offered]
      | refused unheard =>
        rw [before, kept_set found rfl]
        simp [putBy, puts, unheard, handsTo, PoolAction.givesJobTo, Worker.keeps]
      | _ =>
        rw [before, kept_set found rfl]
        simp [putBy, puts, handsTo, PoolAction.givesJobTo, Worker.keeps]
    · have other := worker_own move
      obtain ⟨_, v, workers, _⟩ := worker_turn move
      have unput : (s.puts action).filter (fun r => r.worker == i) = [] := by
        apply puts_other signed
        rw [other]
        simpa using here
      simp [putBy, unput, keptBy, workers, here, handsTo, other_jobs other here]
  | _ => simp [putBy, puts, keptBy, handsTo, PoolAction.givesJobTo]

theorem move_share (inOrder : InOrder s) (fit : ResultsFit s) (signed : Signed s) (move : Move plan s action t) (i : Nat) :
    t.share i = s.share i ++ handsTo i s action := by
  rw [share, move_puts fit move, putBy_append, List.append_assoc, move_kept inOrder signed move, ← List.append_assoc, share]

-- What the jobs and the results in their two queues have to be for this.
structure Lined (s : PoolState α ρ) : Prop where
  inOrder : InOrder s
  fit : ResultsFit s
  signed : Signed s

theorem move_lined (lined : Lined s) (move : Move plan s action t) : Lined t :=
  ⟨(move_takes lined.inOrder move).1, move_fit lined.fit move, move_signed lined.signed move⟩

theorem opening_lined (opened : a.opening? size = some s) : Lined s :=
  ⟨opening_in_order opened, by simp [ResultsFit, (opening_results opened).2.1], opening_signed opened⟩

theorem opening_share (opened : a.opening? size = some s) (i : Nat) : s.share i = [] := by
  obtain ⟨untaken, empty, _⟩ := opening_results opened
  rw [share, untaken, empty, keptBy, opening_workers opened, List.getElem?_replicate]
  split <;> rfl

theorem runs_share (lined : Lined s) (run : Runs plan s path t) (i : Nat) :
    t.share i = s.share i ++ noted plan (handsTo i) s path := by
  refine runs_note (R := fun s notes t => t.share i = s.share i ++ notes) ?_ move_lined ?_ run lined
  · intro s
    rw [List.append_nil]
  · intro s t u action notes lined move rest
    rw [rest, move_share lined.inOrder lined.fit lined.signed move, List.append_assoc]

theorem runs_hands (run : Runs plan s path t) (i : Nat) :
    (noted plan (handsTo i) s path).length = path.countP (PoolAction.givesJobTo i) := by
  induction run with
  | nil => rfl
  | @cons s t u action rest step _ ih =>
    obtain ⟨stepped⟩ := step
    have own : (handsTo i s action).length = if action.givesJobTo i then 1 else 0 := by
      rw [handsTo]
      split <;> rfl
    rw [noted, stepped, List.length_append, own, ih, List.countP_cons, Nat.add_comm]

theorem share_count (opened : a.opening? size = some first) (run : Runs a.plan first path s) (i : Nat) :
    (s.share i).length = path.countP (PoolAction.givesJobTo i) := by
  rw [runs_share (opening_lined opened) run, opening_share opened, List.nil_append, runs_hands run]

theorem move_sublist (lined : Lined s) (within : ∀ i, (s.share i).Sublist (List.range' 1 s.handedOut))
    (move : Move plan s action t) (i : Nat) : (t.share i).Sublist (List.range' 1 t.handedOut) := by
  rw [move_share lined.inOrder lined.fit lined.signed move, (move_takes lined.inOrder move).2, handsTo]
  cases own : action.givesJobTo i with
  | true =>
    have takes : action.takesJob = true := by cases action <;> first | rfl | cases own
    rw [takes, Bool.toNat_true, List.range'_1_concat, Nat.add_comm 1]
    exact (within i).append (List.Sublist.refl _)
  | false =>
    rw [if_neg nofun, List.append_nil]
    exact (within i).trans (List.range'_sublist_right.mpr (Nat.le_add_right _ _))

theorem opened_shares (opened : a.opening? size = some first) (run : Runs a.plan first path s) (i : Nat) :
    (s.share i).Sublist (List.range' 1 s.handedOut) := by
  have kept : Lined s ∧ ∀ i, (s.share i).Sublist (List.range' 1 s.handedOut) := by
    refine runs_keep (P := fun s => Lined s ∧ ∀ i, (s.share i).Sublist (List.range' 1 s.handedOut)) ?_ run
      ⟨opening_lined opened, fun i => ?_⟩
    · rintro s t action ⟨lined, within⟩ move
      exact ⟨move_lined lined move, move_sublist lined within move⟩
    · rw [opening_share opened]
      exact List.nil_sublist _
  exact kept.2 i

theorem taken_share (i : Nat) (s : PoolState α ρ) : putBy i s.taken <+: s.share i := by
  rw [share, putBy_append, List.append_assoc]
  exact List.prefix_append _ _

theorem putBy_all {results : List (JobResult ρ)} (own : ∀ r ∈ results, r.worker = i) :
    putBy i results = results.map JobResult.jobId := by
  rw [putBy, List.filter_eq_self.mpr (by simpa using own)]

theorem alone_share (opened : a.opening? 1 = some first) (run : Runs a.plan first path s) :
    s.share 0 = List.range' 1 s.handedOut := by
  refine (opened_shares opened run 0).eq_of_length ?_
  have lined := runs_keep move_lined run (opening_lined opened)
  have own : ∀ r ∈ s.everyResult, r.worker = 0 := by
    intro r inside
    have below := (opened_booked opened run).workers r inside
    rwa [opened_size opened run, Nat.lt_one_iff] at below
  obtain ⟨w, alone⟩ := List.length_eq_one_iff.mp (opened_size opened run)
  have kept : w.parcels.card = w.keeps.length := by simpa using congrArg Multiset.card w.ids_kept
  have put : putBy 0 (s.taken ++ s.results.items) = (s.taken ++ s.results.items).map JobResult.jobId := by
    refine putBy_all fun r inside => own r ?_
    simp only [everyResult, List.mem_append] at inside ⊢
    tauto
  have ids := congrArg Multiset.card (handed_ids (opened_numbered opened run) lined.inOrder)
  simp only [handed, carried, alone, Parcel.ofResults, Multiset.card_map, Multiset.card_add, Multiset.coe_card,
    List.map_cons, List.map_nil, List.sum_singleton, List.length_map, List.length_range', kept] at ids
  simp only [share, put, keptBy, alone, List.length_append, List.length_map, List.length_range', List.getElem?_cons_zero,
    Option.elim_some]
  omega

-- The results of one worker by their numbers; of a worker that is alone, all of them.
structure InTurn (size : Nat) (s : PoolState α ρ) : Prop where
  workers : ∀ r ∈ s.taken, r.worker < size
  increasing : ∀ i, ((s.taken.filter fun r => r.worker == i).map JobResult.jobId).Pairwise (· < ·)
  alone : size = 1 → s.taken.map JobResult.jobId = List.range' 1 s.taken.length

theorem opened_in_turn (opened : a.opening? size = some first) (run : Runs a.plan first path s) : InTurn size s := by
  have workers : ∀ r ∈ s.taken, r.worker < size := fun r inside =>
    opened_size opened run ▸ (opened_booked opened run).workers r (List.mem_append_right _ inside)
  refine ⟨workers, ?_, ?_⟩
  · intro i
    have part : (putBy i s.taken).Sublist (List.range' 1 s.handedOut) :=
      (taken_share i s).sublist.trans (opened_shares opened run i)
    exact (List.pairwise_lt_range' 1).sublist part
  · rintro rfl
    have own := putBy_all fun r inside => Nat.lt_one_iff.mp (workers r inside)
    have front := taken_share 0 s
    rw [own, alone_share opened run] at front
    have short := front.length_le
    have same := List.prefix_iff_eq_take.mp front
    rw [List.length_map, List.length_range'] at short
    rwa [List.length_map, List.take_range'_of_length_ge short] at same

end PoolState
end GuardedWork
