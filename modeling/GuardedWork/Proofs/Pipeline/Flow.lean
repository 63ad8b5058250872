import GuardedWork.Proofs.Pipeline.Incoming
import GuardedWork.Proofs.Pipeline.Moves

namespace GuardedWork

variable {α : Type}

-- A buffer within its capacity, and no item in the source's hands that is still to be worked on.
def Link.SoundAt (i : Nat) (l : Link α) : Prop :=
  l.buffer.length ≤ l.capacity ∧ (i = 0 → ∀ a, l.phase ≠ .holding a)

namespace PipelineState

variable {p : Pipeline α} {supply : List α} {s t : PipelineState α} {action : PipelineAction} {i : Nat}
  {l m next after : Link α}

structure Wired (p : Pipeline α) (links : List (Link α)) : Prop where
  size : links.length = p.stages.length + 1
  sound : ∀ (i : Nat) (l : Link α), links[i]? = some l → l.SoundAt i

def toCome (p : Pipeline α) (supply : List α) (s : PipelineState α) : List α :=
  incoming p s.links (supply.drop s.pulled) s.links.length

theorem setLink_self (found : s.links[i]? = some l) : s.setLink i l = s := by
  obtain ⟨inside, rfl⟩ := List.getElem?_eq_some_iff.mp found
  rw [setLink, List.set_getElem_self]

theorem last_size (found : s.links[s.last]? = some l) : s.links.length = s.last + 1 := by
  have inside := (List.getElem?_eq_some_iff.mp found).1
  unfold last at inside ⊢
  omega

theorem wired_set {links : List (Link α)} (wired : Wired p links) (sound : l.SoundAt i) : Wired p (links.set i l) := by
  refine ⟨by rw [List.length_set, wired.size], ?_⟩
  intro j m found
  rw [List.getElem?_set] at found
  split at found
  · next same =>
    split at found
    · cases found
      exact same ▸ sound
    · cases found
  · exact wired.sound j m found

theorem move_wired (wired : Wired p s.links) (move : Move p s action t) : Wired p t.links := by
  cases move with
  | pullItem found | pullEnd found | panic found | refused found | hand found =>
    exact wired_set wired ⟨(wired.sound _ _ found).1, by simp⟩
  | work found => exact wired_set wired ⟨(wired.sound _ _ found).1, by simp⟩
  | put found offers read room => exact wired_set wired ⟨by simpa [Nat.succ_le_iff] using room, by simp⟩
  | accept found reader waits queued =>
    obtain ⟨fit, unheld⟩ := wired.sound _ _ found
    rw [queued] at fit
    exact wired_set (wired_set wired ⟨Nat.le_of_succ_le fit, unheld⟩) ⟨(wired.sound _ _ reader).1, by simp⟩
  | close found reader => exact wired_set wired ⟨(wired.sound _ _ reader).1, by simp⟩
  | pass found offers bufferless reader =>
    exact wired_set (wired_set wired ⟨(wired.sound _ _ found).1, by simp⟩) ⟨(wired.sound _ _ reader).1, by simp⟩
  | consume found queued =>
    obtain ⟨fit, unheld⟩ := wired.sound _ _ found
    rw [queued] at fit
    exact wired_set wired ⟨Nat.le_of_succ_le fit, unheld⟩
  | seeClose | drop => exact wired

theorem move_within (gives : p.source.Gives supply) (within : s.pulled ≤ supply.length)
    (move : Move p s action t) : t.pulled ≤ supply.length := by
  cases move with
  | pullItem found waits pulled =>
    have item := (gives s.pulled within _).mp pulled
    exact (List.getElem?_eq_some_iff.mp item).1
  | _ => exact within

theorem toCome_set (found : s.links[i]? = some l)
    (same : m.yields (p.workAt i) (incoming p s.links (supply.drop s.pulled) i) =
      l.yields (p.workAt i) (incoming p s.links (supply.drop s.pulled) i)) :
    (s.setLink i m).toCome p supply = s.toCome p supply := by
  have inside := (List.getElem?_eq_some_iff.mp found).1
  simp only [toCome, setLink, List.length_set]
  exact incoming_set found same inside

theorem toCome_set_two (found : s.links[i]? = some l) (reader : s.links[i + 1]? = some next)
    (same : ∀ x, after.yields (p.workAt (i + 1)) (m.yields (p.workAt i) x) =
      next.yields (p.workAt (i + 1)) (l.yields (p.workAt i) x)) :
    ((s.setLink i m).setLink (i + 1) after).toCome p supply = s.toCome p supply := by
  have inside := (List.getElem?_eq_some_iff.mp reader).1
  simp only [toCome, setLink, List.length_set]
  exact incoming_set_two found reader (same _) inside

theorem toCome_pulled (found : s.links[0]? = some l)
    (same : m.yields some (supply.drop (s.pulled + 1)) = l.yields some (supply.drop s.pulled)) :
    ({ s.setLink 0 m with pulled := s.pulled + 1 }).toCome p supply = s.toCome p supply := by
  have inside := (List.getElem?_eq_some_iff.mp found).1
  simp only [toCome, setLink, List.length_set]
  apply incoming_beyond (i := 1) _ _ inside
  · intro j above
    exact List.getElem?_set_ne (Nat.ne_of_lt above)
  · rw [incoming_set_self inside, incoming_found found]
    exact same

-- The last thread has one item less to give when the consumer has one more.
theorem toCome_taken {a : α} (found : s.links[s.last]? = some l)
    (less : a :: m.yields (p.workAt s.last) (incoming p s.links (supply.drop s.pulled) s.last) =
      l.yields (p.workAt s.last) (incoming p s.links (supply.drop s.pulled) s.last)) :
    s.taken ++ [a] ++ (s.setLink s.last m).toCome p supply = s.taken ++ s.toCome p supply := by
  have inside := (List.getElem?_eq_some_iff.mp found).1
  simp only [toCome, setLink, List.length_set]
  rw [last_size found, incoming_set_self inside, incoming_found found, ← less, List.append_assoc, List.singleton_append]

-- The only item that is ever lost is one that has no reader any more.
theorem move_whole (gives : p.source.Gives supply) (wired : Wired p s.links) (within : s.pulled ≤ supply.length)
    (move : Move p s action t) (there : t.consumer.isThere = true) :
    t.taken ++ t.toCome p supply = s.taken ++ s.toCome p supply := by
  cases move with
  | @pullItem l a found waits pulled =>
    have item := (gives s.pulled within _).mp pulled
    have left : supply.drop s.pulled = a :: supply.drop (s.pulled + 1) := by
      obtain ⟨inside, rfl⟩ := List.getElem?_eq_some_iff.mp item
      exact List.drop_eq_getElem_cons inside
    refine congrArg (s.taken ++ ·) (toCome_pulled found ?_)
    simp [Link.yields, waits, left, mapped]
  | pullEnd found waits stops =>
    have none : supply.drop s.pulled = [] := by
      rw [List.drop_eq_nil_iff, ← List.getElem?_eq_none_iff]
      by_contra some
      obtain ⟨a, item⟩ := Option.ne_none_iff_exists'.mp some
      exact stops a ((gives s.pulled within a).mpr item)
    refine congrArg (s.taken ++ ·) (toCome_set found ?_)
    simp [Link.yields, waits, incoming, none, mapped]
  | accept found reader waits queued =>
    refine congrArg (s.taken ++ ·) (toCome_set_two found reader ?_)
    simp [Link.yields, waits, queued]
  | @close i l next found reader waits drained left =>
    have nothing : incoming p s.links (supply.drop s.pulled) (i + 1) = [] := by
      rw [incoming_found found]
      simp [Link.yields, drained, left]
    refine congrArg (s.taken ++ ·) (toCome_set reader ?_)
    simp [Link.yields, waits, nothing, mapped]
  | work found staged holds worked =>
    refine congrArg (s.taken ++ ·) (toCome_set found ?_)
    simp [Link.yields, holds, Pipeline.workAt, staged, mapped, worked]
  | panic found staged holds failed =>
    refine congrArg (s.taken ++ ·) (toCome_set found ?_)
    simp [Link.yields, holds, Pipeline.workAt, staged, mapped, failed]
  | put found offers read room =>
    refine congrArg (s.taken ++ ·) (toCome_set found ?_)
    simp [Link.yields, offers]
  | @refused i l b found offers unread =>
    unfold isRead at unread
    split at unread
    · next reader at_reader =>
      have gone : reader.phase = .gone := by simpa using unread
      have still : (s.setLink i { l with phase := .gone }).links[i + 1]? = some reader := reader_still at_reader
      rw [← setLink_self still]
      refine congrArg (s.taken ++ ·) (toCome_set_two found at_reader ?_)
      simp [Link.yields, gone]
    · exact absurd (unread.symm.trans there) Bool.false_ne_true
  | pass found offers bufferless reader waits =>
    have empty := (wired.sound _ _ found).1
    rw [bufferless, Nat.le_zero, List.length_eq_zero_iff] at empty
    refine congrArg (s.taken ++ ·) (toCome_set_two found reader ?_)
    simp [Link.yields, waits, offers, empty]
  | @hand i l b consumer found offers bufferless ends wants =>
    have empty := (wired.sound _ _ found).1
    rw [bufferless, Nat.le_zero, List.length_eq_zero_iff] at empty
    obtain rfl : i = s.last := by
      have inside := (List.getElem?_eq_some_iff.mp found).1
      rw [List.getElem?_eq_none_iff] at ends
      unfold last
      omega
    refine toCome_taken found ?_
    simp [Link.yields, offers, empty]
  | consume found queued wants =>
    refine toCome_taken found ?_
    simp [Link.yields, queued]
  | seeClose | drop => cases there

-- No thread of a fresh pipeline has anything in hand yet.
theorem start_incoming (p : Pipeline α) (first : PipelineConsumer) (left : List α) (within : i ≤ p.stages.length) :
    incoming p (start p first).links left (i + 1) = mapped (Pipeline.through (p.stages.take i)) left := by
  induction i with
  | zero => rfl
  | succ i ih =>
    have inside : i < p.stages.length := within
    have found : (start p first).links[i + 1]? = some (.ofCapacity p.stages[i].capacity) := by
      simp [start, inside]
    rw [incoming_found found, ih (Nat.le_of_lt inside), List.take_succ_eq_append_getElem inside, through_more,
      ← mapped_mapped]
    simp [Link.yields, Link.ofCapacity, Pipeline.workAt, inside]

theorem start_idle (p : Pipeline α) (first : PipelineConsumer) (member : l ∈ (start p first).links) :
    ∃ capacity, l = .ofCapacity capacity := by
  simp only [start, List.mem_cons, List.mem_map] at member
  rcases member with rfl | ⟨stage, _, rfl⟩ <;> exact ⟨_, rfl⟩

theorem start_size (p : Pipeline α) (first : PipelineConsumer) :
    (start p first).links.length = p.stages.length + 1 := by
  simp [start]

theorem start_wired (p : Pipeline α) (first : PipelineConsumer) : Wired p (start p first).links := by
  refine ⟨start_size p first, ?_⟩
  intro i l found
  obtain ⟨capacity, rfl⟩ := start_idle p first (List.mem_of_getElem? found)
  exact ⟨Nat.zero_le _, by simp [Link.ofCapacity]⟩

theorem start_whole (p : Pipeline α) (first : PipelineConsumer) (supply : List α) :
    (start p first).toCome p supply = mapped (Pipeline.through p.stages) supply := by
  rw [toCome, start_size, start_incoming p first _ (Nat.le_refl _), List.take_length]
  rfl

end PipelineState

namespace PipelineConsumer

variable {first c d : PipelineConsumer} {whole taken : List α}

-- How far a consumer is that came as the first, and what it can tell from that.
def Reached : PipelineConsumer → PipelineConsumer → List α → List α → Prop
  | draining, first, _, _ => first = .draining
  | wanting n, first, _, taken => first = .wanting (taken.length + n)
  | dropped, first, whole, taken => first = .wanting taken.length ∧ taken <+: whole
  | finished, first, whole, taken => taken = whole ∧ ∀ n, first = .wanting n → taken.length ≤ n

theorem afterTake_there (wants : c.afterTake? = some d) : c.isThere = true := by
  cases c <;> first | rfl | cases wants

theorem reached_take (reached : c.Reached first whole taken) (wants : c.afterTake? = some d) (a : α) :
    d.Reached first whole (taken ++ [a]) := by
  cases c with
  | draining => cases wants; exact reached
  | wanting n =>
    cases n with
    | zero => cases wants
    | succ n =>
      cases wants
      rw [Reached] at reached ⊢
      rw [reached, List.length_append, List.length_singleton]
      congr 1
      omega
  | dropped | finished => cases wants

theorem reached_close (reached : c.Reached first whole taken) (wants : c.afterTake? = some d) (all : taken = whole) :
    PipelineConsumer.finished.Reached first whole taken := by
  refine ⟨all, ?_⟩
  intro n wanted
  cases c with
  | draining => cases reached.symm.trans wanted
  | wanting m =>
    cases reached.symm.trans wanted
    exact Nat.le_add_right _ _
  | dropped | finished => cases wants

theorem reached_left (reached : c.Reached first whole taken) (left : c.isThere = false) :
    taken <+: whole ∧ ∀ n, first = .wanting n → taken = whole.take n := by
  cases c with
  | draining | wanting => cases left
  | dropped =>
    refine ⟨reached.2, ?_⟩
    intro n wanted
    cases reached.1.symm.trans wanted
    exact List.prefix_iff_eq_take.mp reached.2
  | finished =>
    obtain ⟨rfl, enough⟩ := reached
    refine ⟨List.prefix_rfl, ?_⟩
    intro n wanted
    exact (List.take_of_length_le (enough n wanted)).symm

-- One that came for all leaves only when it has all.
theorem reached_drained (reached : c.Reached .draining whole taken) (left : c.isThere = false) :
    c = .finished ∧ taken = whole := by
  cases c with
  | draining | wanting => cases left
  | dropped => cases reached.1
  | finished => exact ⟨rfl, reached.1⟩

end PipelineConsumer

namespace PipelineState

variable {p : Pipeline α} {supply : List α} {first : PipelineConsumer} {s t : PipelineState α}
  {action : PipelineAction} {path : List PipelineAction} {l : Link α}

structure Flows (p : Pipeline α) (supply : List α) (first : PipelineConsumer) (s : PipelineState α) : Prop where
  wired : Wired p s.links
  within : s.pulled ≤ supply.length
  whole : s.consumer.isThere = true → s.taken ++ s.toCome p supply = mapped (Pipeline.through p.stages) supply
  reached : s.consumer.Reached first (mapped (Pipeline.through p.stages) supply) s.taken

theorem start_flows (p : Pipeline α) (supply : List α) (there : first.isThere = true) :
    Flows p supply first (start p first) := by
  refine ⟨start_wired p first, Nat.zero_le _, fun _ => start_whole p first supply, ?_⟩
  cases first with
  | draining => rfl
  | wanting n => exact congrArg _ (Nat.zero_add n).symm
  | dropped | finished => cases there

theorem move_there (move : Move p s action t) (there : t.consumer.isThere = true) : s.consumer.isThere = true := by
  cases move with
  | hand found offers bufferless ends wants => exact PipelineConsumer.afterTake_there wants
  | consume found queued wants => exact PipelineConsumer.afterTake_there wants
  | seeClose | drop => cases there
  | _ => exact there

theorem drained_whole (found : s.links[s.last]? = some l) (drained : l.buffer = []) (left : l.phase = .gone) :
    s.toCome p supply = [] := by
  rw [toCome, last_size found, incoming_found found]
  simp [Link.yields, drained, left]

theorem move_flows (gives : p.source.Gives supply) (flows : Flows p supply first s) (move : Move p s action t) :
    Flows p supply first t := by
  refine ⟨move_wired flows.wired move, move_within gives flows.within move, ?_, ?_⟩
  · intro there
    rw [move_whole gives flows.wired flows.within move there]
    exact flows.whole (move_there move there)
  · have reached := flows.reached
    cases move with
    | hand found offers bufferless ends wants => exact PipelineConsumer.reached_take reached wants _
    | consume found queued wants => exact PipelineConsumer.reached_take reached wants _
    | seeClose found drained left wants =>
      have all := flows.whole (PipelineConsumer.afterTake_there wants)
      rw [drained_whole found drained left, List.append_nil] at all
      exact PipelineConsumer.reached_close reached wants all
    | drop done =>
      have all := flows.whole (by rw [done]; rfl)
      rw [done] at reached
      exact ⟨reached, ⟨_, all⟩⟩
    | _ => exact reached

theorem runs_flows (gives : p.source.Gives supply) (there : first.isThere = true)
    (run : Runs p (start p first) path s) : Flows p supply first s :=
  runs_keep (move_flows gives) run (start_flows p supply there)

theorem flows_taken (flows : Flows p supply first s) : s.taken <+: mapped (Pipeline.through p.stages) supply := by
  cases present : s.consumer.isThere with
  | true => exact ⟨_, flows.whole present⟩
  | false => exact (PipelineConsumer.reached_left flows.reached present).1

end PipelineState
end GuardedWork
