import GuardedWork.Proofs.Pipeline.Flow

namespace GuardedWork

variable {α : Type}

-- An item in the output of a thread is worth its way through the threads behind it.
def Link.load (worth : Nat) (l : Link α) : Nat :=
  l.buffer.length * worth +
    match l.phase with
    | .waiting => 1
    | .holding _ => worth + 3
    | .offering _ => worth + 2
    | .gone => 0

def loads : List (Link α) → Nat
  | [] => 0
  | l :: later => l.load (3 * later.length + 1) + loads later

theorem loads_split {links : List (Link α)} {i later : Nat} {l : Link α} (found : links[i]? = some l)
    (size : links.length = i + later + 1) :
    ∃ others, loads links = l.load (3 * later + 1) + others ∧
      ∀ m, loads (links.set i m) = m.load (3 * later + 1) + others := by
  induction links generalizing i with
  | nil => cases found
  | cons first rest ih =>
    cases i with
    | zero =>
      cases found
      have behind : rest.length = later := by simpa using size
      exact ⟨loads rest, by rw [loads, behind], fun m => by rw [List.set_cons_zero, loads, behind]⟩
    | succ i =>
      have shorter : rest.length = i + later + 1 := by
        rw [List.length_cons] at size
        omega
      obtain ⟨others, whole, changed⟩ := ih (by simpa using found) shorter
      refine ⟨first.load (3 * rest.length + 1) + others, ?_, ?_⟩
      · rw [loads, whole]
        omega
      · intro m
        rw [List.set_cons_succ, loads, changed, List.length_set]
        omega

theorem loads_set {links : List (Link α)} {i : Nat} {l m : Link α} (found : links[i]? = some l)
    (lower : ∀ worth, 0 < worth → m.load worth < l.load worth) : loads (links.set i m) < loads links := by
  have inside := (List.getElem?_eq_some_iff.mp found).1
  obtain ⟨later, size⟩ : ∃ later, links.length = i + later + 1 := ⟨links.length - i - 1, by omega⟩
  obtain ⟨others, whole, changed⟩ := loads_split found size
  rw [whole, changed]
  exact Nat.add_lt_add_right (lower _ (Nat.succ_pos _)) others

theorem loads_set_two {links : List (Link α)} {i : Nat} {l m next after : Link α} (found : links[i]? = some l)
    (reader : links[i + 1]? = some next)
    (lower : ∀ worth, m.load (worth + 3) + after.load worth < l.load (worth + 3) + next.load worth) :
    loads ((links.set i m).set (i + 1) after) < loads links := by
  have inside := (List.getElem?_eq_some_iff.mp reader).1
  obtain ⟨later, size⟩ : ∃ later, links.length = i + 1 + later + 1 := ⟨links.length - i - 2, by omega⟩
  have deeper : links.length = i + (later + 1) + 1 := by omega
  have shallow : (links.set i m).length = i + 1 + later + 1 := by rw [List.length_set, size]
  have still : (links.set i m)[i + 1]? = some next := PipelineState.reader_still reader
  obtain ⟨others, whole, changed⟩ := loads_split found deeper
  obtain ⟨beside, middle, changedToo⟩ := loads_split still shallow
  have less := lower (3 * later + 1)
  have middle := (changed m).symm.trans middle
  rw [whole, changedToo]
  have price : 3 * (later + 1) + 1 = 3 * later + 1 + 3 := by omega
  rw [price] at middle ⊢
  omega

namespace PipelineState

variable {p : Pipeline α} {supply : List α} {s t : PipelineState α} {action : PipelineAction} {i : Nat} {l : Link α}

def workLeft (n : Nat) (s : PipelineState α) : Nat :=
  (n - s.pulled) * (3 * s.links.length) + loads s.links + s.consumer.isThere.toNat

theorem lowers_of_loads {n : Nat} (pulled : t.pulled = s.pulled) (size : t.links.length = s.links.length)
    (there : t.consumer.isThere = true → s.consumer.isThere = true) (less : loads t.links < loads s.links) :
    t.workLeft n < s.workLeft n := by
  have consumer : t.consumer.isThere.toNat ≤ s.consumer.isThere.toNat := by
    cases after : t.consumer.isThere with
    | false => exact Nat.zero_le _
    | true => exact Nat.le_of_eq (by rw [there after])
  rw [workLeft, workLeft, pulled, size]
  omega

-- Any bound will do for what is pulled, if it still holds behind the move.
theorem move_lowers_within {n : Nat} (wired : Wired p s.links) (within : t.pulled ≤ n) (move : Move p s action t) :
    t.workLeft n < s.workLeft n := by
  have size : t.links.length = s.links.length := by rw [(move_wired wired move).size, wired.size]
  have there := move_there move
  cases move with
  | @pullItem l a found waits pulled =>
    have below : s.pulled + 1 ≤ n := within
    have whole : s.links.length = 0 + p.stages.length + 1 := by rw [wired.size, Nat.zero_add]
    obtain ⟨others, before, changed⟩ := loads_split found whole
    have left : n - s.pulled = n - (s.pulled + 1) + 1 := by omega
    simp only [workLeft, setLink, List.length_set, before, changed, Link.load, waits, left, Nat.succ_mul]
    omega
  | pullEnd found waits stops =>
    exact lowers_of_loads rfl size there (loads_set found (by simp [Link.load, waits]))
  | accept found reader waits queued =>
    refine lowers_of_loads rfl size there (loads_set_two found reader ?_)
    intro worth
    simp only [Link.load, waits, queued, List.length_cons, Nat.succ_mul]
    omega
  | close found reader waits drained left =>
    exact lowers_of_loads rfl size there (loads_set reader (by simp [Link.load, waits]))
  | work found staged holds worked =>
    exact lowers_of_loads rfl size there (loads_set found (by simp [Link.load, holds]))
  | panic found staged holds failed =>
    exact lowers_of_loads rfl size there (loads_set found (by simp [Link.load, holds]))
  | put found offers read room =>
    refine lowers_of_loads rfl size there (loads_set found ?_)
    intro worth _
    simp only [Link.load, offers, List.length_append, List.length_singleton, Nat.succ_mul]
    omega
  | refused found offers unread =>
    exact lowers_of_loads rfl size there (loads_set found (by simp [Link.load, offers]))
  | pass found offers bufferless reader waits =>
    refine lowers_of_loads rfl size there (loads_set_two found reader ?_)
    intro worth
    simp only [Link.load, waits, offers]
    omega
  | hand found offers bufferless ends wants =>
    refine lowers_of_loads rfl size there (loads_set found ?_)
    intro worth _
    simp only [Link.load, offers]
    omega
  | consume found queued wants =>
    refine lowers_of_loads rfl size there (loads_set found ?_)
    intro worth positive
    simp only [Link.load, queued, List.length_cons, Nat.succ_mul]
    omega
  | seeClose found drained left wants =>
    have present := PipelineConsumer.afterTake_there wants
    rw [workLeft, workLeft, present]
    exact Nat.lt_succ_self _
  | drop done =>
    rw [workLeft, workLeft, done]
    exact Nat.lt_succ_self _

theorem move_lowers (gives : p.source.Gives supply) (wired : Wired p s.links) (within : s.pulled ≤ supply.length)
    (move : Move p s action t) : t.workLeft supply.length < s.workLeft supply.length :=
  move_lowers_within wired (move_within gives within move) move

theorem runs_lower {path : List PipelineAction} (gives : p.source.Gives supply) (run : Runs p s path t)
    (wired : Wired p s.links) (within : s.pulled ≤ supply.length) :
    path.length + t.workLeft supply.length ≤ s.workLeft supply.length := by
  induction run with
  | nil => simp
  | cons stepped _ ih =>
    have move := move_sound stepped
    have rest := ih (move_wired wired move) (move_within gives within move)
    have lower := move_lowers gives wired within move
    rw [List.length_cons]
    omega

theorem loads_idle {links : List (Link α)} (idle : ∀ l ∈ links, ∃ capacity, l = .ofCapacity capacity) :
    loads links = links.length := by
  induction links with
  | nil => rfl
  | cons l later ih =>
    obtain ⟨capacity, rfl⟩ := idle l List.mem_cons_self
    rw [loads, ih fun m member => idle m (List.mem_cons_of_mem _ member), List.length_cons, Link.load]
    simp only [Link.ofCapacity, List.length_nil]
    omega

theorem start_workLeft (p : Pipeline α) (first : PipelineConsumer) {n items : Nat} (within : n ≤ items) :
    (start p first).workLeft n ≤ stepBound items p.stages.length := by
  have pulls : n * (3 * (p.stages.length + 1)) ≤ items * (3 * p.stages.length + 3) := Nat.mul_le_mul_right _ within
  have there := Bool.toNat_le first.isThere
  rw [workLeft, loads_idle fun l => start_idle p first, start_size, stepBound, Nat.succ_mul items]
  simp only [start, Nat.sub_zero]
  omega

-- The reader of a thread, another thread or the consumer, takes what it is given.
def Awaited (i : Nat) (s : PipelineState α) : Prop :=
  (∃ next, s.links[i + 1]? = some next ∧ next.phase = .waiting) ∨
    s.links[i + 1]? = none ∧ ∃ consumer, s.consumer.afterTake? = some consumer

def CanMove (p : Pipeline α) (s : PipelineState α) : Prop := ∃ action t, Move p s action t

theorem awaited_read (awaited : s.Awaited i) : s.isRead i = true := by
  rcases awaited with ⟨next, reader, waits⟩ | ⟨ends, consumer, wants⟩
  · simp [isRead, reader, waits, StagePhase.isGone]
  · simpa [isRead, ends] using PipelineConsumer.afterTake_there wants

theorem offering_can_move {b : α} (found : s.links[i]? = some l) (offers : l.phase = .offering b)
    (empty : l.buffer = []) (awaited : s.Awaited i) : CanMove p s := by
  by_cases bufferless : l.capacity = 0
  · rcases awaited with ⟨next, reader, waits⟩ | ⟨ends, consumer, wants⟩
    · exact ⟨_, _, .pass found offers bufferless reader waits⟩
    · exact ⟨_, _, .hand found offers bufferless ends wants⟩
  · have room : l.buffer.length < l.capacity := by
      rw [empty]
      exact Nat.pos_of_ne_zero bufferless
    exact ⟨_, _, .put found offers (awaited_read awaited) room⟩

theorem holding_can_move {a : α} (wired : Wired p s.links) (found : s.links[i]? = some l)
    (holds : l.phase = .holding a) : CanMove p s := by
  have inside := (List.getElem?_eq_some_iff.mp found).1
  cases i with
  | zero => exact absurd holds ((wired.sound _ _ found).2 rfl a)
  | succ i =>
    have staged : ∃ stage, p.stages[i]? = some stage := by
      rw [wired.size] at inside
      exact ⟨_, List.getElem?_eq_getElem (Nat.lt_of_succ_lt_succ inside)⟩
    obtain ⟨stage, staged⟩ := staged
    cases worked : stage.work a with
    | some b => exact ⟨_, _, .work found staged holds worked⟩
    | none => exact ⟨_, _, .panic found staged holds worked⟩

-- It takes what is there, or waits for a thread before it, which goes on itself or waits in its turn; the
-- source waits for nobody.
theorem waiting_can_move (wired : Wired p s.links) (found : s.links[i]? = some l) (waits : l.phase = .waiting) :
    CanMove p s := by
  induction i generalizing l with
  | zero =>
    by_cases item : ∃ a, (p.source s.pulled).pulled = .item a
    · obtain ⟨a, pulled⟩ := item
      exact ⟨_, _, .pullItem found waits pulled⟩
    · exact ⟨_, _, .pullEnd found waits (not_exists.mp item)⟩
  | succ i ih =>
    have inside := (List.getElem?_eq_some_iff.mp found).1
    obtain ⟨input, before⟩ : ∃ input, s.links[i]? = some input :=
      ⟨_, List.getElem?_eq_getElem (Nat.lt_of_succ_lt inside)⟩
    cases queued : input.buffer with
    | cons a rest => exact ⟨_, _, .accept before found waits queued⟩
    | nil =>
      cases phase : input.phase with
      | waiting => exact ih before phase
      | holding a => exact holding_can_move wired before phase
      | offering b => exact offering_can_move before phase queued (.inl ⟨l, found, waits⟩)
      | gone => exact ⟨_, _, .close before found waits queued phase⟩

theorem thread_can_move (wired : Wired p s.links) (found : s.links[i]? = some l) (alive : l.phase ≠ .gone)
    (empty : l.buffer = []) (awaited : s.Awaited i) : CanMove p s := by
  cases phase : l.phase with
  | waiting => exact waiting_can_move wired found phase
  | holding a => exact holding_can_move wired found phase
  | offering b => exact offering_can_move found phase empty awaited
  | gone => exact absurd phase alive

theorem wanting_can_move {consumer : PipelineConsumer} (wired : Wired p s.links)
    (wants : s.consumer.afterTake? = some consumer) : CanMove p s := by
  have inside : s.last < s.links.length := by
    rw [last, wired.size]
    exact Nat.lt_succ_self _
  have found := List.getElem?_eq_getElem inside
  cases queued : s.links[s.last].buffer with
  | cons a rest => exact ⟨_, _, .consume found queued wants⟩
  | nil =>
    by_cases left : s.links[s.last].phase = .gone
    · exact ⟨_, _, .seeClose found queued left wants⟩
    · refine thread_can_move wired found left queued (.inr ⟨?_, consumer, wants⟩)
      exact List.getElem?_eq_none (Nat.le_of_eq (last_size found))

theorem present_can_move (wired : Wired p s.links) (there : s.consumer.isThere = true) : CanMove p s := by
  cases consumer : s.consumer with
  | draining => exact wanting_can_move wired (by rw [consumer]; rfl)
  | wanting n =>
    cases n with
    | zero => exact ⟨_, _, .drop consumer⟩
    | succ n => exact wanting_can_move wired (by rw [consumer]; rfl)
  | dropped | finished => rw [consumer] at there; cases there

end PipelineState
end GuardedWork
