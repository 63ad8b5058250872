import GuardedWork.Pipeline.Run
import Mathlib.Data.List.Basic

namespace GuardedWork

variable {α : Type}

@[simp] theorem StagePhase.isWaiting_iff {phase : StagePhase α} : phase.isWaiting = true ↔ phase = .waiting := by
  cases phase <;> simp [isWaiting]

@[simp] theorem StagePhase.isGone_iff {phase : StagePhase α} : phase.isGone = true ↔ phase = .gone := by
  cases phase <;> simp [isGone]

namespace PipelineState

variable {p : Pipeline α} {s t : PipelineState α} {action : PipelineAction} {i : Nat} {l : Link α}

inductive Move (p : Pipeline α) (s : PipelineState α) : PipelineAction → PipelineState α → Prop where
  | pullItem {l : Link α} {a : α} (found : s.links[0]? = some l) (waits : l.phase = .waiting)
      (pulled : (p.source s.pulled).pulled = .item a) :
      Move p s .pull { s.setLink 0 { l with phase := .offering a } with pulled := s.pulled + 1 }
  | pullEnd {l : Link α} (found : s.links[0]? = some l) (waits : l.phase = .waiting)
      (stops : ∀ a, (p.source s.pulled).pulled ≠ .item a) : Move p s .pull (s.setLink 0 { l with phase := .gone })
  | accept {i : Nat} {l next : Link α} {a : α} {rest : List α} (found : s.links[i]? = some l)
      (reader : s.links[i + 1]? = some next) (waits : next.phase = .waiting) (queued : l.buffer = a :: rest) :
      Move p s (.accept i)
        ((s.setLink i { l with buffer := rest }).setLink (i + 1) { next with phase := .holding a })
  | close {i : Nat} {l next : Link α} (found : s.links[i]? = some l) (reader : s.links[i + 1]? = some next)
      (waits : next.phase = .waiting) (drained : l.buffer = []) (left : l.phase = .gone) :
      Move p s (.close i) (s.setLink (i + 1) { next with phase := .gone })
  | work {i : Nat} {l : Link α} {stage : Stage α} {a b : α} (found : s.links[i + 1]? = some l)
      (staged : p.stages[i]? = some stage) (holds : l.phase = .holding a) (worked : stage.work a = some b) :
      Move p s (.work i) (s.setLink (i + 1) { l with phase := .offering b })
  | panic {i : Nat} {l : Link α} {stage : Stage α} {a : α} (found : s.links[i + 1]? = some l)
      (staged : p.stages[i]? = some stage) (holds : l.phase = .holding a) (failed : stage.work a = none) :
      Move p s (.work i) (s.setLink (i + 1) { l with phase := .gone })
  | put {i : Nat} {l : Link α} {b : α} (found : s.links[i]? = some l) (offers : l.phase = .offering b)
      (read : s.isRead i = true) (room : l.buffer.length < l.capacity) :
      Move p s (.put i) (s.setLink i ⟨.waiting, l.capacity, l.buffer ++ [b]⟩)
  | refused {i : Nat} {l : Link α} {b : α} (found : s.links[i]? = some l) (offers : l.phase = .offering b)
      (unread : s.isRead i = false) : Move p s (.put i) (s.setLink i { l with phase := .gone })
  | pass {i : Nat} {l next : Link α} {b : α} (found : s.links[i]? = some l) (offers : l.phase = .offering b)
      (bufferless : l.capacity = 0) (reader : s.links[i + 1]? = some next) (waits : next.phase = .waiting) :
      Move p s (.pass i)
        ((s.setLink i { l with phase := .waiting }).setLink (i + 1) { next with phase := .holding b })
  | hand {i : Nat} {l : Link α} {b : α} {consumer : PipelineConsumer} (found : s.links[i]? = some l)
      (offers : l.phase = .offering b) (bufferless : l.capacity = 0) (ends : s.links[i + 1]? = none)
      (wants : s.consumer.afterTake? = some consumer) :
      Move p s (.pass i)
        { s.setLink i { l with phase := .waiting } with consumer := consumer, taken := s.taken ++ [b] }
  | consume {l : Link α} {a : α} {rest : List α} {consumer : PipelineConsumer} (found : s.links[s.last]? = some l)
      (queued : l.buffer = a :: rest) (wants : s.consumer.afterTake? = some consumer) :
      Move p s .consume
        { s.setLink s.last { l with buffer := rest } with consumer := consumer, taken := s.taken ++ [a] }
  | seeClose {l : Link α} {consumer : PipelineConsumer} (found : s.links[s.last]? = some l) (drained : l.buffer = [])
      (left : l.phase = .gone) (wants : s.consumer.afterTake? = some consumer) :
      Move p s .seeClose { s with consumer := .finished }
  | drop (done : s.consumer = .wanting 0) : Move p s .drop { s with consumer := .dropped }

theorem setBuffer_found (found : s.links[i]? = some l) (buffer : List α) :
    s.setBuffer i buffer = s.setLink i { l with buffer } := by
  simp [setBuffer, setLink, List.modify_eq_set_getElem?, found]

theorem take_item {a : α} {q : Queue α} (found : s.links[i]? = some l) :
    s.take i = .item a q ↔ ∃ rest, l.buffer = a :: rest ∧ q = { l.queue true with items := rest } := by
  rw [take, found]
  exact Queue.take_eq_item

theorem take_closed (found : s.links[i]? = some l) : s.take i = .closed ↔ l.buffer = [] ∧ l.phase = .gone := by
  rw [take, found]
  refine Queue.take_eq_closed.trans ?_
  cases phase : l.phase <;> simp [Link.queue, phase, StagePhase.isGone]

theorem take_found (taken : s.take i ≠ .blocks) : ∃ l, s.links[i]? = some l := by
  unfold take at taken
  split at taken
  · next l found => exact ⟨l, found⟩
  · exact absurd rfl taken

theorem reader_still {links : List (Link α)} {m next : Link α} (reader : links[i + 1]? = some next) :
    (links.set i m)[i + 1]? = some next := by
  rw [List.getElem?_set_ne (Nat.ne_of_lt (Nat.lt_succ_self i)), reader]

-- A stage takes from its input and then turns to what it took, so that the order does not matter.
theorem setLinks_comm {a b : Link α} : (s.setLink (i + 1) a).setLink i b = (s.setLink i b).setLink (i + 1) a := by
  simp only [setLink]
  rw [List.set_comm _ _ (Nat.succ_ne_self i)]

theorem put_accepted {b : α} {q : Queue α} : (l.queue (s.isRead i)).put b = .accepted q ↔
    s.isRead i = true ∧ l.buffer.length < l.capacity ∧ q = { l.queue (s.isRead i) with items := l.buffer ++ [b] } := by
  refine Queue.put_eq_accepted.trans ?_
  cases read : s.isRead i <;> simp [Link.queue]

theorem put_refused {b : α} : (l.queue (s.isRead i)).put b = .refused ↔ s.isRead i = false := by
  refine Queue.put_eq_refused.trans ?_
  cases read : s.isRead i <;> simp [Link.queue]

theorem move_complete (move : Move p s action t) : s.step? p action = some t := by
  cases move with
  | pullItem found waits pulled =>
    simp [step?, stepSource, setPhase, found, waits, pulled]
  | pullEnd found waits stops =>
    cases pulled : (p.source s.pulled).pulled with
    | item a => exact absurd pulled (stops a)
    | ended | panicked => simp [step?, stepSource, setPhase, found, waits, pulled]
  | @accept i l next a rest found reader waits queued =>
    have item : s.take i = .item a { l.queue true with items := rest } := (take_item found).mpr ⟨rest, queued, rfl⟩
    have still : (s.setLink (i + 1) { next with phase := .holding a }).links[i]? = some l := by
      simp [setLink, found]
    simp [step?, stepAccept, setPhase, reader, waits, item, setBuffer_found still, setLinks_comm]
  | close found reader waits drained left =>
    have closed := (take_closed found).mpr ⟨drained, left⟩
    simp [step?, stepClose, setPhase, reader, waits, closed]
  | work found staged holds worked | panic found staged holds worked =>
    simp [step?, stepWork, setPhase, found, staged, holds, worked]
  | put found offers read room =>
    simp [step?, stepPut, found, offers, put_accepted.mpr ⟨read, room, rfl⟩]
  | refused found offers unread =>
    simp [step?, stepPut, setPhase, found, offers, put_refused.mpr unread]
  | pass found offers bufferless reader waits =>
    simp [step?, stepPass, setPhase, found, offers, bufferless, reader, waits]
  | hand found offers bufferless ends wants =>
    simp [step?, stepPass, setPhase, found, offers, bufferless, ends, wants]
  | consume found queued wants =>
    have item := (take_item found).mpr ⟨_, queued, rfl⟩
    simp [step?, stepConsumer, item, wants, setBuffer_found found]
  | seeClose found drained left wants =>
    have closed := (take_closed found).mpr ⟨drained, left⟩
    simp [step?, stepConsumer, closed, wants]
  | drop done => simp [step?, stepConsumer, done]

theorem put_sound (found : s.links[i]? = some l) (stepped : s.stepPut i l = some t) : Move p s (.put i) t := by
  unfold stepPut at stepped
  split at stepped
  · next b offers =>
    split at stepped
    · next q put =>
      obtain ⟨read, room, rfl⟩ := put_accepted.mp put
      cases stepped
      exact .put found offers read room
    · next put =>
      cases stepped
      exact .refused found offers (put_refused.mp put)
    · cases stepped
  · cases stepped

theorem pass_sound (found : s.links[i]? = some l) (stepped : s.stepPass i l = some t) : Move p s (.pass i) t := by
  unfold stepPass at stepped
  split at stepped
  · next b offers =>
    split at stepped
    · next bufferless =>
      split at stepped
      · next next reader =>
        split at stepped
        · next waits =>
          cases stepped
          exact .pass found offers bufferless reader (StagePhase.isWaiting_iff.mp waits)
        · cases stepped
      · next ends =>
        obtain ⟨consumer, wants, rfl⟩ := Option.map_eq_some_iff.mp stepped
        exact .hand found offers bufferless ends wants
    · cases stepped
  · cases stepped

theorem consumer_sound (stepped : s.stepConsumer action = some t) : Move p s action t := by
  unfold stepConsumer at stepped
  split at stepped
  · next a q item =>
    obtain ⟨consumer, wants, rfl⟩ := Option.map_eq_some_iff.mp stepped
    obtain ⟨l, found⟩ := take_found (i := s.last) (by rw [item]; simp)
    obtain ⟨rest, queued, rfl⟩ := (take_item found).mp item
    rw [setBuffer_found found]
    exact .consume found queued wants
  · next closed =>
    obtain ⟨consumer, wants, rfl⟩ := Option.map_eq_some_iff.mp stepped
    obtain ⟨l, found⟩ := take_found (i := s.last) (by rw [closed]; simp)
    obtain ⟨drained, left⟩ := (take_closed found).mp closed
    exact .seeClose found drained left wants
  · split at stepped
    · next done => cases stepped; exact .drop done
    · cases stepped
  · cases stepped

theorem source_sound (found : s.links[0]? = some l) (stepped : s.stepSource p l = some t) : Move p s .pull t := by
  unfold stepSource at stepped
  split at stepped
  · next waits =>
    rw [StagePhase.isWaiting_iff] at waits
    cases pulled : (p.source s.pulled).pulled with
    | item a =>
      simp only [pulled] at stepped
      cases stepped
      exact .pullItem found waits pulled
    | ended | panicked =>
      simp only [pulled] at stepped
      cases stepped
      exact .pullEnd found waits (by simp [pulled])
  · cases stepped

theorem accept_sound (reader : s.links[i + 1]? = some l) (stepped : s.stepAccept i l = some t) :
    Move p s (.accept i) t := by
  unfold stepAccept at stepped
  split at stepped
  · next waits =>
    rw [StagePhase.isWaiting_iff] at waits
    split at stepped
    · next a q item =>
      obtain ⟨input, found⟩ := take_found (by rw [item]; simp)
      obtain ⟨rest, queued, rfl⟩ := (take_item found).mp item
      have still : (s.setPhase (i + 1) l (.holding a)).links[i]? = some input := by
        simp [setPhase, setLink, found]
      cases stepped
      rw [setBuffer_found still, setPhase, setLinks_comm]
      exact .accept found reader waits queued
    · cases stepped
  · cases stepped

theorem close_sound (reader : s.links[i + 1]? = some l) (stepped : s.stepClose i l = some t) :
    Move p s (.close i) t := by
  unfold stepClose at stepped
  split at stepped
  · next waits =>
    rw [StagePhase.isWaiting_iff] at waits
    split at stepped
    · next closed =>
      obtain ⟨input, found⟩ := take_found (by rw [closed]; simp)
      obtain ⟨drained, left⟩ := (take_closed found).mp closed
      cases stepped
      exact .close found reader waits drained left
    · cases stepped
  · cases stepped

theorem work_sound {stage : Stage α} (found : s.links[i + 1]? = some l) (staged : p.stages[i]? = some stage)
    (stepped : s.stepWork stage (i + 1) l = some t) : Move p s (.work i) t := by
  unfold stepWork at stepped
  split at stepped
  · next a holds =>
    split at stepped
    · next b worked => cases stepped; exact .work found staged holds worked
    · next failed => cases stepped; exact .panic found staged holds failed
  · cases stepped

theorem move_sound (stepped : s.step? p action = some t) : Move p s action t := by
  unfold step? at stepped
  cases action with
  | pull =>
    obtain ⟨l, found, stepped⟩ := Option.bind_eq_some_iff.mp stepped
    exact source_sound found stepped
  | accept i =>
    obtain ⟨l, reader, stepped⟩ := Option.bind_eq_some_iff.mp stepped
    exact accept_sound reader stepped
  | close i =>
    obtain ⟨l, reader, stepped⟩ := Option.bind_eq_some_iff.mp stepped
    exact close_sound reader stepped
  | work i =>
    obtain ⟨l, found, stepped⟩ := Option.bind_eq_some_iff.mp stepped
    obtain ⟨stage, staged, stepped⟩ := Option.bind_eq_some_iff.mp stepped
    exact work_sound found staged stepped
  | put i =>
    obtain ⟨l, found, stepped⟩ := Option.bind_eq_some_iff.mp stepped
    exact put_sound found stepped
  | pass i =>
    obtain ⟨l, found, stepped⟩ := Option.bind_eq_some_iff.mp stepped
    exact pass_sound found stepped
  | consume | seeClose | drop => exact consumer_sound stepped

theorem move_exact : s.step? p action = some t ↔ Move p s action t := ⟨move_sound, move_complete⟩

theorem runs_keep {P : PipelineState α → Prop} {path : List PipelineAction}
    (keeps : ∀ {s t action}, P s → Move p s action t → P t) (run : Runs p s path t) (first : P s) : P t := by
  induction run with
  | nil => exact first
  | cons stepped _ ih => exact ih (keeps first (move_sound stepped))

theorem runs_of_replay {path : List PipelineAction}
    (replayed : path.foldlM (fun s action => s.step? p action) s = some t) : Runs p s path t := by
  induction path generalizing s with
  | nil => cases replayed; exact .nil
  | cons action rest ih =>
    obtain ⟨next, stepped, replayed⟩ := Option.bind_eq_some_iff.mp replayed
    exact .cons stepped (ih replayed)

end PipelineState
end GuardedWork
