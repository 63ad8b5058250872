import GuardedWork.Proofs.Dispatcher.Alone
import Mathlib.Data.List.Basic

namespace GuardedWork

variable {α : Type}

-- As they are numbered behind the jobs dispatched before.
def Job.numbered (dispatched : Nat) (payloads : List α) : List (Job α) :=
  (payloads.zipIdx (dispatched + 1)).map fun (a, id) => ⟨id, a⟩

theorem Job.numbered_concat (dispatched : Nat) (payloads : List α) (a : α) :
    numbered dispatched (payloads ++ [a]) = numbered dispatched payloads ++ [⟨dispatched + payloads.length + 1, a⟩] := by
  rw [numbered, List.zipIdx_append, List.map_append, numbered]
  simp [Nat.add_right_comm]

namespace Source

def Begins (source : Source α) (payloads : List α) : Prop :=
  ∀ i a, payloads[i]? = some a → (source i).pulled = .item a

-- The first place where a source ends or panics, or gives an item behind which the token is found cancelled.
def StopsFirst (source : Source α) (looks : List Bool) (k : Nat) : Prop :=
  (∀ i < k, (∃ a, (source i).pulled = .item a) ∧ looks[i]? = some false) ∧
    ((source k).pulled = .ended ∨ (source k).pulled = .panicked ∨
      (∃ a, (source k).pulled = .item a) ∧ looks[k]? = some true)

theorem begins_concat {source : Source α} {payloads : List α} {a : α} (begins : source.Begins payloads)
    (item : (source payloads.length).pulled = .item a) : source.Begins (payloads ++ [a]) := by
  intro i b found
  rcases Nat.lt_trichotomy i payloads.length with before | rfl | behind
  · rw [List.getElem?_append_left before] at found
    exact begins i b found
  · rw [List.getElem?_concat_length] at found
    cases found
    exact item
  · have outside : (payloads ++ [a])[i]? = none := List.getElem?_eq_none (by rw [List.length_append]; exact behind)
    rw [outside] at found
    cases found

end Source

namespace DispatcherState

variable {source : Source α} {first s t : DispatcherState α} {action : DispatcherAction α}
  {path : List (DispatcherAction α)}

-- All the jobs that the queue has ever taken in.
def accepted (s : DispatcherState α) : List (Job α) := s.taken ++ s.dispatcher.jobs.items

-- What a look at the token finds.
def looks (s : DispatcherState α) : DispatcherAction α → List Bool
  | .check => [s.dispatcher.attached && s.dispatcher.cancelled]
  | _ => []

def looksOn : DispatcherState α → List (DispatcherAction α) → List Bool
  | _, [] => []
  | s, action :: rest => match s.step? action with
    | some t => s.looks action ++ looksOn t rest
    | none => []

inductive Shift (s t : DispatcherState α) (action : DispatcherAction α) : Prop where
  | kept (same : t.accepted = s.accepted) (count : t.dispatcher.dispatched = s.dispatcher.dispatched)
  | grown {source : Source α} {k : Nat} {a : α} (offers : s.stage = .offering source k a)
      (more : t.accepted = s.accepted ++ [⟨s.dispatcher.dispatched + 1, a⟩])
      (count : t.dispatcher.dispatched = s.dispatcher.dispatched + 1) (next : t.stage = .asking source (k + 1))
      (unlooked : s.looks action = [])

def Fits (s : DispatcherState α) : Prop := s.dispatcher.jobs.items.length ≤ s.dispatcher.jobs.capacity

theorem move_shift (fits : Fits s) (move : Move s action t) : Shift s t action := by
  cases move with
  | put offers => exact .grown offers (List.append_assoc ..).symm rfl rfl rfl
  | handOver offers bufferless =>
    have empty : s.dispatcher.jobs.items = [] := by
      rw [Fits, bufferless] at fits
      exact List.length_eq_zero_iff.mp (Nat.le_zero.mp fits)
    exact .grown offers (by simp [accepted, empty]) rfl rfl rfl
  | take present queued => exact .kept (by simp [accepted, setJobs, Dispatcher.setQueue, queued]) rfl
  | _ => exact .kept rfl rfl

theorem move_fits (fits : Fits s) (move : Move s action t) : Fits t := by
  cases move with
  | put offers heard room =>
    rw [Fits, List.length_append]
    exact Nat.succ_le_of_lt room
  | take present queued =>
    rw [Fits, queued] at fits
    exact Nat.le_of_succ_le fits
  | _ => exact fits

structure Counted (s : DispatcherState α) : Prop where
  fits : Fits s
  ids : s.accepted.map Job.id = List.range' 1 s.dispatcher.dispatched

theorem move_counted (counted : Counted s) (move : Move s action t) : Counted t := by
  refine ⟨move_fits counted.fits move, ?_⟩
  cases move_shift counted.fits move with
  | kept same count => rw [same, count, counted.ids]
  | grown offers more count =>
    rw [more, count, List.map_append, counted.ids, List.range'_1_concat, Nat.add_comm 1]
    rfl

theorem runs_counted {capacity : Nat} {attached cancelled : Bool} (run : Runs (start capacity attached cancelled) path s) :
    Counted s :=
  runs_keep move_counted run ⟨Nat.zero_le _, rfl⟩

-- Where a call stands that has put so many payloads, and what its looks have found.
def Stands (source : Source α) (found : List Bool) (k : Nat) (s : DispatcherState α) : Prop :=
  match s.stage with
  | .asking given count => given = source ∧ count = k ∧ found = List.replicate k false
  | .holding given count a =>
    given = source ∧ count = k ∧ found = List.replicate k false ∧ (source k).pulled = .item a
  | .offering given count a =>
    given = source ∧ count = k ∧ found = List.replicate (k + 1) false ∧ (source k).pulled = .item a
  | .idle none => False
  | .idle (some ending) =>
    (∀ n, ending = .done n → n = k) ∧
      (found = List.replicate k false ∧ ((source k).pulled = .ended ∨ (source k).pulled = .panicked) ∨
        found = List.replicate k false ++ [true] ∧ (∃ a, (source k).pulled = .item a) ∨
        found = List.replicate (k + 1) false ∧ (∃ a, (source k).pulled = .item a) ∧ ending = .refused ∧
          s.dispatcher.jobs.consumers = 0)

structure InCall (source : Source α) (first : DispatcherState α) (found : List Bool) (payloads : List α)
    (s : DispatcherState α) : Prop where
  accepted : s.accepted = first.accepted ++ Job.numbered first.dispatcher.dispatched payloads
  count : s.dispatcher.dispatched = first.dispatcher.dispatched + payloads.length
  begins : source.Begins payloads
  stands : Stands source found payloads.length s

theorem stands_beside {found : List Bool} {k : Nat} (stands : Stands source found k s) (stage : t.stage = s.stage)
    (vanished : s.dispatcher.jobs.consumers = 0 → t.dispatcher.jobs.consumers = 0) : Stands source found k t := by
  unfold Stands at stands ⊢
  rw [stage]
  split at stands
  · exact stands
  · exact stands
  · exact stands
  · exact stands
  · obtain ⟨count, halted | stopped | ⟨looked, item, refused, unheard⟩⟩ := stands
    · exact ⟨count, .inl halted⟩
    · exact ⟨count, .inr (.inl stopped)⟩
    · exact ⟨count, .inr (.inr ⟨looked, item, refused, vanished unheard⟩)⟩

theorem grown_in_call {given : Source α} {found : List Bool} {payloads : List α} {k : Nat} {a : α}
    (call : InCall source first found payloads s) (offers : s.stage = .offering given k a)
    (more : t.accepted = s.accepted ++ [⟨s.dispatcher.dispatched + 1, a⟩])
    (count : t.dispatcher.dispatched = s.dispatcher.dispatched + 1) (next : t.stage = .asking given (k + 1)) :
    InCall source first found (payloads ++ [a]) t := by
  have stands := call.stands
  simp only [Stands, offers] at stands
  obtain ⟨rfl, rfl, looked, item⟩ := stands
  refine ⟨?_, ?_, Source.begins_concat call.begins item, ?_⟩
  · rw [more, call.accepted, Job.numbered_concat, call.count, List.append_assoc]
  · rw [count, call.count, List.length_append]
    rfl
  · unfold Stands
    rw [next, List.length_append]
    exact ⟨rfl, rfl, looked⟩

theorem move_in_call {found : List Bool} {payloads : List α} (fits : Fits s)
    (call : InCall source first found payloads s) (move : Move s action t) (within : action.isCall = false) :
    ∃ more, InCall source first (found ++ s.looks action) more t := by
  cases move_shift fits move with
  | grown offers more count next unlooked =>
    rw [unlooked, List.append_nil]
    exact ⟨_, grown_in_call call offers more count next⟩
  | kept same count =>
    have still : ∀ {later}, found ++ s.looks action = later → Stands source later payloads.length t →
        ∃ more, InCall source first (found ++ s.looks action) more t := by
      rintro _ rfl stands
      exact ⟨payloads, same.trans call.accepted, count.trans call.count, call.begins, stands⟩
    have quiet : s.looks action = [] → Stands source found payloads.length t →
        ∃ more, InCall source first (found ++ s.looks action) more t :=
      fun unlooked => still (by rw [unlooked, List.append_nil])
    have stands := call.stands
    cases move with
    | call => cases within
    | pullItem asks pulled =>
      simp only [Stands, asks] at stands
      obtain ⟨rfl, rfl, looked⟩ := stands
      exact quiet rfl ⟨rfl, rfl, looked, pulled⟩
    | pullEnd asks pulled =>
      simp only [Stands, asks] at stands
      obtain ⟨rfl, rfl, looked⟩ := stands
      refine quiet rfl ⟨?_, .inl ⟨looked, .inl pulled⟩⟩
      intro n same
      exact (DispatchEnd.done.inj same).symm
    | pullPanic asks pulled =>
      simp only [Stands, asks] at stands
      obtain ⟨rfl, rfl, looked⟩ := stands
      exact quiet rfl ⟨nofun, .inl ⟨looked, .inr pulled⟩⟩
    | stop holds set =>
      simp only [Stands, holds] at stands
      obtain ⟨rfl, rfl, looked, item⟩ := stands
      refine still rfl ⟨?_, .inr (.inl ⟨by rw [looks, set, looked], _, item⟩)⟩
      intro n same
      exact (DispatchEnd.done.inj same).symm
    | offer holds unset =>
      simp only [Stands, holds] at stands
      obtain ⟨rfl, rfl, looked, item⟩ := stands
      exact still rfl ⟨rfl, rfl, by rw [looks, unset, looked, List.replicate_succ'], item⟩
    | refused offers unheard =>
      simp only [Stands, offers] at stands
      obtain ⟨rfl, rfl, looked, item⟩ := stands
      exact quiet rfl ⟨nofun, .inr (.inr ⟨looked, ⟨_, item⟩, rfl, unheard⟩)⟩
    | put | handOver => simp at count
    | take present | cloneConsumer present | dropConsumer present =>
      exact quiet rfl (stands_beside stands rfl fun unheard => absurd unheard present)
    | cancel => exact quiet rfl (stands_beside stands rfl id)

theorem runs_in_call {found : List Bool} {payloads : List α} (run : Runs s path t) (fits : Fits s)
    (call : InCall source first found payloads s) (within : ∀ action ∈ path, action.isCall = false) :
    ∃ more, InCall source first (found ++ looksOn s path) more t := by
  induction run generalizing found payloads with
  | nil => exact ⟨payloads, by rwa [looksOn, List.append_nil]⟩
  | @cons s t u action rest stepped _ ih =>
    have move := move_sound stepped
    obtain ⟨next, call⟩ := move_in_call fits call move (within action List.mem_cons_self)
    obtain ⟨more, ended⟩ := ih (move_fits fits move) call fun x inside => within x (List.mem_cons_of_mem _ inside)
    rw [List.append_assoc] at ended
    refine ⟨more, ?_⟩
    rwa [looksOn, stepped]

theorem ended_stops {found : List Bool} {payloads : List α} {ending : DispatchEnd}
    (call : InCall source first found payloads s) (ended : s.stage = .idle (some ending)) :
    (∀ n, ending = .done n → n = payloads.length) ∧
      (source.StopsFirst found payloads.length ∨
        ending = .refused ∧ s.dispatcher.jobs.consumers = 0 ∧ ∃ a, (source payloads.length).pulled = .item a) := by
  have stands := call.stands
  simp only [Stands, ended] at stands
  have before : ∀ i < payloads.length, (∃ a, (source i).pulled = .item a) :=
    fun i inside => ⟨_, call.begins i _ (List.getElem?_eq_getElem inside)⟩
  have looked : ∀ i < payloads.length, (List.replicate payloads.length false)[i]? = some false :=
    fun i inside => by rw [List.getElem?_replicate, if_pos inside]
  obtain ⟨count, ⟨rfl, halted⟩ | ⟨rfl, item⟩ | ⟨_, item, refused, unheard⟩⟩ := stands
  · refine ⟨count, .inl ⟨fun i inside => ⟨before i inside, looked i inside⟩, ?_⟩⟩
    rcases halted with ended | panicked
    · exact .inl ended
    · exact .inr (.inl panicked)
  · refine ⟨count, .inl ⟨?_, .inr (.inr ⟨item, ?_⟩)⟩⟩
    · intro i inside
      refine ⟨before i inside, ?_⟩
      rw [List.getElem?_append_left (by simpa using inside)]
      exact looked i inside
    · rw [List.getElem?_append_right (by simp)]
      simp
  · exact ⟨count, .inr ⟨refused, unheard, item⟩⟩

theorem call_numbered {called : DispatcherState α} {later : List (DispatcherAction α)} {ending : DispatchEnd}
    (counted : Counted s) (stepped : s.step? (.call source) = some called) (during : Runs called later t)
    (within : ∀ action ∈ later, action.isCall = false) (ended : t.stage = .idle (some ending)) :
    ∃ payloads, InCall source s (looksOn called later) payloads t ∧ (∀ n, ending = .done n → n = payloads.length) ∧
      (source.StopsFirst (looksOn called later) payloads.length ∨
        ending = .refused ∧ t.dispatcher.jobs.consumers = 0 ∧ ∃ a, (source payloads.length).pulled = .item a) := by
  have move := move_sound stepped
  have opened : InCall source s [] [] called := by
    cases move with
    | call => exact ⟨(List.append_nil _).symm, rfl, nofun, rfl, rfl, rfl⟩
  obtain ⟨payloads, call⟩ := runs_in_call during (move_fits counted.fits move) opened within
  rw [List.nil_append] at call
  exact ⟨payloads, call, ended_stops call ended⟩

-- A count is a call like any other. A call that is refused has lost the payload in its hands, but no number.
theorem numbering_survives_every_exit {capacity : Nat} {attached cancelled : Bool}
    (run : Runs (start capacity attached cancelled) path s) :
    s.accepted.map Job.id = List.range' 1 s.dispatcher.dispatched ∧ s.accepted.length = s.dispatcher.dispatched ∧
      ∀ source called later t ending, s.step? (.call source) = some called → Runs called later t →
        (∀ action ∈ later, action.isCall = false) → t.stage = .idle (some ending) →
        ∃ payloads, t.accepted = s.accepted ++ Job.numbered s.dispatcher.dispatched payloads ∧
          t.dispatcher.dispatched = s.dispatcher.dispatched + payloads.length ∧ source.Begins payloads ∧
          (∀ n, ending = .done n → n = payloads.length) ∧
          (source.StopsFirst (looksOn called later) payloads.length ∨
            ending = .refused ∧ t.dispatcher.jobs.consumers = 0 ∧
              ∃ a, (source payloads.length).pulled = .item a) := by
  have counted := runs_counted run
  refine ⟨counted.ids, by simpa using congrArg List.length counted.ids, ?_⟩
  intro source called later t ending stepped during within ended
  obtain ⟨payloads, call, ends⟩ := call_numbered counted stepped during within ended
  exact ⟨payloads, call.accepted, call.count, call.begins, ends⟩

-- Four calls with four exits: the source ends, the source panics, the last consumer goes, the token is cancelled.
def brokenSource : Source Int := (Source.ofList [7, 8]).panickingAt (some 1)

def troubledFirst : List (DispatcherAction Int) := [.callCount 2, .pull, .check, .put, .pull, .check, .put, .pull]

def troubledSecond : List (DispatcherAction Int) := [.pull, .check, .take, .put, .pull]

def troubledRest : List (DispatcherAction Int) :=
  [.take, .call (.ofList [9]), .pull, .check, .dropConsumer, .put, .call (.ofList [10]), .pull, .cancel, .check]

def troubledAt (path : List (DispatcherAction Int)) : DispatcherState Int :=
  let state? := path.foldlM (fun s action => DispatcherState.step? action s) (start 2 true false)
  state?.getD (start 2 true false)

theorem troubled_numbering :
    Runs (start 2 true false) troubledFirst (troubledAt troubledFirst) ∧
      Runs (start 2 true false) (troubledFirst ++ .call brokenSource :: troubledSecond ++ troubledRest)
        (troubledAt (troubledFirst ++ .call brokenSource :: troubledSecond ++ troubledRest)) ∧
      (troubledAt (troubledFirst ++ .call brokenSource :: troubledSecond ++ troubledRest)).accepted.map Job.id = [1, 2, 3] ∧
      ∃ payloads, (troubledAt (troubledFirst ++ .call brokenSource :: troubledSecond)).accepted =
          (troubledAt troubledFirst).accepted ++ Job.numbered 2 payloads ∧
        brokenSource.Begins payloads ∧ payloads.length = 1 := by
  have first : Runs (start 2 true false) troubledFirst (troubledAt troubledFirst) := runs_of_replay rfl
  have whole : Runs (start 2 true false) (troubledFirst ++ .call brokenSource :: troubledSecond ++ troubledRest)
      (troubledAt (troubledFirst ++ .call brokenSource :: troubledSecond ++ troubledRest)) := runs_of_replay rfl
  have stepped : (troubledAt troubledFirst).step? (.call brokenSource) =
      some (troubledAt (troubledFirst ++ [.call brokenSource])) := rfl
  have during : Runs (troubledAt (troubledFirst ++ [.call brokenSource])) troubledSecond
      (troubledAt (troubledFirst ++ .call brokenSource :: troubledSecond)) := runs_of_replay rfl
  have within : ∀ action ∈ troubledSecond, action.isCall = false := by simp [troubledSecond, DispatcherAction.isCall]
  obtain ⟨payloads, accepted, count, begins, _⟩ :=
    (numbering_survives_every_exit first).2.2 brokenSource _ troubledSecond _ _ stepped during within rfl
  exact ⟨first, whole, (numbering_survives_every_exit whole).1, payloads, accepted, begins, (Nat.add_left_cancel count).symm⟩

-- What is carried out at one go adds its jobs at the end of the queue.
theorem dispatch_numbers {capacity : Nat} {attached cancelled : Bool} {called : DispatcherState α} {r : Dispatched α}
    (run : Runs (start capacity attached cancelled) path s) (stepped : s.step? (.call source) = some called)
    (ran : s.dispatcher.dispatch source = some r) :
    ∃ payloads, r.dispatcher.jobs.items = s.dispatcher.jobs.items ++ Job.numbered s.dispatcher.dispatched payloads ∧
      r.dispatcher.dispatched = s.dispatcher.dispatched + payloads.length ∧ source.Begins payloads ∧
      ∀ n, r.ending = .done n → n = payloads.length := by
  obtain ⟨later, t, during, within, ended, same, taken⟩ := dispatch_is_call stepped ran
  obtain ⟨payloads, call, count, _⟩ := call_numbered (runs_counted run) stepped during within ended
  have accepted := call.accepted
  rw [DispatcherState.accepted, DispatcherState.accepted, taken, same, List.append_assoc] at accepted
  exact ⟨payloads, List.append_cancel_left accepted, same ▸ call.count, call.begins, count⟩

end DispatcherState
end GuardedWork
