import GuardedWork.Dispatcher.State

namespace GuardedWork

variable {α : Type}

namespace DispatcherState

variable {s t u : DispatcherState α} {action : DispatcherAction α} {path later : List (DispatcherAction α)}

inductive Move (s : DispatcherState α) : DispatcherAction α → DispatcherState α → Prop where
  | call {source : Source α} {last : Option DispatchEnd} (idles : s.stage = .idle last) :
      Move s (.call source) { s with stage := .asking source 0 }
  | pullItem {source : Source α} {count : Nat} {a : α} (asks : s.stage = .asking source count)
      (pulled : (source count).pulled = .item a) :
      Move s .pull { s with
        stage := .holding source count a
        dispatcher := { s.dispatcher with cancelled := s.dispatcher.cancelled || (source count).cancels } }
  | pullEnd {source : Source α} {count : Nat} (asks : s.stage = .asking source count)
      (pulled : (source count).pulled = .ended) :
      Move s .pull { s with
        stage := .idle (some (.done count))
        dispatcher := { s.dispatcher with cancelled := s.dispatcher.cancelled || (source count).cancels } }
  | pullPanic {source : Source α} {count : Nat} (asks : s.stage = .asking source count)
      (pulled : (source count).pulled = .panicked) :
      Move s .pull { s with
        stage := .idle (some .panicked)
        dispatcher := { s.dispatcher with cancelled := s.dispatcher.cancelled || (source count).cancels } }
  | stop {source : Source α} {count : Nat} {a : α} (holds : s.stage = .holding source count a)
      (found : (s.dispatcher.attached && s.dispatcher.cancelled) = true) :
      Move s .check { s with
        stage := .idle (some (.done count))
        records := s.records ++ [Dispatcher.cancelledRecord s.dispatcher.dispatched] }
  | offer {source : Source α} {count : Nat} {a : α} (holds : s.stage = .holding source count a)
      (unstopped : (s.dispatcher.attached && s.dispatcher.cancelled) = false) :
      Move s .check { s with stage := .offering source count a }
  | put {source : Source α} {count : Nat} {a : α} (offers : s.stage = .offering source count a)
      (heard : s.dispatcher.jobs.consumers ≠ 0) (room : s.dispatcher.jobs.items.length < s.dispatcher.jobs.capacity) :
      Move s .put { s with
        stage := .asking source (count + 1)
        dispatcher := { s.dispatcher with
          jobs := { s.dispatcher.jobs with items := s.dispatcher.jobs.items ++ [⟨s.dispatcher.dispatched + 1, a⟩] }
          dispatched := s.dispatcher.dispatched + 1 } }
  | refused {source : Source α} {count : Nat} {a : α} (offers : s.stage = .offering source count a)
      (unheard : s.dispatcher.jobs.consumers = 0) : Move s .put { s with stage := .idle (some .refused) }
  | handOver {source : Source α} {count : Nat} {a : α} (offers : s.stage = .offering source count a)
      (bufferless : s.dispatcher.jobs.capacity = 0) (heard : s.dispatcher.jobs.consumers ≠ 0) :
      Move s .handOver { s with
        stage := .asking source (count + 1)
        dispatcher := { s.dispatcher with dispatched := s.dispatcher.dispatched + 1 }
        taken := s.taken ++ [⟨s.dispatcher.dispatched + 1, a⟩] }
  | take {job : Job α} {rest : List (Job α)} (present : s.dispatcher.jobs.consumers ≠ 0)
      (queued : s.dispatcher.jobs.items = job :: rest) :
      Move s .take { s.setJobs { s.dispatcher.jobs with items := rest } with taken := s.taken ++ [job] }
  | cloneConsumer (present : s.dispatcher.jobs.consumers ≠ 0) :
      Move s .cloneConsumer (s.setJobs { s.dispatcher.jobs with consumers := s.dispatcher.jobs.consumers + 1 })
  | dropConsumer (present : s.dispatcher.jobs.consumers ≠ 0) :
      Move s .dropConsumer (s.setJobs s.dispatcher.jobs.dropConsumer)
  | cancel : Move s .cancel { s with dispatcher := s.dispatcher.cancel }

theorem move_complete (move : Move s action t) : s.step? action = some t := by
  cases move with
  | put offers heard room => simp [step?, stepDispatch, offers, Queue.put, Queue.hasRoom, heard, room]
  | refused offers unheard => simp [step?, stepDispatch, offers, Queue.put, unheard]
  | take present queued => simp [step?, present, Queue.take, queued]
  | _ => simp_all [step?, stepDispatch]

theorem dispatch_sound (stepped : s.stepDispatch action = some t) : Move s action t := by
  unfold stepDispatch at stepped
  dsimp only at stepped
  split at stepped
  · next idles => cases stepped; exact .call idles
  · next asks =>
    split at stepped
    · next pulled => cases stepped; exact .pullItem asks pulled
    · next pulled => cases stepped; exact .pullEnd asks pulled
    · next pulled => cases stepped; exact .pullPanic asks pulled
  · next holds =>
    split at stepped
    · next found => cases stepped; exact .stop holds found
    · next unstopped => cases stepped; exact .offer holds (Bool.eq_false_iff.mpr unstopped)
  · next offers =>
    split at stepped
    · next accepted =>
      cases stepped
      obtain ⟨heard, room, rfl⟩ := Queue.put_eq_accepted.mp accepted
      exact .put offers heard room
    · next refused => cases stepped; exact .refused offers (Queue.put_eq_refused.mp refused)
    · cases stepped
  · next offers =>
    split at stepped
    · next free => cases stepped; exact .handOver offers free.1 free.2
    · cases stepped
  · cases stepped

theorem move_sound (stepped : s.step? action = some t) : Move s action t := by
  cases action with
  | call | pull | check | put | handOver => exact dispatch_sound stepped
  | take =>
    simp only [step?] at stepped
    split at stepped
    · cases stepped
    · next present =>
      split at stepped
      · next taken =>
        cases stepped
        obtain ⟨rest, queued, rfl⟩ := Queue.take_eq_item.mp taken
        exact .take present queued
      · cases stepped
  | cloneConsumer =>
    simp only [step?] at stepped
    split at stepped
    · cases stepped
    · next present => cases stepped; exact .cloneConsumer present
  | dropConsumer =>
    simp only [step?] at stepped
    split at stepped
    · cases stepped
    · next present => cases stepped; exact .dropConsumer present
  | cancel => cases stepped; exact .cancel

theorem move_exact : s.step? action = some t ↔ Move s action t := ⟨move_sound, move_complete⟩

theorem runs_keep {P : DispatcherState α → Prop} (keeps : ∀ {s t action}, P s → Move s action t → P t)
    (run : Runs s path t) (first : P s) : P t := by
  induction run with
  | nil => exact first
  | cons stepped _ ih => exact ih (keeps first (move_sound stepped))

theorem runs_of_replay (replayed : path.foldlM (fun s action => DispatcherState.step? action s) s = some t) :
    Runs s path t := by
  induction path generalizing s with
  | nil => cases replayed; exact .nil
  | cons action rest ih =>
    obtain ⟨next, stepped, replayed⟩ := Option.bind_eq_some_iff.mp replayed
    exact .cons stepped (ih replayed)

end DispatcherState
end GuardedWork
