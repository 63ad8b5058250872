import GuardedWork.Proofs.Dispatcher.Moves

namespace GuardedWork

variable {α : Type}

namespace DispatcherState

variable {source : Source α} {d : Dispatcher α} {s t u called : DispatcherState α} {count fuel : Nat}
  {taken : List (Job α)} {records : List LogRecord}

-- What the dispatcher itself does next in its call.
def next? (s : DispatcherState α) : Option (DispatcherAction α) :=
  match s.stage with
  | .idle _ => none
  | .asking _ _ => some .pull
  | .holding _ _ _ => some .check
  | .offering _ _ _ => some .put

def advance? (s : DispatcherState α) : Option (DispatcherState α) := s.next?.bind fun action => s.step? action

-- To the end of the call, or to a put that waits.
inductive Alone : DispatcherState α → DispatcherState α → Prop where
  | rest {s : DispatcherState α} (stuck : s.advance? = none) : Alone s s
  | step {s t u : DispatcherState α} (stepped : s.advance? = some t) (further : Alone t u) : Alone s u

-- What a call gives back, with the records there were before; none before its end.
def dispatched? (s : DispatcherState α) : Option (Dispatched α) :=
  match s.stage with
  | .idle (some ending) => some ⟨ending, s.dispatcher, s.records⟩
  | _ => none

theorem alone_unique (one : Alone s t) (two : Alone s u) : t = u := by
  induction one with
  | rest stuck =>
    cases two with
    | rest => rfl
    | step stepped =>
      rw [stuck] at stepped
      cases stepped
  | step stepped _ ih =>
    cases two with
    | rest stuck =>
      rw [stuck] at stepped
      cases stepped
    | step also further =>
      rw [stepped] at also
      cases also
      exact ih further

theorem alone_runs (alone : Alone s t) : ∃ path, Runs s path t ∧ ∀ action ∈ path, action.isCall = false := by
  induction alone with
  | rest => exact ⟨[], .nil, nofun⟩
  | @step s t u stepped _ ih =>
    obtain ⟨action, next, stepped⟩ := Option.bind_eq_some_iff.mp stepped
    obtain ⟨path, run, within⟩ := ih
    refine ⟨action :: path, .cons stepped run, ?_⟩
    intro x inside
    rcases List.mem_cons.mp inside with rfl | later
    · unfold next? at next
      split at next <;> cases next <;> rfl
    · exact within x later

theorem advances {action : DispatcherAction α} (next : s.next? = some action) (move : Move s action t) :
    s.advance? = some t := by
  rw [advance?, next]
  exact move_complete move

-- Each round but the last takes a place in the queue, so that the rounds do not run out.
theorem dispatchFrom_alone (enough : d.jobs.capacity - d.jobs.items.length < fuel) :
    ∃ s, Alone ⟨d, .asking source count, taken, records⟩ s ∧ s.taken = taken ∧ s.dispatched? =
      (d.dispatchFrom source fuel count).map fun r => { r with records := records ++ r.records } := by
  induction fuel generalizing count d with
  | zero => cases enough
  | succ fuel ih =>
    rw [Dispatcher.dispatchFrom]
    let heard : Dispatcher α := { d with cancelled := d.cancelled || (source count).cancels }
    dsimp only
    split
    · next ended =>
      exact ⟨_, .step (advances rfl (.pullEnd rfl ended)) (.rest rfl), rfl, by simp [dispatched?]⟩
    · next panicked =>
      exact ⟨_, .step (advances rfl (.pullPanic rfl panicked)) (.rest rfl), rfl, by simp [dispatched?]⟩
    · next a item =>
      have pulls : advance? ⟨d, .asking source count, taken, records⟩ =
          some ⟨heard, .holding source count a, taken, records⟩ := advances rfl (.pullItem rfl item)
      split
      · next found =>
        exact ⟨_, .step pulls (.step (advances rfl (.stop rfl found)) (.rest rfl)), rfl, by simp [dispatched?, heard]⟩
      · next unstopped =>
        have offers : advance? ⟨heard, .holding source count a, taken, records⟩ =
            some ⟨heard, .offering source count a, taken, records⟩ :=
          advances rfl (.offer rfl (Bool.eq_false_iff.mpr unstopped))
        split
        · next accepted =>
          obtain ⟨present, room, rfl⟩ := Queue.put_eq_accepted.mp accepted
          let fuller : Dispatcher α := { heard with
            jobs := { d.jobs with items := d.jobs.items ++ [⟨d.dispatched + 1, a⟩] }, dispatched := d.dispatched + 1 }
          have puts : advance? ⟨heard, .offering source count a, taken, records⟩ =
              some ⟨fuller, .asking source (count + 1), taken, records⟩ := advances rfl (.put rfl present room)
          have longer : fuller.jobs.items.length = d.jobs.items.length + 1 := List.length_append
          have remaining : fuller.jobs.capacity - fuller.jobs.items.length < fuel := by
            show d.jobs.capacity - fuller.jobs.items.length < fuel
            omega
          have further : ∃ s, Alone ⟨fuller, .asking source (count + 1), taken, records⟩ s ∧ s.taken = taken ∧
              s.dispatched? = (fuller.dispatchFrom source fuel (count + 1)).map fun r =>
                { r with records := records ++ r.records } := ih remaining
          obtain ⟨s, alone, same⟩ := further
          exact ⟨s, .step pulls (.step offers (.step puts alone)), same⟩
        · next refused =>
          have unheard := Queue.put_eq_refused.mp refused
          refine ⟨_, .step pulls (.step offers (.step (advances rfl (.refused rfl unheard)) (.rest rfl))), rfl, ?_⟩
          simp [dispatched?, heard]
        · next blocks =>
          have waits : advance? ⟨heard, .offering source count a, taken, records⟩ = none := by
            simp [advance?, next?, step?, stepDispatch, heard, blocks]
          exact ⟨_, .step pulls (.step offers (.rest waits)), rfl, rfl⟩

theorem dispatch_alone (stepped : s.step? (.call source) = some called) :
    ∃ t, Alone called t ∧ t.taken = s.taken ∧ t.dispatched? =
      (s.dispatcher.dispatch source).map fun r => { r with records := s.records ++ r.records } := by
  cases move_sound stepped with
  | call => exact dispatchFrom_alone (Nat.lt_succ_self _)

theorem dispatch_exact (stepped : s.step? (.call source) = some called) (alone : Alone called t) : t.dispatched? =
    (s.dispatcher.dispatch source).map fun r => { r with records := s.records ++ r.records } := by
  obtain ⟨u, also, _, same⟩ := dispatch_alone stepped
  rw [alone_unique alone also, same]

-- So a call that is carried out is one of those that others may act in.
theorem dispatch_is_call {r : Dispatched α} (stepped : s.step? (.call source) = some called)
    (ran : s.dispatcher.dispatch source = some r) :
    ∃ later t, Runs called later t ∧ (∀ action ∈ later, action.isCall = false) ∧ t.stage = .idle (some r.ending) ∧
      t.dispatcher = r.dispatcher ∧ t.taken = s.taken := by
  obtain ⟨t, alone, taken, same⟩ := dispatch_alone stepped
  obtain ⟨later, during, within⟩ := alone_runs alone
  refine ⟨later, t, during, within, ?_⟩
  rw [ran, dispatched?] at same
  split at same
  · next ending ended =>
    obtain ⟨rfl, dispatcher, _⟩ := Dispatched.mk.inj (Option.some.inj same)
    exact ⟨ended, dispatcher, taken⟩
  · cases same

end DispatcherState
end GuardedWork
