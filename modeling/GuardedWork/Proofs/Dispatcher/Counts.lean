import GuardedWork.Proofs.Dispatcher.Numbering

namespace GuardedWork

namespace Source

variable {last : Int} {i : Nat} {payloads : List Int}

-- The payloads of that many jobs.
def countedTo (n : Nat) : List Int := (List.range' 1 n).map Int.ofNat

theorem upTo_item {a : Int} : (upTo last i).pulled = .item a ↔ (i : Int) + 1 ≤ last ∧ (i : Int) + 1 = a := by
  unfold upTo
  split
  · next inside => simp [inside]
  · next outside => simp [outside]

theorem upTo_unpanicked : (upTo last i).pulled ≠ .panicked := by
  unfold upTo
  split <;> simp

theorem upTo_ended : (upTo last i).pulled = .ended ↔ last < (i : Int) + 1 := by
  unfold upTo
  split <;> simp_all

theorem upTo_begins (begins : (upTo last).Begins payloads) : payloads = countedTo payloads.length := by
  apply List.ext_getElem (by simp [countedTo])
  intro i inside _
  have item := upTo_item.mp (begins i _ (List.getElem?_eq_getElem inside))
  simp only [countedTo, List.getElem_map, List.getElem_range', Int.ofNat_eq_natCast]
  omega

-- Where the first payloads end with the source, they are all there are.
theorem upTo_exhausted (begins : (upTo last).Begins payloads) (ended : (upTo last payloads.length).pulled = .ended) :
    payloads.length = last.toNat := by
  have behind := upTo_ended.mp ended
  rcases Nat.eq_zero_or_pos payloads.length with none | some
  · omega
  · have inside : payloads.length - 1 < payloads.length := Nat.sub_one_lt (Nat.ne_of_gt some)
    have item := upTo_item.mp (begins _ _ (List.getElem?_eq_getElem inside))
    omega

end Source

namespace DispatcherState

variable {α : Type} {s t called : DispatcherState α} {action : DispatcherAction α}
  {path later : List (DispatcherAction α)} {source : Source α}

theorem move_attached (move : Move s action t) : t.dispatcher.attached = s.dispatcher.attached := by
  cases move <;> rfl

theorem unattached_looks (run : Runs s path t) (unattached : s.dispatcher.attached = false) :
    ∀ found ∈ looksOn s path, found = false := by
  induction run with
  | nil => simp [looksOn]
  | @cons s t u action rest stepped _ ih =>
    rw [looksOn, stepped]
    intro found inside
    rcases List.mem_append.mp inside with here | further
    · cases action <;> simp_all [looks]
    · exact ih ((move_attached (move_sound stepped)).trans unattached) found further

-- Without a token a call that gives back a count has come to the end of its payloads.
theorem done_exhausts {capacity m : Nat} {cancelled : Bool} (run : Runs (start capacity false cancelled) path s)
    (stepped : s.step? (.call source) = some called) (during : Runs called later t)
    (within : ∀ action ∈ later, action.isCall = false) (ended : t.stage = .idle (some (.done m))) :
    ∃ payloads, m = payloads.length ∧ t.accepted = s.accepted ++ Job.numbered s.dispatcher.dispatched payloads ∧
      t.dispatcher.dispatched = s.dispatcher.dispatched + m ∧ source.Begins payloads ∧
      ((source payloads.length).pulled = .ended ∨ (source payloads.length).pulled = .panicked) := by
  obtain ⟨payloads, call, count, stops⟩ := call_numbered (runs_counted run) stepped during within ended
  obtain rfl := count m rfl
  refine ⟨payloads, rfl, call.accepted, call.count, call.begins, ?_⟩
  have unattached : s.dispatcher.attached = false :=
    runs_keep (P := fun s => s.dispatcher.attached = false) (fun before move => (move_attached move).trans before) run rfl
  have looks := unattached_looks during ((move_attached (move_sound stepped)).trans unattached)
  obtain ⟨_, halted | panicked | ⟨_, found⟩⟩ | ⟨refused, _⟩ := stops
  · exact .inl halted
  · exact .inr panicked
  · cases looks _ (List.mem_of_getElem? found)
  · cases refused

variable {count : UInt64} {first counting last : DispatcherState Int} {before within : List (DispatcherAction Int)}

theorem signedCount_low {n : Nat} (low : n < UInt64.size / 2) : signedCount n = n := if_pos low

theorem signedCount_high (high : UInt64.size / 2 ≤ count.toNat) : (signedCount count.toNat).toNat = 0 := by
  have bound : count.toNat < UInt64.size := count.toNat_lt
  rw [signedCount, if_neg (Nat.not_lt.mpr high)]
  exact Int.toNat_eq_zero.mpr (by omega)

theorem counted_as_signed {capacity m : Nat} {cancelled : Bool} (run : Runs (start capacity false cancelled) before first)
    (stepped : first.step? (.callCount count.toNat) = some counting) (during : Runs counting within last)
    (uncalled : ∀ action ∈ within, action.isCall = false) (ended : last.stage = .idle (some (.done m))) :
    m = (signedCount count.toNat).toNat ∧ last.dispatcher.dispatched = first.dispatcher.dispatched + m ∧
      last.accepted = first.accepted ++ Job.numbered first.dispatcher.dispatched (Source.countedTo m) ∧
      (count.toNat < UInt64.size / 2 → m = count.toNat) ∧ (UInt64.size / 2 ≤ count.toNat → m = 0) := by
  obtain ⟨payloads, rfl, accepted, grown, begins, halted⟩ := done_exhausts run stepped during uncalled ended
  have exhausted : (countSource count.toNat payloads.length).pulled = .ended :=
    halted.resolve_right Source.upTo_unpanicked
  have whole : payloads.length = (signedCount count.toNat).toNat := Source.upTo_exhausted begins exhausted
  refine ⟨whole, grown, ?_, ?_, ?_⟩
  · rw [accepted, ← Source.upTo_begins begins]
  · intro low
    rw [whole, signedCount_low low, Int.toNat_natCast]
  · intro high
    rw [whole, signedCount_high high]

-- The first count of the upper half, where there is room for jobs.
def hugeCount : UInt64 := 9223372036854775808

theorem huge_count_dispatches_nothing : ∃ called t : DispatcherState Int,
    (start 2 false false).step? (.callCount hugeCount.toNat) = some called ∧ Runs called [.pull] t ∧
      t.stage = .idle (some (.done 0)) ∧ t.dispatcher.dispatched = 0 ∧ t.accepted = [] ∧ ¬0 = hugeCount.toNat := by
  have called : (start 2 false false).step? (.callCount hugeCount.toNat) = some _ := rfl
  exact ⟨_, _, called, .cons rfl .nil, rfl, rfl, rfl, by decide⟩

-- Three jobs in two calls through a queue for one, with a consumer that makes room now and then. Nobody looks at
-- the token that is cancelled.
def tightFirst : List (DispatcherAction Int) := [.callCount 1, .pull, .check, .put, .pull]

def tightSecond : List (DispatcherAction Int) :=
  [.pull, .check, .take, .put, .pull, .check, .cancel, .cloneConsumer, .take, .put, .dropConsumer, .pull]

def tightAt (path : List (DispatcherAction Int)) : DispatcherState Int :=
  (path.foldlM (fun s action => DispatcherState.step? action s) (start 1 false false)).getD (start 1 false false)

theorem tight_counts :
    let first := tightAt tightFirst
    let last := tightAt (tightFirst ++ .callCount 2 :: tightSecond)
    Runs (start 1 false false) tightFirst first ∧ first.dispatcher.dispatched = 1 ∧
      last.stage = .idle (some (.done 2)) ∧ last.dispatcher.dispatched = 1 + 2 ∧
      last.accepted = first.accepted ++ Job.numbered 1 [1, 2] := by
  intro first last
  have run : Runs (start 1 false false) tightFirst first := runs_of_replay rfl
  have stepped : first.step? (.callCount (2 : UInt64).toNat) = some (tightAt (tightFirst ++ [.callCount 2])) := rfl
  have during : Runs (tightAt (tightFirst ++ [.callCount 2])) tightSecond last := runs_of_replay rfl
  have uncalled : ∀ action ∈ tightSecond, action.isCall = false := by simp [tightSecond, DispatcherAction.isCall]
  obtain ⟨_, grown, accepted, _, _⟩ := counted_as_signed run stepped during uncalled rfl
  exact ⟨run, rfl, rfl, grown, accepted⟩

end DispatcherState
end GuardedWork
