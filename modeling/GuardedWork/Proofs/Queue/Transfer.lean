import GuardedWork.Queue.Transfer

namespace GuardedWork.Transfer

variable {α : Type} {t u : Transfer α} {action : Action}

-- From the first to the last of all items there are.
def whole (t : Transfer α) : List α := t.got ++ t.queue.items ++ t.toPut

inductive Move (t : Transfer α) : Action → Transfer α → Prop where
  | put {a : α} {rest : List α} (toPut : t.toPut = a :: rest) (heard : t.queue.consumers ≠ 0)
      (room : t.queue.items.length < t.queue.capacity) :
      Move t .put { t with queue := { t.queue with items := t.queue.items ++ [a] }, toPut := rest }
  | take {a : α} {rest : List α} {n : Nat} (toTake : t.toTake = n + 1) (queued : t.queue.items = a :: rest) :
      Move t .take { t with queue := { t.queue with items := rest }, toTake := n, got := t.got ++ [a] }
  | handOver {a : α} {rest : List α} {n : Nat} (toPut : t.toPut = a :: rest) (toTake : t.toTake = n + 1)
      (bufferless : t.queue.capacity = 0) :
      Move t .handOver { t with toPut := rest, toTake := n, got := t.got ++ [a] }

theorem move_complete (move : Move t action u) : step? action t = some u := by
  cases move with
  | put toPut heard room => simp [step?, toPut, Queue.put, Queue.hasRoom, heard, room]
  | take toTake queued => simp [step?, toTake, Queue.take, queued]
  | handOver toPut toTake bufferless => simp [step?, toPut, toTake, bufferless]

theorem move_sound (stepped : step? action t = some u) : Move t action u := by
  cases action with
  | put =>
    simp only [step?] at stepped
    split at stepped
    · cases stepped
    · next a rest toPut =>
      split at stepped
      · next q put =>
        obtain ⟨heard, room, rfl⟩ := Queue.put_eq_accepted.mp put
        cases stepped
        exact .put toPut heard room
      · cases stepped
  | take =>
    simp only [step?] at stepped
    split at stepped
    · cases stepped
    · next n toTake =>
      split at stepped
      · next a q taken =>
        obtain ⟨rest, queued, rfl⟩ := Queue.take_eq_item.mp taken
        cases stepped
        exact .take toTake queued
      · cases stepped
  | handOver =>
    simp only [step?] at stepped
    split at stepped
    · next a rest n toPut toTake =>
      split at stepped
      · next bufferless => cases stepped; exact .handOver toPut toTake bufferless
      · cases stepped
    · cases stepped

theorem move_exact : step? action t = some u ↔ Move t action u := ⟨move_sound, move_complete⟩

-- How a transfer under way goes on from another.
structure Follows (t u : Transfer α) : Prop where
  whole : u.whole = t.whole
  capacity : u.queue.capacity = t.queue.capacity
  fits : u.queue.items.length ≤ u.queue.capacity

theorem move_follows (fits : t.queue.items.length ≤ t.queue.capacity) (move : Move t action u) : Follows t u := by
  cases move with
  | put toPut heard room => exact ⟨by simp [whole, toPut], rfl, by simpa [Nat.succ_le_iff] using room⟩
  | take toTake queued =>
    rw [queued] at fits
    exact ⟨by simp [whole, queued], rfl, Nat.le_of_succ_le fits⟩
  | handOver toPut toTake bufferless =>
    have empty : t.queue.items = [] := by
      rw [bufferless, Nat.le_zero] at fits
      exact List.length_eq_zero_iff.mp fits
    exact ⟨by simp [whole, toPut, empty], rfl, fits⟩

theorem next_step (found : t.next? = some u) : ∃ action, step? action t = some u := by
  unfold next? at found
  cases taken : step? .take t with
  | some v => rw [taken] at found; exact ⟨.take, taken.trans found⟩
  | none =>
    rw [taken] at found
    cases put : step? .put t with
    | some v => rw [put] at found; exact ⟨.put, put.trans found⟩
    | none => rw [put] at found; exact ⟨.handOver, found⟩

theorem run_reached (t : Transfer α) (fuel : Nat) : ∃ path, Runs t path (t.run fuel) := by
  induction fuel generalizing t with
  | zero => exact ⟨[], .nil⟩
  | succ fuel ih =>
    rw [run]
    split
    · next u found =>
      obtain ⟨action, stepped⟩ := next_step found
      obtain ⟨path, rest⟩ := ih u
      exact ⟨action :: path, .cons stepped rest⟩
    · exact ⟨[], .nil⟩

theorem runs_keep {P : Transfer α → Prop} {path : List Action} (keeps : ∀ {t u action}, P t → Move t action u → P u)
    (run : Runs t path u) (first : P t) : P u := by
  induction run with
  | nil => exact first
  | cons stepped _ ih => exact ih (keeps first (move_sound stepped))

end GuardedWork.Transfer
