import GuardedWork.Pipeline.Run
import GuardedWork.Proofs.Supply

namespace GuardedWork

variable {α : Type}

-- What comes out of a thread for what goes in, up to its panic.
def mapped (work : α → Option α) : List α → List α
  | [] => []
  | a :: rest =>
    match work a with
    | some b => b :: mapped work rest
    | none => []

namespace Pipeline

-- An item's way through all the stages, none where one of them panics on what reaches it. Stages
-- between different types are stages on the sum of them.
def through (stages : List (Stage α)) (a : α) : Option α := stages.foldlM (fun b stage => stage.work b) a

-- By thread, the source first.
def workAt (p : Pipeline α) : Nat → α → Option α
  | 0 => some
  | i + 1 => p.stages[i]?.elim some Stage.work

end Pipeline

-- What a thread still gives its reader, with what it still gets.
def Link.yields (work : α → Option α) (incoming : List α) (l : Link α) : List α :=
  l.buffer ++
    match l.phase with
    | .waiting => mapped work incoming
    | .holding a => mapped work (a :: incoming)
    | .offering b => b :: mapped work incoming
    | .gone => []

-- What still comes to a thread, or to the consumer behind the last one.
def incoming (p : Pipeline α) (links : List (Link α)) (left : List α) : Nat → List α
  | 0 => left
  | i + 1 => links[i]?.elim (incoming p links left i) (Link.yields (p.workAt i) (incoming p links left i))

theorem mapped_mapped (f g : α → Option α) (items : List α) :
    mapped g (mapped f items) = mapped (fun a => (f a).bind g) items := by
  induction items with
  | nil => rfl
  | cons a rest ih =>
    cases first : f a with
    | none => simp [mapped, first]
    | some b =>
      cases second : g b with
      | none => simp [mapped, first, second]
      | some c => simp [mapped, first, second, ih]

theorem mapped_values (work : α → Option α) (items : List α) :
    (items.take (mapped work items).length).map work = (mapped work items).map some := by
  induction items with
  | nil => rfl
  | cons a rest ih =>
    cases worked : work a with
    | none => simp [mapped, worked]
    | some b => simp [mapped, worked, ih]

theorem mapped_stops {work : α → Option α} {items : List α} {a : α}
    (next : items[(mapped work items).length]? = some a) : work a = none := by
  induction items with
  | nil => cases next
  | cons b rest ih =>
    cases worked : work b with
    | none =>
      simp only [mapped, worked, List.length_nil, List.getElem?_cons_zero, Option.some.injEq] at next
      rw [← next, worked]
    | some c =>
      simp only [mapped, worked, List.length_cons, List.getElem?_cons_succ] at next
      exact ih next

theorem mapped_within (work : α → Option α) (items : List α) : (mapped work items).length ≤ items.length := by
  induction items with
  | nil => exact Nat.le_refl _
  | cons a rest ih =>
    cases worked : work a with
    | none => simp [mapped, worked]
    | some b => simpa [mapped, worked] using ih

theorem through_more (stages : List (Stage α)) (stage : Stage α) :
    Pipeline.through (stages ++ [stage]) = fun a => (Pipeline.through stages a).bind stage.work := by
  funext a
  simp [Pipeline.through, List.foldlM_append]

section Incoming

variable {p : Pipeline α} {links changed : List (Link α)} {left less : List α} {l m next after : Link α} {i n : Nat}

theorem incoming_found (found : links[i]? = some l) :
    incoming p links left (i + 1) = l.yields (p.workAt i) (incoming p links left i) := by
  simp [incoming, found]

theorem incoming_before (same : ∀ j < n, changed[j]? = links[j]?) :
    incoming p changed left n = incoming p links left n := by
  induction n with
  | zero => rfl
  | succ n ih =>
    rw [incoming, incoming, same n (Nat.lt_succ_self n), ih fun j below => same j (Nat.lt_succ_of_lt below)]

-- Threads that stay as they are pass on the same if the same comes to the first of them.
theorem incoming_beyond (same : ∀ j, i ≤ j → changed[j]? = links[j]?)
    (meet : incoming p changed less i = incoming p links left i) (beyond : i ≤ n) :
    incoming p changed less n = incoming p links left n := by
  induction beyond with
  | refl => exact meet
  | step beyond ih => rw [incoming, incoming, same _ beyond, ih]

theorem incoming_set_self (inside : i < links.length) :
    incoming p (links.set i m) left (i + 1) = m.yields (p.workAt i) (incoming p links left i) := by
  rw [incoming_found (List.getElem?_set_self inside)]
  congr 1
  apply incoming_before
  intro j below
  exact List.getElem?_set_ne (Nat.ne_of_gt below)

theorem incoming_set (found : links[i]? = some l)
    (same : m.yields (p.workAt i) (incoming p links left i) = l.yields (p.workAt i) (incoming p links left i))
    (beyond : i < n) :
    incoming p (links.set i m) left n = incoming p links left n := by
  apply incoming_beyond (i := i + 1) _ _ beyond
  · intro j above
    exact List.getElem?_set_ne (Nat.ne_of_lt above)
  · rw [incoming_set_self (List.getElem?_eq_some_iff.mp found).1, incoming_found found, same]

-- Two neighbours may hand over what they like if the second still gives away the same.
theorem incoming_set_two (found : links[i]? = some l) (reader : links[i + 1]? = some next)
    (same : after.yields (p.workAt (i + 1)) (m.yields (p.workAt i) (incoming p links left i)) =
      next.yields (p.workAt (i + 1)) (l.yields (p.workAt i) (incoming p links left i)))
    (beyond : i + 1 < n) :
    incoming p ((links.set i m).set (i + 1) after) left n = incoming p links left n := by
  have inside := (List.getElem?_eq_some_iff.mp found).1
  have readerInside := (List.getElem?_eq_some_iff.mp reader).1
  apply incoming_beyond (i := i + 2) _ _ beyond
  · intro j above
    rw [List.getElem?_set_ne (by omega), List.getElem?_set_ne (by omega)]
  · rw [incoming_set_self (by rwa [List.length_set]), incoming_set_self inside, incoming_found reader,
      incoming_found found, same]

end Incoming

end GuardedWork
