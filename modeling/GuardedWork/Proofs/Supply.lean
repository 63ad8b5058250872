import GuardedWork.Source
import Mathlib.Data.List.Basic

namespace GuardedWork

variable {α : Type}

-- All the payloads of a source in order. Behind the last it ends or panics.
def Source.Gives (source : Source α) (supply : List α) : Prop :=
  ∀ i ≤ supply.length, ∀ a, (source i).pulled = .item a ↔ supply[i]? = some a

-- What the iterator of a list gives that panics in some place.
def beforePanic (panicsAt : Option Nat) (items : List α) : List α := panicsAt.elim items items.take

theorem beforePanic_within (panicsAt : Option Nat) (items : List α) :
    (beforePanic panicsAt items).length ≤ items.length := by
  cases panicsAt with
  | none => exact Nat.le_refl _
  | some n => exact List.length_take_le' n items

theorem beforePanic_take {panicsAt : Option Nat} {items : List α} {k : Nat}
    (within : k ≤ (beforePanic panicsAt items).length) :
    (beforePanic panicsAt items).take k = items.take k := by
  cases panicsAt with
  | none => rfl
  | some n =>
    have before : k ≤ n := Nat.le_trans within (List.length_take_le n items)
    rw [beforePanic, Option.elim_some, List.take_take, Nat.min_eq_left before]

theorem Source.ofList_gives (items : List α) (panicsAt : Option Nat) :
    ((Source.ofList items).panickingAt panicsAt).Gives (beforePanic panicsAt items) := by
  intro i within a
  cases panicsAt with
  | none => cases item : items[i]? <;> simp [Source.panickingAt, Source.ofList, beforePanic, item]
  | some n =>
    have short : i ≤ n := Nat.le_trans within (List.length_take_le n items)
    rcases Nat.lt_or_eq_of_le short with before | rfl
    · have unbroken : n ≠ i := Nat.ne_of_gt before
      cases item : items[i]? <;> simp [Source.panickingAt, Source.ofList, beforePanic, unbroken, before, item]
    · rw [beforePanic, Option.elim_some, List.getElem?_take_eq_none (Nat.le_refl i)]
      simp [Source.panickingAt]

theorem Source.list_gives (items : List α) : (ofList items).Gives items := by
  intro i _ a
  cases item : items[i]? <;> simp [ofList, item]

theorem Source.ofList_panics {items : List α} {k : Nat} (within : k ≤ items.length) :
    (((ofList items).panickingAt (some k)) (beforePanic (some k) items).length).pulled = .panicked := by
  simp [panickingAt, beforePanic, within]

theorem Source.ofList_ends {items : List α} {panicsAt : Option Nat}
    (beyond : ∀ k, panicsAt = some k → items.length < k) :
    beforePanic panicsAt items = items ∧ (((ofList items).panickingAt panicsAt) items.length).pulled = .ended := by
  have unbroken : panicsAt ≠ some items.length := fun here => Nat.lt_irrefl _ (beyond _ here)
  refine ⟨?_, by simp [panickingAt, ofList, unbroken]⟩
  cases panicsAt with
  | none => rfl
  | some k => exact List.take_of_length_le (Nat.le_of_lt (beyond k rfl))

end GuardedWork
