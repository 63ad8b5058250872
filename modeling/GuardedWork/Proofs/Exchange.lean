import Mathlib.Algebra.BigOperators.Group.List.Basic
import Mathlib.Algebra.GroupWithZero.Nat
import Mathlib.Data.List.Perm.Basic

namespace GuardedWork

variable {β κ : Type} {entries : List β} {i : Nat} {x y : β}

-- One entry taken out of the list, the others in some order, whatever comes back in its place.
theorem entry_split (found : entries[i]? = some x) :
    ∃ others, entries.Perm (x :: others) ∧ ∀ y, (entries.set i y).Perm (y :: others) := by
  obtain ⟨inside, rfl⟩ := List.getElem?_eq_some_iff.mp found
  exact ⟨entries.eraseIdx i, (List.getElem_cons_eraseIdx_perm inside).symm, List.set_perm_cons_eraseIdx inside⟩

theorem sum_split {M : Type} [AddCommMonoid M] (f : β → M) (found : entries[i]? = some x) :
    ∃ others, (entries.map f).sum = f x + others ∧ ∀ y, ((entries.set i y).map f).sum = f y + others := by
  obtain ⟨others, whole, changed⟩ := entry_split found
  refine ⟨(others.map f).sum, ?_, fun y => ?_⟩
  · simpa using (whole.map f).sum_eq
  · simpa using ((changed y).map f).sum_eq

theorem sum_set (f : β → Nat) (found : entries[i]? = some x) (y : β) :
    ((entries.set i y).map f).sum + f x = (entries.map f).sum + f y := by
  obtain ⟨others, whole, changed⟩ := sum_split f found
  rw [whole, changed]
  omega

theorem set_all {P : β → Prop} (all : ∀ x ∈ entries, P x) (here : P y) : ∀ x ∈ entries.set i y, P x := by
  intro x inside
  rcases List.mem_or_eq_of_mem_set inside with old | rfl
  · exact all x old
  · exact here

theorem map_set_same {f : β → κ} (found : entries[i]? = some x) (same : f y = f x) :
    (entries.set i y).map f = entries.map f := by
  obtain ⟨inside, rfl⟩ := List.getElem?_eq_some_iff.mp found
  rw [List.map_set, same, ← List.map_set, List.set_getElem_self inside]

end GuardedWork
