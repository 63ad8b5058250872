import GuardedWork.Proofs.Summary
import Mathlib.Algebra.Order.BigOperators.Group.List
import Mathlib.Algebra.Order.Ring.Int

namespace GuardedWork

namespace Word

variable {a n : Int} {vs ws : List Int}

theorem clamp_bounds (n : Int) : least ≤ clamp n ∧ clamp n ≤ most := by
  unfold clamp least most
  omega

theorem clamp_within (low : least ≤ n) (high : n ≤ most) : clamp n = n := by
  unfold clamp
  omega

def rises (vs : List Int) : List Int := vs.filter (0 < ·)
def falls (vs : List Int) : List Int := vs.filter (· ≤ 0)

theorem rises_positive : ∀ v ∈ rises vs, 0 < v := fun _ member => of_decide_eq_true (List.mem_filter.mp member).2

theorem falls_unpositive : ∀ v ∈ falls vs, v ≤ 0 := fun _ member => of_decide_eq_true (List.mem_filter.mp member).2

theorem rises_falls_perm (vs : List Int) : (rises vs ++ falls vs).Perm vs := by
  have parts := List.filter_append_perm (fun v : Int => decide (0 < v)) vs
  simpa only [rises, falls, ← decide_not, not_lt] using parts

theorem sum_unpositive (all : ∀ v ∈ vs, v ≤ 0) : vs.sum ≤ 0 := by
  simpa using List.sum_le_card_nsmul vs 0 all

theorem rises_sum (vs : List Int) : 0 ≤ (rises vs).sum :=
  List.sum_nonneg fun v member => le_of_lt (rises_positive v member)

theorem falls_sum (vs : List Int) : (falls vs).sum ≤ 0 := sum_unpositive falls_unpositive

theorem sum_parts (vs : List Int) : vs.sum = (rises vs).sum + (falls vs).sum := by
  rw [← List.sum_append]
  exact (rises_falls_perm vs).sum_eq.symm

-- What has stopped stays, as it is never turned back.
theorem foldl_one_sign (sign : (∀ v ∈ vs, 0 ≤ v) ∨ ∀ v ∈ vs, v ≤ 0) (low : least ≤ a) (high : a ≤ most) :
    vs.foldl saturatingAdd a = clamp (a + vs.sum) := by
  induction vs generalizing a with
  | nil => simp [clamp_within low high]
  | cons v rest ih =>
    obtain ⟨above, below⟩ := clamp_bounds (a + v)
    have later : (∀ w ∈ rest, 0 ≤ w) ∨ ∀ w ∈ rest, w ≤ 0 :=
      sign.imp (fun all w member => all w (.tail _ member)) fun all w member => all w (.tail _ member)
    have together : 0 ≤ v ∧ 0 ≤ rest.sum ∨ v ≤ 0 ∧ rest.sum ≤ 0 :=
      sign.imp (fun all => ⟨all v (.head _), List.sum_nonneg fun w member => all w (.tail _ member)⟩)
        fun all => ⟨all v (.head _), sum_unpositive fun w member => all w (.tail _ member)⟩
    rw [List.foldl_cons, List.sum_cons, saturatingAdd, ih later above below]
    unfold clamp least most at *
    omega

theorem parts_cons (v : Int) (rest : List Int) :
    (rises (v :: rest)).sum = max v 0 + (rises rest).sum ∧ (falls (v :: rest)).sum = min v 0 + (falls rest).sum := by
  unfold rises falls
  by_cases positive : 0 < v
  · rw [List.filter_cons_of_pos (by simpa using positive), List.filter_cons_of_neg (by simpa using positive),
      List.sum_cons]
    omega
  · rw [List.filter_cons_of_neg (by simpa using positive), List.filter_cons_of_pos (by simpa using positive),
      List.sum_cons]
    omega

-- Not even all that rises, or all that falls, leads beyond a bound.
theorem foldl_within (low : least ≤ a + (falls vs).sum) (high : a + (rises vs).sum ≤ most) :
    vs.foldl saturatingAdd a = a + vs.sum := by
  induction vs generalizing a with
  | nil => simp
  | cons v rest ih =>
    obtain ⟨up, down⟩ := parts_cons v rest
    have rising := rises_sum rest
    have falling := falls_sum rest
    rw [List.foldl_cons, List.sum_cons, saturatingAdd, clamp_within (by omega) (by omega), ih (by omega) (by omega)]
    omega

-- Whether they come to the same in any order.
def OrderFree (vs : List Int) : Prop :=
  ((∀ v ∈ vs, 0 ≤ v) ∨ ∀ v ∈ vs, v ≤ 0) ∨ (rises vs).sum ≤ most ∧ least ≤ (falls vs).sum

instance (vs : List Int) : Decidable (OrderFree vs) := inferInstanceAs (Decidable (_ ∨ _))

theorem OrderFree.perm (free : OrderFree vs) (same : vs.Perm ws) : OrderFree ws := by
  have up : (rises vs).sum = (rises ws).sum := (same.filter _).sum_eq
  have down : (falls vs).sum = (falls ws).sum := (same.filter _).sum_eq
  unfold OrderFree at free ⊢
  rw [← up, ← down]
  simpa only [same.mem_iff] using free

theorem OrderFree.foldl (free : OrderFree vs) : vs.foldl saturatingAdd 0 = clamp vs.sum := by
  rcases free with sign | ⟨high, low⟩
  · rw [foldl_one_sign sign (by decide) (by decide), Int.zero_add]
  · have parts := sum_parts vs
    have rising := rises_sum vs
    have falling := falls_sum vs
    rw [foldl_within (by omega) (by omega), Int.zero_add, clamp_within (by omega) (by omega)]

theorem foldl_parts (vs : List Int) :
    (rises vs ++ falls vs).foldl saturatingAdd 0 = clamp (clamp (rises vs).sum + (falls vs).sum) ∧
      (falls vs ++ rises vs).foldl saturatingAdd 0 = clamp (clamp (falls vs).sum + (rises vs).sum) := by
  have rising : (∀ v ∈ rises vs, 0 ≤ v) ∨ ∀ v ∈ rises vs, v ≤ 0 :=
    .inl fun v member => le_of_lt (rises_positive v member)
  have falling : (∀ v ∈ falls vs, 0 ≤ v) ∨ ∀ v ∈ falls vs, v ≤ 0 := .inr falls_unpositive
  have first (ws : List Int) (sign : (∀ v ∈ ws, 0 ≤ v) ∨ ∀ v ∈ ws, v ≤ 0) :
      ws.foldl saturatingAdd 0 = clamp ws.sum := by
    rw [foldl_one_sign sign (by decide) (by decide), Int.zero_add]
  obtain ⟨above, below⟩ := clamp_bounds (rises vs).sum
  obtain ⟨floor, ceiling⟩ := clamp_bounds (falls vs).sum
  rw [List.foldl_append, List.foldl_append, first _ rising, first _ falling, foldl_one_sign falling above below,
    foldl_one_sign rising floor ceiling]
  exact ⟨rfl, rfl⟩

theorem rises_counted {v : Int} (member : v ∈ vs) (positive : 0 < v) : 0 < (rises vs).sum :=
  lt_of_lt_of_le positive (List.single_le_sum (fun w inside => le_of_lt (rises_positive w inside)) v
    (List.mem_filter.mpr ⟨member, decide_eq_true positive⟩))

theorem falls_counted {v : Int} (member : v ∈ vs) (negative : v < 0) : (falls vs).sum < 0 := by
  have inside : v ∈ falls vs := List.mem_filter.mpr ⟨member, decide_eq_true (le_of_lt negative)⟩
  have each : ∀ v ∈ falls vs, v ≤ 0 := falls_unpositive
  obtain ⟨before, after, split⟩ := List.append_of_mem inside
  rw [split] at each ⊢
  have earlier := sum_unpositive fun w inside => each w (List.mem_append_left _ inside)
  have later := sum_unpositive fun w inside => each w (List.mem_append_right _ (.tail _ inside))
  rw [List.sum_append, List.sum_cons]
  omega

-- Turned back from the one bound, or from the other.
theorem turned_apart (mixed : ¬OrderFree vs) :
    (rises vs ++ falls vs).foldl saturatingAdd 0 ≠ (falls vs ++ rises vs).foldl saturatingAdd 0 := by
  unfold OrderFree at mixed
  push Not at mixed
  obtain ⟨⟨⟨v, isFall, negative⟩, u, isRise, positive⟩, beyond⟩ := mixed
  have falling := falls_counted isFall negative
  have rising := rises_counted isRise positive
  rw [(foldl_parts vs).1, (foldl_parts vs).2]
  unfold clamp least most at *
  omega

end Word

namespace Summary

variable {β ρ : Type} {results other : List (JobResult ρ)}

theorem ofResults_perm (f : β → ρ → β) (init : β) (same : results.Perm other) :
    (ofResults f init results).completed = (ofResults f init other).completed ∧
      (ofResults f init results).cancelled = (ofResults f init other).cancelled ∧
      (ofResults f init results).failed = (ofResults f init other).failed := by
  simp only [ofResults_eq, failed]
  exact ⟨(same.filterMap _).length_eq, same.countP_eq _, (same.filterMap _).length_eq⟩

theorem valuesOf_filter {keep : JobResult ρ → Bool} {p : ρ → Bool}
    (agrees : ∀ r v, r.outcome.value? = some v → keep r = p v) (results : List (JobResult ρ)) :
    valuesOf (results.filter keep) = (valuesOf results).filter p := by
  unfold valuesOf
  rw [List.filterMap_filter, List.filter_filterMap]
  refine List.filterMap_congr fun r _ => ?_
  cases value : r.outcome.value? with
  | none => simp
  | some v => rw [agrees r v value]; rfl

-- First the results whose values rise and then all others, or the other way round.
theorem orders_apart {results : List (JobResult Int)} (mixed : ¬Word.OrderFree (valuesOf results)) :
    ∃ one other, results.Perm one ∧ results.Perm other ∧
      (ofResults Word.saturatingAdd 0 one).value ≠ (ofResults Word.saturatingAdd 0 other).value := by
  let rising (r : JobResult Int) : Bool := r.outcome.value?.any (0 < ·)
  have parts := List.filter_append_perm rising results
  have ups : valuesOf (results.filter rising) = Word.rises (valuesOf results) :=
    valuesOf_filter (fun r v value => by simp [rising, value]) results
  have downs : valuesOf (results.filter fun r => !rising r) = Word.falls (valuesOf results) :=
    valuesOf_filter (fun r v value => by simp [rising, value, ← decide_not]) results
  refine ⟨_, _, parts.symm, (List.perm_append_comm.trans parts).symm, ?_⟩
  have apart := Word.turned_apart mixed
  rw [← ups, ← downs] at apart
  rw [ofResults_eq, ofResults_eq]
  simpa only [valuesOf, List.filterMap_append] using apart

-- A sum that has stopped at a bound does not know how far beyond it would be when it turns back.
theorem saturated_sum_order_iff (results : List (JobResult Int)) :
    (∀ other, results.Perm other →
        let one := ofResults Word.saturatingAdd 0 results
        let two := ofResults Word.saturatingAdd 0 other
        one.completed = two.completed ∧ one.cancelled = two.cancelled ∧ one.failed = two.failed) ∧
      ((∀ other, results.Perm other →
          (ofResults Word.saturatingAdd 0 other).value = (ofResults Word.saturatingAdd 0 results).value) ↔
        Word.OrderFree (valuesOf results)) ∧
      (Word.OrderFree (valuesOf results) → ∀ other, results.Perm other →
        (ofResults Word.saturatingAdd 0 other).value = Word.clamp (valuesOf results).sum) := by
  have settled (free : Word.OrderFree (valuesOf results)) (other : List (JobResult Int)) (same : results.Perm other) :
      (ofResults Word.saturatingAdd 0 other).value = Word.clamp (valuesOf results).sum := by
    have values : (valuesOf results).Perm (valuesOf other) := same.filterMap _
    rw [ofResults_eq, values.sum_eq]
    exact (free.perm values).foldl
  refine ⟨fun other same => ofResults_perm _ _ same, ⟨fun alike => ?_, fun free other same => ?_⟩, settled⟩
  · by_contra mixed
    obtain ⟨one, other, first, second, apart⟩ := orders_apart mixed
    exact apart ((alike one first).trans (alike other second).symm)
  · rw [settled free other same, settled free results (.refl _)]

-- Beyond the upper bound and one back, or one down and up to it.
def crest : List (JobResult Int) := [⟨1, 0, .completed Word.most⟩, ⟨2, 0, .completed 1⟩, ⟨3, 0, .completed (-1)⟩]

theorem saturated_sum_depends_on_order :
    ¬ ∀ results other : List (JobResult Int), results.Perm other →
      (ofResults Word.saturatingAdd 0 results).value = (ofResults Word.saturatingAdd 0 other).value := by
  intro alike
  exact absurd (alike crest crest.reverse (List.reverse_perm crest).symm) (by decide)

-- No bound is met but by the last value, whichever it is, and a failure is only counted.
def swell : List (JobResult Int) :=
  [⟨1, 0, .completed Word.most⟩, ⟨2, 1, .failed (.ofText "down")⟩, ⟨3, 0, .completed 1⟩, ⟨4, 1, .cancelled⟩]

theorem swell_and_crest :
    (ofResults Word.saturatingAdd 0 swell.reverse).value = Word.most ∧
      (ofResults Word.saturatingAdd 0 swell.reverse).completed = 2 ∧
      ¬ ∀ other, crest.Perm other →
        (ofResults Word.saturatingAdd 0 other).value = (ofResults Word.saturatingAdd 0 crest).value := by
  have turned : swell.Perm swell.reverse := (List.reverse_perm swell).symm
  obtain ⟨counts, _, settled⟩ := saturated_sum_order_iff swell
  refine ⟨settled (by decide) _ turned, (counts _ turned).1.symm, fun alike => ?_⟩
  exact absurd ((saturated_sum_order_iff crest).2.1.mp alike) (by decide)

end Summary
end GuardedWork
