import Mathlib.Algebra.BigOperators.Group.List.Basic
import Mathlib.Algebra.CharZero.Defs
import Mathlib.Algebra.Field.Basic
import Mathlib.Algebra.Order.BigOperators.Group.List
import Mathlib.Algebra.Order.Field.Basic
import Mathlib.Tactic.FieldSimp
import Mathlib.Tactic.Linarith
import Mathlib.Tactic.Ring

/-!
# Mean and squared deviations of a growing sample

`mean xs` and `sumSqDev xs` are the batch statistics of a list over a field. `mean_concat` and
`sumSqDev_concat` say how they change when one value is appended, in the incremental form (the
deviation from the old mean times the deviation from the new one); both rest on the parallel axis
identity `sum_sq_sub`. `countP_mul_le` bounds how many values lie a given distance above the mean
(Cantelli's inequality).
-/

namespace Moments

variable {K : Type} [Field K]

def mean (xs : List K) : K := xs.sum / xs.length

/-- The sum of the squared deviations from the mean. -/
def sumSqDev (xs : List K) : K := (xs.map fun x => (x - mean xs) ^ 2).sum

@[simp] theorem mean_nil : mean ([] : List K) = 0 := by simp [mean]

@[simp] theorem sumSqDev_nil : sumSqDev ([] : List K) = 0 := rfl

theorem sum_map_sq_sub (xs : List K) (c : K) :
    (xs.map fun x => (x - c) ^ 2).sum =
      (xs.map fun x => x ^ 2).sum - 2 * c * xs.sum + xs.length * c ^ 2 := by
  induction xs with
  | nil => simp
  | cons x xs ih =>
    simp only [List.map_cons, List.sum_cons, List.length_cons, Nat.cast_succ, ih]
    ring

section CharZero
variable [CharZero K]

theorem sum_eq_length_mul_mean (xs : List K) : xs.sum = xs.length * mean xs := by
  cases xs with
  | nil => simp
  | cons x xs =>
    have h : ((x :: xs).length : K) ≠ 0 := Nat.cast_ne_zero.2 (by simp)
    rw [mean]; field_simp

/-- Parallel axis: moving the reference point from the mean to `c` costs `n (mean - c)²`. -/
theorem sum_sq_sub (xs : List K) (c : K) :
    (xs.map fun x => (x - c) ^ 2).sum = sumSqDev xs + xs.length * (mean xs - c) ^ 2 := by
  rw [sumSqDev, sum_map_sq_sub, sum_map_sq_sub, sum_eq_length_mul_mean xs]
  ring

theorem mean_concat (xs : List K) (x : K) :
    mean (xs ++ [x]) = mean xs + (x - mean xs) / ((xs.length + 1 : ℕ) : K) := by
  have h : ((xs.length + 1 : ℕ) : K) ≠ 0 := Nat.cast_ne_zero.2 (Nat.succ_ne_zero _)
  have hlen : (xs ++ [x]).length = xs.length + 1 := by simp
  rw [mean, List.sum_append, sum_eq_length_mul_mean xs, hlen]
  push_cast at h ⊢
  simp only [List.sum_singleton]
  field_simp
  ring

theorem sumSqDev_concat (xs : List K) (x : K) :
    sumSqDev (xs ++ [x]) = sumSqDev xs + (x - mean xs) * (x - mean (xs ++ [x])) := by
  have h : ((xs.length + 1 : ℕ) : K) ≠ 0 := Nat.cast_ne_zero.2 (Nat.succ_ne_zero _)
  have hsplit : sumSqDev (xs ++ [x]) =
      (xs.map fun y => (y - mean (xs ++ [x])) ^ 2).sum + (x - mean (xs ++ [x])) ^ 2 := by
    simp [sumSqDev]
  rw [hsplit, sum_sq_sub, mean_concat]
  push_cast at h ⊢
  field_simp
  ring

end CharZero

section Order
variable [LinearOrder K] [IsStrictOrderedRing K]

theorem sumSqDev_nonneg (xs : List K) : 0 ≤ sumSqDev xs := by
  refine List.sum_nonneg fun y hy => ?_
  obtain ⟨x, -, rfl⟩ := List.mem_map.1 hy
  exact sq_nonneg _

/-- Values that are at least `b` at each counted item add up to as many times `b`. -/
theorem countP_mul_le_sum {α : Type} {f : α → K} {p : α → Bool} {b : K} {xs : List α}
    (hf : ∀ x ∈ xs, 0 ≤ f x) (hp : ∀ x ∈ xs, p x = true → b ≤ f x) :
    xs.countP p * b ≤ (xs.map f).sum := by
  induction xs with
  | nil => simp
  | cons x xs ih =>
    rw [List.forall_mem_cons] at hf hp
    have hrest := ih hf.2 hp.2
    rw [List.map_cons, List.sum_cons, List.countP_cons]
    by_cases hx : p x = true
    · have hb := hp.1 hx
      rw [if_pos hx]
      push_cast
      linarith
    · have h0 := hf.1
      rw [if_neg hx]
      push_cast
      linarith

/-- At most `n S / (n t² + S)` of `n` values lie `t` or more above their mean, where `S` are their
squared deviations. -/
theorem countP_mul_le {t : K} (ht : 0 < t) (xs : List K) :
    xs.countP (fun x => decide (mean xs + t ≤ x)) * (xs.length * t ^ 2 + sumSqDev xs) ≤
      xs.length * sumSqDev xs := by
  rcases Nat.eq_zero_or_pos xs.length with hlen | hlen
  · rw [List.length_eq_zero_iff.1 hlen]
    simp
  have hn : (0 : K) < xs.length := Nat.cast_pos.2 hlen
  have hS := sumSqDev_nonneg xs
  -- deviations from a point `d` below the mean, the best one to count by
  obtain ⟨d, hd⟩ : ∃ d, d = sumSqDev xs / (xs.length * t) := ⟨_, rfl⟩
  have hd0 : 0 ≤ d := by rw [hd]; positivity
  have hcount : xs.countP (fun x => decide (mean xs + t ≤ x)) * (t + d) ^ 2 ≤
      sumSqDev xs + xs.length * d ^ 2 := by
    have hsum := sum_sq_sub xs (mean xs - d)
    rw [sub_sub_cancel] at hsum
    rw [← hsum]
    refine countP_mul_le_sum (fun x _ => sq_nonneg _) fun x _ hx => ?_
    have hx' : mean xs + t ≤ x := of_decide_eq_true hx
    exact pow_le_pow_left₀ (by linarith) (by linarith) 2
  generalize (xs.countP (fun x => decide (mean xs + t ≤ x)) : K) = c at hcount ⊢
  generalize (xs.length : K) = n at hn hd hcount ⊢
  have hmarkov : c * (n * t ^ 2 + sumSqDev xs) ^ 2 ≤
      n * sumSqDev xs * (n * t ^ 2 + sumSqDev xs) := by
    have hS' : sumSqDev xs = n * t * d := by rw [hd]; field_simp
    have hscaled := mul_le_mul_of_nonneg_left hcount (sq_nonneg (n * t))
    rw [hS'] at hscaled ⊢
    calc c * (n * t ^ 2 + n * t * d) ^ 2 = (n * t) ^ 2 * (c * (t + d) ^ 2) := by ring
      _ ≤ (n * t) ^ 2 * (n * t * d + n * d ^ 2) := hscaled
      _ = n * (n * t * d) * (n * t ^ 2 + n * t * d) := by ring
  have hpos : 0 < n * t ^ 2 + sumSqDev xs := by positivity
  rw [sq, ← mul_assoc] at hmarkov
  exact le_of_mul_le_mul_right hmarkov hpos

end Order

end Moments
