import Mathlib.Data.Nat.Digits.Lemmas

/-!
# Positional notation

Digit lists with the most significant digit first. `natural` writes a number without leading zeros,
`fixed` with a given number of digits (dropping what does not fit), `value` reads; `value_natural`
and `value_fixed` are the two round trips, and `value_take` says what is left of a number whose last
digits are cut off.
-/

namespace Digits

/-- The number a list of digits stands for. -/
def value (b : ℕ) (ds : List ℕ) : ℕ := Nat.ofDigits b ds.reverse

/-- The digits of `n`; zero has one digit. -/
def natural (b n : ℕ) : List ℕ := if n = 0 then [0] else (Nat.digits b n).reverse

/-- The last `k` digits of `n`. -/
def fixed (b : ℕ) : ℕ → ℕ → List ℕ
  | 0, _ => []
  | k + 1, n => fixed b k (n / b) ++ [n % b]

@[simp] theorem value_nil (b : ℕ) : value b [] = 0 := rfl

theorem value_singleton (b d : ℕ) : value b [d] = d := Nat.ofDigits_singleton

theorem value_append (b : ℕ) (xs ys : List ℕ) :
    value b (xs ++ ys) = value b xs * b ^ ys.length + value b ys := by
  rw [value, List.reverse_append, Nat.ofDigits_append, List.length_reverse, mul_comm, add_comm]
  rfl

theorem value_replicate_zero_append (b k : ℕ) (ds : List ℕ) :
    value b (List.replicate k 0 ++ ds) = value b ds := by
  rw [value, List.reverse_append, List.reverse_replicate, Nat.ofDigits_append_replicate_zero]
  rfl

theorem value_lt {b : ℕ} (hb : 1 < b) {ds : List ℕ} (hds : ∀ d ∈ ds, d < b) :
    value b ds < b ^ ds.length := by
  rw [value, ← List.length_reverse]
  exact Nat.ofDigits_lt_base_pow_length hb fun d hd => hds d (List.mem_reverse.1 hd)

theorem value_take {b : ℕ} (hb : 0 < b) {ds : List ℕ} (hds : ∀ d ∈ ds, d < b) (k : ℕ) :
    value b (ds.take k) = value b ds / b ^ (ds.length - k) := by
  rw [value, value, List.reverse_take, ← Nat.ofDigits_div_pow_eq_ofDigits_drop _ hb]
  exact fun d hd => hds d (List.mem_reverse.1 hd)

/-! ### Without leading zeros -/

@[simp] theorem value_natural (b n : ℕ) : value b (natural b n) = n := by
  unfold natural
  split
  · rw [value_singleton]; omega
  · rw [value, List.reverse_reverse, Nat.ofDigits_digits]

theorem lt_of_mem_natural {b n d : ℕ} (hb : 1 < b) (h : d ∈ natural b n) : d < b := by
  unfold natural at h
  split at h
  · rw [List.mem_singleton.1 h]; omega
  · exact Nat.digits_lt_base hb (List.mem_reverse.1 h)

theorem natural_ne_nil (b n : ℕ) : natural b n ≠ [] := by
  unfold natural
  split
  · simp
  · rename_i h
    rw [Ne, List.reverse_eq_nil_iff, Nat.digits_eq_nil_iff_eq_zero]
    exact h

theorem length_natural {b : ℕ} (hb : 1 < b) (n : ℕ) :
    (natural b n).length = Nat.log b n + 1 := by
  unfold natural
  split
  · rename_i h
    rw [h, Nat.log_zero_right]
    rfl
  · rename_i h
    rw [List.length_reverse, Nat.length_digits b n hb h]

/-! ### With a fixed number of digits -/

@[simp] theorem length_fixed (b k n : ℕ) : (fixed b k n).length = k := by
  induction k generalizing n with
  | zero => rfl
  | succ k ih => rw [fixed, List.length_append, ih, List.length_singleton]

theorem value_fixed (b k n : ℕ) : value b (fixed b k n) = n % b ^ k := by
  induction k generalizing n with
  | zero => rw [fixed, value_nil, pow_zero, Nat.mod_one]
  | succ k ih =>
    rw [fixed, value_append, ih, value_singleton, List.length_singleton, pow_one, pow_succ',
      Nat.mod_mul, mul_comm, add_comm]

theorem lt_of_mem_fixed {b k n d : ℕ} (hb : 0 < b) (h : d ∈ fixed b k n) : d < b := by
  induction k generalizing n with
  | zero => cases h
  | succ k ih =>
    rcases List.mem_append.1 h with h | h
    · exact ih h
    · rw [List.mem_singleton.1 h]; exact Nat.mod_lt _ hb

/-- A number with its last `j` decimals cut off: in front `n / b ^ (k + j)`, behind the point the
first `k` of `k + j` digits. -/
theorem value_natural_append_take {b : ℕ} (hb : 0 < b) (n k j : ℕ) :
    value b (natural b (n / b ^ (k + j)) ++ (fixed b (k + j) n).take k) = n / b ^ j := by
  rw [value_append, value_natural, value_take hb (fun d => lt_of_mem_fixed hb), value_fixed,
    length_fixed, List.length_take, length_fixed, Nat.min_eq_left (Nat.le_add_right k j),
    Nat.add_sub_cancel_left, pow_add, mul_comm (b ^ k), Nat.mod_mul_right_div_self,
    ← Nat.div_div_eq_div_mul]
  exact Nat.div_add_mod' (n / b ^ j) (b ^ k)

end Digits
