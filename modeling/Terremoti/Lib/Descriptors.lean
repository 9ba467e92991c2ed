import Mathlib.Algebra.BigOperators.Group.Finset.Basic
import Mathlib.Algebra.Order.BigOperators.Group.Finset
import Mathlib.Data.Finset.Max
import Mathlib.Data.Set.Finite.Basic

/-!
# Descriptor tables

The table of a process is the set of its open descriptors. `acquire` takes the lowest number that is
free; what is acquired and released again leaves the table as it was (`release_acquire`).

The ledger of a run: of the `opened` descriptors, `held` many are in a variable of the program that
closes them later, and the `leak` of a step are lost. What is open is then what was open, what is
held and what has leaked (`Ledger.opened_eq`): it stays bounded if and only if the leaks end
(`Ledger.bounded_iff`). A run may end; `reached` are the steps it comes to.
-/

namespace Descriptors

/-- The lowest number that is not in use. -/
def lowest (t : Finset ℕ) : ℕ := Nat.find (Infinite.exists_notMem_finset t)

theorem lowest_notMem (t : Finset ℕ) : lowest t ∉ t := Nat.find_spec (Infinite.exists_notMem_finset t)

theorem lowest_eq_zero {t : Finset ℕ} (h : 0 ∉ t) : lowest t = 0 :=
  (Nat.find_eq_zero (Infinite.exists_notMem_finset t)).2 h

theorem lowest_ne {t : Finset ℕ} {fd : ℕ} (h : fd ∈ t) : lowest t ≠ fd :=
  fun heq => lowest_notMem t (heq ▸ h)

def acquire (t : Finset ℕ) : ℕ × Finset ℕ := (lowest t, insert (lowest t) t)

def release (fd : ℕ) (t : Finset ℕ) : Finset ℕ := t.erase fd

theorem release_acquire (t : Finset ℕ) : release (acquire t).1 (acquire t).2 = t :=
  Finset.erase_insert (lowest_notMem t)

theorem lowest_pos_iff {t : Finset ℕ} : 0 < lowest t ↔ 0 ∈ t := by
  constructor
  · intro hpos
    by_contra hfree
    exact hpos.ne' (lowest_eq_zero hfree)
  · intro hzero
    exact Nat.pos_of_ne_zero (lowest_ne hzero)

theorem card_acquire (t : Finset ℕ) : (acquire t).2.card = t.card + 1 :=
  Finset.card_insert_of_notMem (lowest_notMem t)

theorem acquire_ne (t : Finset ℕ) : (acquire t).2 ≠ t := by
  intro heq
  have hcard := card_acquire t
  rw [heq] at hcard
  omega

/-! ### The ledger of a run -/

/-- Never more than `h` descriptors are held. -/
structure Ledger (reached : ℕ → Prop) (opened held leak : ℕ → ℕ) (h : ℕ) : Prop where
  prev : ∀ n, reached (n + 1) → reached n
  step : ∀ n, reached (n + 1) → opened (n + 1) + held n = opened n + held (n + 1) + leak n
  held_le : ∀ n, held n ≤ h

namespace Ledger
variable {reached : ℕ → Prop} {opened held leak : ℕ → ℕ} {h : ℕ}

theorem reached_of_le (l : Ledger reached opened held leak h) {m n : ℕ} (hle : m ≤ n)
    (hn : reached n) : reached m := by
  induction n, hle using Nat.le_induction with
  | base => exact hn
  | succ n _ ih => exact ih (l.prev n hn)

theorem opened_eq (l : Ledger reached opened held leak h) {n : ℕ} (hn : reached n) :
    opened n + held 0 = opened 0 + held n + ∑ k ∈ Finset.range n, leak k := by
  induction n with
  | zero => rw [Finset.range_zero, Finset.sum_empty, Nat.add_zero]
  | succ n ih =>
    have hprev := ih (l.prev n hn)
    have hlast := l.step n hn
    rw [Finset.sum_range_succ]
    omega

theorem opened_le (l : Ledger reached opened held leak h)
    (hleak : ∀ n, reached (n + 1) → leak n = 0) {n : ℕ} (hn : reached n) :
    opened n ≤ opened 0 + h := by
  have hsum : ∑ k ∈ Finset.range n, leak k = 0 :=
    Finset.sum_eq_zero fun k hk => hleak k (l.reached_of_le (Finset.mem_range.1 hk) hn)
  have heq := l.opened_eq hn
  have hheld := l.held_le n
  omega

theorem bounded_iff (l : Ledger reached opened held leak h) :
    (∃ B, ∀ n, reached n → opened n ≤ B) ↔ {n | reached (n + 1) ∧ leak n ≠ 0}.Finite := by
  constructor
  · rintro ⟨B, hB⟩
    by_contra hinfinite
    obtain ⟨t, ht, hcard⟩ := Set.Infinite.exists_subset_card_eq hinfinite (B + h + 1)
    have hne : t.Nonempty := Finset.card_pos.1 (by omega)
    -- the step of the last of these leaks
    let n := t.max' hne
    have hn : reached (n + 1) := (ht (t.max'_mem hne)).1
    have hrange : t ⊆ Finset.range (n + 1) := fun k hk =>
      Finset.mem_range.2 (Nat.lt_succ_of_le (t.le_max' k hk))
    have hsum := calc
      t.card = ∑ _k ∈ t, 1 := Finset.card_eq_sum_ones t
      _ ≤ ∑ k ∈ t, leak k := Finset.sum_le_sum fun k hk => Nat.one_le_iff_ne_zero.2 (ht hk).2
      _ ≤ ∑ k ∈ Finset.range (n + 1), leak k := Finset.sum_le_sum_of_subset hrange
    have heq := l.opened_eq hn
    have hle := hB (n + 1) hn
    have hzero := l.held_le 0
    omega
  · intro hfinite
    refine ⟨opened 0 + h + ∑ k ∈ hfinite.toFinset, leak k, fun n hn => ?_⟩
    have hsum : ∑ k ∈ Finset.range n, leak k ≤ ∑ k ∈ hfinite.toFinset, leak k := by
      refine Finset.sum_le_sum_of_ne_zero fun k hk hne => hfinite.mem_toFinset.2 ⟨?_, hne⟩
      exact l.reached_of_le (Finset.mem_range.1 hk) hn
    have heq := l.opened_eq hn
    have hheld := l.held_le n
    omega

end Ledger
end Descriptors
