import Mathlib.Data.BitVec
import Mathlib.Tactic.Ring

/-!
# A wrapping clock counter

`Counter.read start t` is what a `w`-bit counter shows `t` ticks after it showed `start`. The
difference of two readings is the elapsed time modulo `2 ^ w` (`toNat_read_sub`): never more than
the elapsed time, and equal to it as long as less than one full turn has passed. A difference taken
after both readings were widened is right only if the counter has not wrapped in between
(`toNat_setWidth_read_sub`). A deadline, `start + wait`, is worse: compared with it the counter is
right up to some time after the deadline if and only if it does not wrap by then
(`before_read_iff`).
-/

namespace Counter

variable {w : ℕ}

/-- The counter `t` ticks after it showed `start`. -/
def read (start : BitVec w) (t : ℕ) : BitVec w := start + BitVec.ofNat w t

theorem read_sub_read (start : BitVec w) {t u : ℕ} (h : t ≤ u) :
    read start u - read start t = BitVec.ofNat w (u - t) := by
  obtain ⟨d, rfl⟩ := Nat.exists_eq_add_of_le h
  have hadd : BitVec.ofNat w (t + d) = BitVec.ofNat w t + BitVec.ofNat w d := BitVec.ofNat_add t d
  rw [read, read, hadd, Nat.add_sub_cancel_left]
  ring

theorem toNat_read_sub (start : BitVec w) {t u : ℕ} (h : t ≤ u) :
    (read start u - read start t).toNat = (u - t) % 2 ^ w := by
  rw [read_sub_read start h, BitVec.toNat_ofNat]

theorem toNat_read_sub_of_lt (start : BitVec w) {t u : ℕ} (h : t ≤ u) (hlt : u < t + 2 ^ w) :
    (read start u - read start t).toNat = u - t := by
  rw [toNat_read_sub start h, Nat.mod_eq_of_lt (by omega)]

theorem read_read (start : BitVec w) (t d : ℕ) : read (read start t) d = read start (t + d) := by
  rw [read, read, read, BitVec.ofNat_add, add_assoc]

/-- A full turn does not show. -/
theorem read_mod (start : BitVec w) (t : ℕ) : read start (t % 2 ^ w) = read start t := by
  rw [read, read, add_right_inj]
  exact BitVec.eq_of_toNat_eq (by simp)

/-- A reading and one `d` ticks later, each widened to `v` bits before the subtraction. -/
theorem toNat_setWidth_read_sub {v : ℕ} (hv : w ≤ v) (start : BitVec w) {d : ℕ} (hd : d < 2 ^ w) :
    ((read start d).setWidth v - start.setWidth v).toNat =
      if start.toNat + d < 2 ^ w then d else d + (2 ^ v - 2 ^ w) := by
  have hpow : 2 ^ w ≤ 2 ^ v := Nat.pow_le_pow_right (by decide) hv
  have hstart := start.isLt
  have hread : (read start d).toNat = (start.toNat + d) % 2 ^ w := by
    rw [read, BitVec.toNat_add, BitVec.toNat_ofNat, Nat.add_mod_mod]
  have hlt : (start.toNat + d) % 2 ^ w < 2 ^ w := Nat.mod_lt _ (by omega)
  rw [BitVec.toNat_sub, BitVec.toNat_setWidth, BitVec.toNat_setWidth, hread,
    Nat.mod_eq_of_lt (hlt.trans_le hpow), Nat.mod_eq_of_lt (hstart.trans_le hpow)]
  split
  · rename_i hsum
    rw [Nat.mod_eq_of_lt hsum, show 2 ^ v - start.toNat + (start.toNat + d) = 2 ^ v + d by omega,
      Nat.add_mod_left, Nat.mod_eq_of_lt (by omega)]
  · rename_i hsum
    -- one turn has been completed
    have hturn : (start.toNat + d) % 2 ^ w = start.toNat + d - 2 ^ w := by
      rw [Nat.mod_eq_sub_mod (by omega), Nat.mod_eq_of_lt (by omega)]
    rw [hturn, Nat.mod_eq_of_lt (by omega)]
    omega

/-! ### Deadlines -/

theorem toNat_read (start : BitVec w) (t : ℕ) : (read start t).toNat = (start.toNat + t) % 2 ^ w := by
  rw [read, BitVec.toNat_add, BitVec.toNat_ofNat, Nat.add_mod_mod]

/-- The reading `now` is before the deadline, reading and deadline widened to `v` bits. -/
def before (v : ℕ) (start wait now : BitVec w) : Prop :=
  now.setWidth v < start.setWidth v + wait.setWidth v

instance (v : ℕ) (start wait now : BitVec w) : Decidable (before v start wait now) :=
  inferInstanceAs (Decidable (_ < _))

theorem before_iff {v : ℕ} (hv : w ≤ v) (start wait now : BitVec w) :
    before v start wait now ↔ now.toNat < (start.toNat + wait.toNat) % 2 ^ v := by
  have hsum : (start.setWidth v + wait.setWidth v).toNat = (start.toNat + wait.toNat) % 2 ^ v := by
    rw [BitVec.toNat_add, BitVec.toNat_setWidth_of_le hv, BitVec.toNat_setWidth_of_le hv]
  rw [before, BitVec.lt_def, hsum, BitVec.toNat_setWidth_of_le hv]

/-- The comparison says whether the wait is over, at every time up to `h`, if and only if the
counter does not wrap up to then. -/
theorem before_read_iff {v : ℕ} (hv : w ≤ v) {start wait : BitVec w} {h : ℕ}
    (hwait : wait.toNat ≤ h) (hh : h < 2 ^ w) :
    (∀ t ≤ h, before v start wait (read start t) ↔ t < wait.toNat) ↔ start.toNat + h < 2 ^ w := by
  have hpow : 2 ^ w ≤ 2 ^ v := Nat.pow_le_pow_right (by decide) hv
  have hstart := start.isLt
  simp only [before_iff hv, toNat_read]
  constructor
  · intro hright
    by_contra hwrap
    rcases Nat.lt_or_ge (start.toNat + wait.toNat) (2 ^ v) with hsum | hsum
    · -- the deadline does not wrap: once the counter has, it is below it again
      have hlast := (hright h le_rfl).not
      rw [Nat.mod_eq_of_lt hsum, Nat.mod_eq_sub_mod (by omega), Nat.mod_eq_of_lt (by omega)] at hlast
      omega
    · -- the deadline wraps: it is over from the start
      have hfirst := hright 0 (Nat.zero_le h)
      rw [Nat.add_zero, Nat.mod_eq_of_lt hstart, Nat.mod_eq_sub_mod hsum,
        Nat.mod_eq_of_lt (by omega)] at hfirst
      omega
  · intro hwrap t ht
    rw [Nat.mod_eq_of_lt (by omega), Nat.mod_eq_of_lt (by omega)]
    omega

end Counter
