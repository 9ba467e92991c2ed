import Terremoti.PowerLoss

/-!
# A coordinate over several reboots (`Config::save`, `Config::readConfigFile`)

What a reboot makes of a coordinate is what is left of its printed text after 8 characters. `micros`
is that number in millionths, for a text of any length, and it prints to a text that begins with the
same 8 characters: so the second reboot changes nothing (`stored_stored`). The detector computes in
`ℝ`, where a coordinate that came from a packet or a file is a rational number all the same
(`printf6_cast`).
-/

namespace Terremoti

/-! ### The text -/

/-- `printf6` of a number of `m` millionths, with or without a sign. -/
def decimalText (neg : Bool) (m : ℕ) : List Byte :=
  (if neg then [45] else []) ++ (Digits.natural 10 (m / 10 ^ 6)).map ascii ++
    46 :: (Digits.fixed 10 6 m).map ascii

theorem printf6_eq (x : ℚ) :
    printf6 x = decimalText (decide (x < 0)) (roundHalfEven (|x| * 10 ^ 6)).toNat := by
  simp [printf6, decimalText]

/-- The characters in front of the last integer digit. -/
def ahead (neg : Bool) (m : ℕ) : ℕ := (if neg then 1 else 0) + Nat.log 10 (m / 10 ^ 6)

/-- The millionths that the first 8 characters stand for: without the decimals cut off, or without
the integer digits cut off. -/
def micros (neg : Bool) (m : ℕ) : ℕ :=
  if ahead neg m ≤ 6 then m / 10 ^ ahead neg m * 10 ^ ahead neg m
  else m / 10 ^ 6 / 10 ^ (ahead neg m - 7) * 10 ^ 6

theorem atofRat_integer (neg : Bool) {ip : List ℕ} (hip : ip ≠ []) (hip10 : ∀ d ∈ ip, d < 10) :
    atofRat ((if neg then [45] else []) ++ ip.map ascii) =
      (if neg then -1 else 1) * Digits.value 10 ip := by
  have hint : spanDigits digit? (ip.map ascii) = (ip, []) := by
    have h := spanDigits_ascii hip10 (s := []) rfl
    rwa [List.append_nil] at h
  have hsign : sign (((if neg then [45] else []) ++ ip.map ascii).dropWhile isspace) =
      (neg, ip.map ascii) := by
    cases neg with
    | true => rfl
    | false =>
      obtain ⟨d, ip, rfl⟩ := List.exists_cons_of_ne_nil hip
      exact sign_ascii (hip10 d List.mem_cons_self) _
  rw [atofRat, hsign]
  dsimp only
  rw [hint]
  cases neg <;> simp [fraction, exponent]

/-- The first 8 characters, read back. -/
theorem atofRat_take_decimalText (neg : Bool) (m : ℕ) :
    atofRat ((decimalText neg m).take 8) = (if neg then -1 else 1) * (micros neg m / 10 ^ 6) := by
  obtain ⟨front, hfront⟩ : ∃ front, (if neg then [45] else ([] : List Byte)) = front := ⟨_, rfl⟩
  have hlen : front.length = if neg then 1 else 0 := by rw [← hfront]; cases neg <;> rfl
  have hip : (Digits.natural 10 (m / 10 ^ 6)).length = Nat.log 10 (m / 10 ^ 6) + 1 :=
    Digits.length_natural (by decide) _
  have hip10 : ∀ d ∈ Digits.natural 10 (m / 10 ^ 6), d < 10 :=
    fun d => Digits.lt_of_mem_natural (by decide)
  rw [micros]
  by_cases hpoint : ahead neg m ≤ 6
  · have hahead : front.length + (Nat.log 10 (m / 10 ^ 6) + 1) = ahead neg m + 1 := by
      rw [hlen, ahead]; omega
    have htake : (decimalText neg m).take 8 = front ++
        (Digits.natural 10 (m / 10 ^ 6)).map ascii ++
        46 :: ((Digits.fixed 10 6 m).take (6 - ahead neg m)).map ascii := by
      rw [decimalText, hfront, List.take_append,
        List.take_of_length_le (by rw [List.length_append, List.length_map, hip]; omega),
        List.length_append, List.length_map, hip, hahead,
        show 8 - (ahead neg m + 1) = 6 - ahead neg m + 1 by omega, List.take_succ_cons, List.map_take]
    have hvalue := Digits.value_natural_append_take (show 0 < 10 by decide) m (6 - ahead neg m)
      (ahead neg m)
    rw [Nat.sub_add_cancel hpoint] at hvalue
    have hpow : (10 : ℚ) ^ 6 = 10 ^ (6 - ahead neg m) * 10 ^ ahead neg m := by
      rw [← pow_add, Nat.sub_add_cancel hpoint]
    rw [htake, ← hfront, atofRat_decimal neg (Digits.natural_ne_nil 10 _) hip10
      (fun d hd => Digits.lt_of_mem_fixed (by decide) (List.mem_of_mem_take hd)), hvalue,
      List.length_take, Digits.length_fixed, Nat.min_eq_left (Nat.sub_le 6 _), if_pos hpoint,
      Nat.cast_mul, Nat.cast_pow, Nat.cast_ofNat, hpow,
      mul_div_mul_right _ _ (by positivity)]
  · have hahead : front.length + Nat.log 10 (m / 10 ^ 6) = ahead neg m := by rw [hlen, ahead]
    have hfront1 : front.length ≤ 1 := by rw [hlen]; cases neg <;> simp
    have htake : (decimalText neg m).take 8 = front ++
        ((Digits.natural 10 (m / 10 ^ 6)).take (8 - front.length)).map ascii := by
      rw [decimalText, hfront, List.append_assoc, List.take_append,
        List.take_of_length_le (by omega),
        List.take_append_of_le_length (by rw [List.length_map, hip]; omega),
        List.map_take]
    have hne : (Digits.natural 10 (m / 10 ^ 6)).take (8 - front.length) ≠ [] := by
      refine List.ne_nil_of_length_pos ?_
      rw [List.length_take, hip]
      omega
    have hread := atofRat_integer neg hne fun d hd => hip10 d (List.mem_of_mem_take hd)
    rw [hfront] at hread
    rw [htake, hread, Digits.value_take (by decide) hip10, Digits.value_natural, hip, if_neg hpoint,
      show Nat.log 10 (m / 10 ^ 6) + 1 - (8 - front.length) = ahead neg m - 7 by omega,
      Nat.cast_mul, Nat.cast_pow, Nat.cast_ofNat, mul_div_cancel_right₀ _ (by positivity)]

/-! ### The second time -/

theorem log_div_pow (n k : ℕ) : Nat.log 10 (n / 10 ^ k) = Nat.log 10 n - k := by
  induction k generalizing n with
  | zero => simp
  | succ k ih => rw [pow_succ', ← Nat.div_div_eq_div_mul, ih, Nat.log_div_base]; omega

/-- What is left after 8 characters is left again, if the sign is kept; a zero has none. -/
theorem micros_micros (neg : Bool) (m : ℕ) :
    micros (neg && decide (micros neg m ≠ 0)) (micros neg m) = micros neg m := by
  obtain ⟨y, hy⟩ : ∃ y, micros neg m = y := ⟨_, rfl⟩
  rw [hy]
  by_cases hzero : y = 0
  · rw [hzero]
    simp [micros]
  have hneg : (neg && decide (y ≠ 0)) = neg := by simp [hzero]
  rw [hneg]
  rw [micros] at hy
  by_cases hpoint : ahead neg m ≤ 6
  · rw [if_pos hpoint] at hy
    -- the decimals cut off are not among the integer digits
    have hint : y / 10 ^ 6 = m / 10 ^ 6 := by
      have hpow : 10 ^ 6 = 10 ^ ahead neg m * 10 ^ (6 - ahead neg m) := by
        rw [← pow_add, Nat.add_sub_cancel' hpoint]
      rw [← hy, hpow, ← Nat.div_div_eq_div_mul, ← Nat.div_div_eq_div_mul,
        Nat.mul_div_cancel _ (by positivity)]
    have hahead : ahead neg y = ahead neg m := by rw [ahead, hint, ahead]
    rw [micros, hahead, if_pos hpoint, ← hy, Nat.mul_div_cancel _ (by positivity)]
  · rw [if_neg hpoint] at hy
    have hint : y / 10 ^ 6 = m / 10 ^ 6 / 10 ^ (ahead neg m - 7) := by
      rw [← hy, Nat.mul_div_cancel _ (by decide)]
    have hahead : ahead neg y = 7 := by
      rw [ahead, hint, log_div_pow]
      rw [ahead] at hpoint ⊢
      split at hpoint <;> simp_all <;> omega
    rw [micros, hahead, if_neg (by decide), hint, Nat.sub_self, pow_zero, Nat.div_one, hy]

theorem micros_lt (neg : Bool) (m : ℕ) : micros neg m < 10 ^ 14 := by
  have hlog : m / 10 ^ 6 < 10 ^ (Nat.log 10 (m / 10 ^ 6) + 1) :=
    Nat.lt_pow_succ_log_self (by decide) _
  have hle : Nat.log 10 (m / 10 ^ 6) ≤ ahead neg m := Nat.le_add_left _ _
  unfold micros
  split
  · rename_i hpoint
    have hpow : 10 ^ (Nat.log 10 (m / 10 ^ 6) + 1) ≤ 10 ^ 7 :=
      Nat.pow_le_pow_right (by decide) (by omega)
    have hcut := Nat.div_mul_le_self m (10 ^ ahead neg m)
    omega
  · rename_i hpoint
    have hpow : 10 ^ (Nat.log 10 (m / 10 ^ 6) + 1) ≤ 10 ^ 8 * 10 ^ (ahead neg m - 7) := by
      rw [← pow_add]
      exact Nat.pow_le_pow_right (by decide) (by omega)
    have hcut : m / 10 ^ 6 / 10 ^ (ahead neg m - 7) < 10 ^ 8 := by
      rw [Nat.div_lt_iff_lt_mul (by positivity)]
      omega
    omega

/-- A coordinate after a reboot. -/
def restored (x : ℚ) : ℚ := Utils.atofn (printf6 x) 8

theorem nul_notMem_printf6 (x : ℚ) : (0 : Byte) ∉ printf6 x := by
  intro h
  obtain h | h | ⟨d, hd, h⟩ := mem_printf6 h
  · cases h
  · cases h
  · interval_cases d <;> cases h

theorem restored_of_printf6 {x : ℚ} {neg : Bool} {m : ℕ} (h : printf6 x = decimalText neg m) :
    restored x = (if neg then -1 else 1) * (micros neg m / 10 ^ 6) := by
  rw [restored, Utils.atofn, cstr_of_notMem (nul_notMem_printf6 x), h]
  exact atofRat_take_decimalText neg m

theorem abs_restored (x : ℚ) : |restored x| =
    (micros (decide (x < 0)) (roundHalfEven (|x| * 10 ^ 6)).toNat : ℚ) / 10 ^ 6 := by
  have hsign : |(if decide (x < 0) then -1 else 1 : ℚ)| = 1 := by split <;> simp
  rw [restored_of_printf6 (printf6_eq x), abs_mul, hsign, one_mul, abs_of_nonneg (by positivity)]

theorem abs_restored_lt (x : ℚ) : |restored x| < 10 ^ 8 := by
  have hmicros := micros_lt (decide (x < 0)) (roundHalfEven (|x| * 10 ^ 6)).toNat
  rw [abs_restored, div_lt_iff₀ (by norm_num)]
  exact_mod_cast hmicros

theorem one_le_abs_restored {x : ℚ} (h : restored x ≠ 0) : 1 ≤ |restored x| * 10 ^ 45 := by
  have hpos := abs_pos.2 h
  rw [abs_restored] at hpos ⊢
  obtain ⟨m, hm⟩ : ∃ m, micros (decide (x < 0)) (roundHalfEven (|x| * 10 ^ 6)).toNat = m := ⟨_, rfl⟩
  rw [hm] at hpos ⊢
  have hone : (1 : ℚ) ≤ m := by
    rcases Nat.eq_zero_or_pos m with rfl | hm
    · simp at hpos
    · exact_mod_cast hm
  rw [div_mul_eq_mul_div, le_div_iff₀ (by norm_num)]
  linarith

theorem printf6_signed (neg : Bool) (y : ℕ) :
    printf6 ((if neg then -1 else 1) * ((y : ℚ) / 10 ^ 6)) =
      decimalText (neg && decide (y ≠ 0)) y := by
  cases neg with
  | false =>
    have hprint := printf6_micro y
    rw [if_neg (by omega), Int.natAbs_natCast, Int.cast_natCast] at hprint
    simpa [decimalText] using hprint
  | true =>
    have hprint := printf6_micro (-y)
    have hsign : -(y : ℤ) < 0 ↔ y ≠ 0 := by omega
    rw [Int.natAbs_neg, Int.natAbs_natCast, Int.cast_neg, Int.cast_natCast, neg_div] at hprint
    simp only [hsign] at hprint
    simpa [decimalText] using hprint

/-- The second reboot leaves a coordinate as it is. -/
theorem restored_restored (x : ℚ) : restored (restored x) = restored x := by
  obtain ⟨neg, hneg⟩ : ∃ neg, decide (x < 0) = neg := ⟨_, rfl⟩
  obtain ⟨m, hm⟩ : ∃ m, (roundHalfEven (|x| * 10 ^ 6)).toNat = m := ⟨_, rfl⟩
  have hx := printf6_eq x
  rw [hneg, hm] at hx
  rw [restored_of_printf6 hx, restored_of_printf6 (printf6_signed neg _), micros_micros]
  by_cases hzero : micros neg m = 0
  · rw [hzero]
    simp
  · simp [hzero]

/-! ### In the real numbers -/

theorem roundHalfEven_cast (x : ℚ) : roundHalfEven (x : ℝ) = roundHalfEven x := by
  have hlow : (x : ℝ) - (⌊x⌋ : ℤ) < 1 / 2 ↔ x - (⌊x⌋ : ℤ) < 1 / 2 := by
    rw [← Rat.cast_lt (K := ℝ)]
    push_cast
    rfl
  have hhigh : 1 / 2 < (x : ℝ) - (⌊x⌋ : ℤ) ↔ 1 / 2 < x - (⌊x⌋ : ℤ) := by
    rw [← Rat.cast_lt (K := ℝ)]
    push_cast
    rfl
  simp only [roundHalfEven, Rat.floor_cast, hlow, hhigh]

theorem printf6_cast (x : ℚ) : printf6 (x : ℝ) = printf6 x := by
  have hround : roundHalfEven (|(x : ℝ)| * 10 ^ 6) = roundHalfEven (|x| * 10 ^ 6) := by
    rw [← roundHalfEven_cast]
    push_cast
    rfl
  have hneg : (x : ℝ) < 0 ↔ x < 0 := Rat.cast_lt_zero
  simp only [printf6, hround, hneg]

/-- A coordinate that can be saved: zero, or a number within the bounds of the singles. -/
def Coordinate (x : ℝ) : Prop := ∃ q : ℚ, x = q ∧ |q| < 10 ^ 39 ∧ (q ≠ 0 → 1 ≤ |q| * 10 ^ 45)

namespace Coordinate

theorem zero : Coordinate (0 : ℕ) := ⟨0, by simp, by norm_num, fun h => absurd rfl h⟩

theorem ofFloat (bits : BitVec 32) : Coordinate (DoubleText.ofFloat bits) :=
  ⟨_, rfl, abs_ofFloatRat_lt bits, one_le_abs_ofFloatRat⟩

variable {x : ℝ}

theorem storable (h : Coordinate x) : Storable (DoubleText.printf x) := by
  obtain ⟨q, rfl, hq, -⟩ := h
  have hprint : DoubleText.printf (q : ℝ) = printf6 q := printf6_cast q
  rw [hprint]
  exact storable_printf6_of_lt hq (by decide)

theorem atofn_printf (q : ℚ) :
    (Utils.atofn (DoubleText.printf (q : ℝ)) 8 : ℝ) = (restored q : ℚ) := by
  have hprint : DoubleText.printf (q : ℝ) = printf6 q := printf6_cast q
  rw [hprint]
  rfl

theorem one_le_abs (h : Coordinate x) (hx : x ≠ 0) : 1 ≤ |x| * 10 ^ 45 := by
  obtain ⟨q, rfl, -, hq⟩ := h
  exact_mod_cast hq (by exact_mod_cast hx)

theorem restored (h : Coordinate x) : Coordinate (Utils.atofn (DoubleText.printf x) 8) := by
  obtain ⟨q, rfl, -⟩ := h
  rw [atofn_printf]
  exact ⟨_, rfl, (abs_restored_lt q).trans (by norm_num), one_le_abs_restored⟩

end Coordinate

/-- The configuration has a device id and coordinates that can be saved. -/
structure Saveable (c : Config ℝ) : Prop where
  id : Storable c.macAddress
  id12 : 12 ≤ c.macAddress.length
  lat : Coordinate c.lat
  lon : Coordinate c.lon

namespace Saveable
variable {c : Config ℝ}

theorem stored (h : Saveable c) : Saveable c.stored := ⟨h.id, h.id12, h.lat.restored, h.lon.restored⟩

theorem stored_stored (h : Saveable c) : c.stored.stored = c.stored := by
  obtain ⟨lat, hlat, -⟩ := h.lat
  obtain ⟨lon, hlon, -⟩ := h.lon
  have hstored : c.stored = ⟨c.macAddress, (restored lat : ℚ), (restored lon : ℚ)⟩ := by
    rw [Config.stored, hlat, hlon, Coordinate.atofn_printf, Coordinate.atofn_printf]
  rw [hstored, Config.stored, Coordinate.atofn_printf, Coordinate.atofn_printf, restored_restored,
    restored_restored]

theorem readConfigFile (h : Saveable c) (c₀ : Config ℝ) :
    c₀.readConfigFile (some c.save) = some (true, c.stored) :=
  readConfigFile_save c c₀ h.id h.id12 h.lat.storable h.lon.storable

end Saveable
end Terremoti
