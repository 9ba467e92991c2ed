import Mathlib.Data.List.DropRight
import Terremoti.CLib

/-!
# Six digits of a number (`Utils::toString(double)`)

What `std::ostringstream` writes of a `double`: six digits with the zeros at their end left out, as a
decimal or with an exponent. Read back, a number is off by at most `5·10⁻⁶` of itself
(`abs_atofRat_toStringDouble_sub_le`).
-/

namespace Terremoti

/-- A decimal without the zeros at its end, and without the point if nothing is left behind it. -/
def pointed (ip fp : List ℕ) : List Byte :=
  let fp := fp.rdropWhile (· = 0)
  ip.map ascii ++ if fp = [] then [] else 46 :: fp.map ascii

/-- An exponent, with two digits or more. -/
def exponentText (e : ℤ) : List Byte :=
  101 :: (if e < 0 then 45 else 43) ::
    (if e.natAbs < 100 then Digits.fixed 10 2 e.natAbs else Digits.natural 10 e.natAbs).map ascii

section
variable {K : Type} [Field K] [LinearOrder K] [IsStrictOrderedRing K] [FloorRing K]

/-- The six digits of a number as one number, and the exponent of the first. -/
def sixDigits (x : K) : ℕ × ℤ :=
  let e := Int.log 10 |x|
  let m := (roundHalfEven (|x| / ((10 : ℕ) : K) ^ (e - 5))).toNat
  if m = 10 ^ 6 then (10 ^ 5, e + 1) else (m, e)

/-- The text for six digits `m` and the exponent `e`. -/
def generalText (neg : Bool) (m : ℕ) (e : ℤ) : List Byte :=
  let ds := Digits.fixed 10 6 m
  (if neg then [45] else []) ++
    if -4 ≤ e ∧ e < 6 then
      if 0 ≤ e then pointed (ds.take (e.toNat + 1)) (ds.drop (e.toNat + 1))
      else pointed [0] (List.replicate (-e - 1).toNat 0 ++ ds)
    else pointed (ds.take 1) (ds.drop 1) ++ exponentText e

/-- `Utils::toString(double)`. -/
def Utils.toStringDouble (x : K) : List Byte :=
  if x = 0 then [48] else generalText (decide (x < 0)) (sixDigits x).1 (sixDigits x).2

end

/-! ### Its length -/

theorem length_pointed_le (ip fp : List ℕ) :
    (pointed ip fp).length ≤ ip.length + 1 + fp.length := by
  have hdrop := (List.rdropWhile_prefix (fun d => decide (d = 0)) fp).length_le
  rw [pointed, List.length_append, List.length_map]
  split
  · exact Nat.le_add_right_of_le (Nat.le_add_right _ 1)
  · rw [List.length_cons, List.length_map]
    omega

theorem length_exponentText_le (e : ℤ) : (exponentText e).length ≤ e.natAbs + 4 := by
  rw [exponentText, List.length_cons, List.length_cons, List.length_map]
  split
  · rw [Digits.length_fixed]
    omega
  · have hlog : Nat.log 10 e.natAbs < e.natAbs := Nat.log_lt_self 10 (by omega)
    rw [Digits.length_natural (by decide)]
    omega

theorem length_generalText_le (neg : Bool) (m : ℕ) (e : ℤ) :
    (generalText neg m e).length ≤ e.natAbs + 13 := by
  have hsign : (if neg = true then [45] else [] : List Byte).length ≤ 1 := by
    split <;> decide
  have hds : (Digits.fixed 10 6 m).length = 6 := Digits.length_fixed 10 6 m
  rw [generalText, List.length_append]
  refine (Nat.add_le_add_right hsign _).trans ?_
  split
  · split
    · have htext := length_pointed_le ((Digits.fixed 10 6 m).take (e.toNat + 1))
        ((Digits.fixed 10 6 m).drop (e.toNat + 1))
      rw [List.length_take, List.length_drop, hds] at htext
      omega
    · have htext := length_pointed_le [0]
        (List.replicate (-e - 1).toNat 0 ++ Digits.fixed 10 6 m)
      rw [List.length_append, List.length_replicate, List.length_singleton, hds] at htext
      omega
  · have htext := length_pointed_le ((Digits.fixed 10 6 m).take 1) ((Digits.fixed 10 6 m).drop 1)
    have hexponent := length_exponentText_le e
    rw [List.length_take, List.length_drop, hds] at htext
    rw [List.length_append]
    omega

/-! ### Its characters -/

theorem notMem_pointed {c : Byte} (hdigit : digit? c = none) (hpoint : c ≠ 46) {ip fp : List ℕ}
    (hip : ∀ d ∈ ip, d < 10) (hfp : ∀ d ∈ fp, d < 10) : c ∉ pointed ip fp := by
  have hfp' : ∀ d ∈ fp.rdropWhile (· = 0), d < 10 := fun d hd =>
    hfp d ((List.rdropWhile_prefix _ _).subset hd)
  rw [pointed, List.mem_append, not_or]
  refine ⟨notMem_ascii hip hdigit, ?_⟩
  split
  · exact List.not_mem_nil
  · exact List.not_mem_cons_of_ne_of_not_mem hpoint (notMem_ascii hfp' hdigit)

theorem notMem_exponentText {c : Byte} (hdigit : digit? c = none) {e : ℤ} (hplus : c = 43 → e < 0)
    (hminus : c ≠ 45) (hletter : c ≠ 101) : c ∉ exponentText e := by
  refine List.not_mem_cons_of_ne_of_not_mem hletter (List.not_mem_cons_of_ne_of_not_mem ?_ ?_)
  · split
    · exact hminus
    · exact fun hc => absurd (hplus hc) ‹_›
  · refine notMem_ascii ?_ hdigit
    split
    · exact fun d hd => Digits.lt_of_mem_fixed (by decide) hd
    · exact fun d hd => Digits.lt_of_mem_natural (by decide) hd

theorem lt_of_mem_zeros (k m : ℕ) : ∀ d ∈ List.replicate k 0 ++ Digits.fixed 10 6 m, d < 10 := by
  intro d hd
  rcases List.mem_append.1 hd with hd | hd
  · rw [List.eq_of_mem_replicate hd]
    decide
  · exact Digits.lt_of_mem_fixed (by decide) hd

/-- A plus sign is only in the exponent of a large number. -/
theorem notMem_generalText {c : Byte} (hdigit : digit? c = none) (hpoint : c ≠ 46)
    (hminus : c ≠ 45) (hletter : c ≠ 101) (neg : Bool) (m : ℕ) {e : ℤ} (hplus : c = 43 → e < 6) :
    c ∉ generalText neg m e := by
  have hds : ∀ d ∈ Digits.fixed 10 6 m, d < 10 := fun d hd =>
    Digits.lt_of_mem_fixed (by decide) hd
  have htake : ∀ k, ∀ d ∈ (Digits.fixed 10 6 m).take k, d < 10 := fun k d hd =>
    hds d (List.mem_of_mem_take hd)
  have hdrop : ∀ k, ∀ d ∈ (Digits.fixed 10 6 m).drop k, d < 10 := fun k d hd =>
    hds d (List.mem_of_mem_drop hd)
  rw [generalText, List.mem_append, not_or]
  constructor
  · cases neg with
    | true => simpa using hminus
    | false => exact List.not_mem_nil
  · split
    · split
      · exact notMem_pointed hdigit hpoint (htake _) (hdrop _)
      · exact notMem_pointed hdigit hpoint (by decide) (lt_of_mem_zeros _ m)
    · rename_i hrange
      rw [List.mem_append, not_or]
      refine ⟨notMem_pointed hdigit hpoint (htake _) (hdrop _),
        notMem_exponentText hdigit ?_ hminus hletter⟩
      rintro rfl
      have hlt := hplus rfl
      omega

/-! ### Reading it -/

theorem value_rdropWhile (ip fp : List ℕ) :
    (Digits.value 10 (ip ++ fp.rdropWhile (· = 0)) : ℚ) / 10 ^ (fp.rdropWhile (· = 0)).length =
      Digits.value 10 (ip ++ fp) / 10 ^ fp.length := by
  induction fp using List.reverseRecOn with
  | nil => rfl
  | append_singleton fp d ih =>
    by_cases hd : d = 0
    · have hlast : Digits.value 10 (ip ++ (fp ++ [0])) = Digits.value 10 (ip ++ fp) * 10 := by
        rw [← List.append_assoc, Digits.value_append (b := 10) (ip ++ fp) [0],
          Digits.value_singleton, Nat.add_zero, List.length_singleton, pow_one]
      rw [List.rdropWhile_concat_pos _ _ _ (by simpa using hd), ih, hd, hlast, List.length_append,
        List.length_singleton, pow_succ, Nat.cast_mul, Nat.cast_ofNat,
        mul_div_mul_right _ _ (by norm_num)]
    · rw [List.rdropWhile_concat_neg _ _ _ (by simpa using hd)]

/-- `atof` of a decimal and what may come behind it. -/
theorem atofRat_pointed (neg : Bool) {ip fp : List ℕ} (hip : ip ≠ []) (hip10 : ∀ d ∈ ip, d < 10)
    (hfp10 : ∀ d ∈ fp, d < 10) {tail : List Byte} (htail : (spanDigits digit? tail) = ([], tail))
    (hpoint : fraction tail = ([], tail)) :
    atofRat ((if neg then [45] else []) ++ (pointed ip fp ++ tail)) =
      (if neg then -1 else 1) *
        (Digits.value 10 (ip ++ fp) / 10 ^ fp.length * 10 ^ exponent tail) := by
  obtain ⟨fp', hfp'⟩ : ∃ fp', fp.rdropWhile (· = 0) = fp' := ⟨_, rfl⟩
  have hvalue := value_rdropWhile ip fp
  rw [hfp'] at hvalue
  have hmem : ∀ d ∈ fp', d < 10 := fun d hd =>
    hfp10 d ((List.rdropWhile_prefix _ _).subset (hfp' ▸ hd))
  have hsign : ∀ s, sign (((if neg then [45] else []) ++ (ip.map ascii ++ s)).dropWhile isspace) =
      (neg, ip.map ascii ++ s) := by
    intro s
    cases neg with
    | true => rfl
    | false =>
      obtain ⟨d, ip, rfl⟩ := List.exists_cons_of_ne_nil hip
      exact sign_ascii (hip10 d List.mem_cons_self) _
  rw [pointed, hfp']
  by_cases hnil : fp' = []
  · rw [if_pos hnil, List.append_nil, atofRat, hsign]
    dsimp only
    rw [spanDigits_ascii hip10 (by rw [htail]), htail]
    dsimp only
    rw [hpoint]
    dsimp only
    rw [← hvalue, hnil]
    cases neg <;> simp
  · rw [if_neg hnil, List.append_assoc, atofRat, hsign]
    dsimp only
    have hspan : spanDigits digit? (ip.map ascii ++ (46 :: fp'.map ascii ++ tail)) =
        (ip, 46 :: fp'.map ascii ++ tail) := spanDigits_ascii hip10 rfl
    have hfrac : fraction (46 :: fp'.map ascii ++ tail) = (fp', tail) := by
      have h := spanDigits_ascii hmem (s := tail) (by rw [htail])
      rw [htail] at h
      exact h
    rw [hspan]
    dsimp only
    rw [hfrac]
    dsimp only
    rw [← hvalue]
    cases neg <;> simp

theorem atofRat_pointed_nil (neg : Bool) {ip fp : List ℕ} (hip : ip ≠ []) (hip10 : ∀ d ∈ ip, d < 10)
    (hfp10 : ∀ d ∈ fp, d < 10) :
    atofRat ((if neg then [45] else []) ++ pointed ip fp) =
      (if neg then -1 else 1) * (Digits.value 10 (ip ++ fp) / 10 ^ fp.length) := by
  have hread := atofRat_pointed neg hip hip10 hfp10 (show spanDigits digit? [] = ([], []) from rfl) rfl
  rw [List.append_nil] at hread
  rw [hread, show exponent [] = 0 from rfl, zpow_zero, mul_one]

theorem exponent_exponentText (e : ℤ) :
    spanDigits digit? (exponentText e) = ([], exponentText e) ∧
      fraction (exponentText e) = ([], exponentText e) ∧ exponent (exponentText e) = e := by
  refine ⟨rfl, rfl, ?_⟩
  obtain ⟨ds, hds⟩ : ∃ ds, (if e.natAbs < 100 then Digits.fixed 10 2 e.natAbs
    else Digits.natural 10 e.natAbs) = ds := ⟨_, rfl⟩
  have hvalue : Digits.value 10 ds = e.natAbs := by
    rw [← hds]
    split
    · rw [Digits.value_fixed, Nat.mod_eq_of_lt ‹_›]
    · rw [Digits.value_natural]
  have hmem : ∀ d ∈ ds, d < 10 := by
    rw [← hds]
    split
    · exact fun d hd => Digits.lt_of_mem_fixed (by decide) hd
    · exact fun d hd => Digits.lt_of_mem_natural (by decide) hd
  have hspan : spanDigits digit? (ds.map ascii) = (ds, []) := by
    have h := spanDigits_ascii hmem (s := []) rfl
    rwa [List.append_nil] at h
  rw [exponentText, hds]
  by_cases he : e < 0
  · rw [if_pos he]
    show -((Digits.value 10 (spanDigits digit? (ds.map ascii)).1 : ℕ) : ℤ) = e
    rw [hspan, hvalue]
    omega
  · rw [if_neg he]
    show ((Digits.value 10 (spanDigits digit? (ds.map ascii)).1 : ℕ) : ℤ) = e
    rw [hspan, hvalue]
    omega

/-- The text stands for the digits at their place. -/
theorem atofRat_generalText (neg : Bool) {m : ℕ} (hm : m < 10 ^ 6) (e : ℤ) :
    atofRat (generalText neg m e) = (if neg then -1 else 1) * (m * 10 ^ (e - 5)) := by
  obtain ⟨ds, hds⟩ : ∃ ds, Digits.fixed 10 6 m = ds := ⟨_, rfl⟩
  have hlen : ds.length = 6 := by rw [← hds, Digits.length_fixed]
  have hmem : ∀ d ∈ ds, d < 10 := by
    rw [← hds]
    exact fun d hd => Digits.lt_of_mem_fixed (by decide) hd
  have hvalue : Digits.value 10 ds = m := by rw [← hds, Digits.value_fixed, Nat.mod_eq_of_lt hm]
  have htake : ∀ k, 0 < k → ds.take k ≠ [] := by
    intro k hk hnil
    have hlength := congrArg List.length hnil
    rw [List.length_take, hlen, List.length_nil] at hlength
    omega
  have hten : (10 : ℚ) ≠ 0 := by norm_num
  rw [generalText, hds]
  by_cases hrange : -4 ≤ e ∧ e < 6
  · rw [if_pos hrange]
    by_cases hpos : 0 ≤ e
    · -- the point is among the digits
      have hread := atofRat_pointed_nil neg (htake (e.toNat + 1) (Nat.succ_pos _))
        (fun d hd => hmem d (List.mem_of_mem_take hd))
        (fun d (hd : d ∈ ds.drop (e.toNat + 1)) => hmem d (List.mem_of_mem_drop hd))
      rw [List.take_append_drop, hvalue, List.length_drop, hlen] at hread
      rw [if_pos hpos, hread, div_eq_mul_inv, ← zpow_natCast, ← zpow_neg]
      congr 3
      omega
    · -- or in front of them
      have hzeros : Digits.value 10 ([0] ++ (List.replicate (-e - 1).toNat 0 ++ ds)) = m := by
        exact (Digits.value_replicate_zero_append 10 ((-e - 1).toNat + 1) ds).trans hvalue
      have hfraction : ∀ d ∈ List.replicate (-e - 1).toNat 0 ++ ds, d < 10 := by
        rw [← hds]
        exact lt_of_mem_zeros _ m
      have hread := atofRat_pointed_nil neg (List.cons_ne_nil 0 []) (by decide) hfraction
      rw [hzeros, List.length_append, List.length_replicate, hlen] at hread
      rw [if_neg hpos, hread, div_eq_mul_inv, ← zpow_natCast, ← zpow_neg]
      congr 3
      omega
  · obtain ⟨hspan, hfrac, hexp⟩ := exponent_exponentText e
    have hread := atofRat_pointed neg (htake 1 (Nat.succ_pos _))
      (fun d hd => hmem d (List.mem_of_mem_take hd))
      (fun d (hd : d ∈ ds.drop 1) => hmem d (List.mem_of_mem_drop hd)) hspan hfrac
    rw [List.take_append_drop, hvalue, List.length_drop, hlen, hexp] at hread
    rw [if_neg hrange, hread, div_mul_eq_mul_div, mul_div_assoc, zpow_sub₀ hten]
    rfl

/-! ### How far off it is -/

section
variable {K : Type} [Field K] [LinearOrder K] [IsStrictOrderedRing K] [FloorRing K]

theorem abs_roundHalfEven_sub_le (y : K) : |(roundHalfEven y : K) - y| ≤ 1 / 2 := by
  have hfloor := Int.floor_le y
  have hlt := Int.lt_floor_add_one y
  rw [abs_le]
  unfold roundHalfEven
  dsimp only
  split_ifs with h h' h''
  · constructor <;> linarith
  · push_cast
    constructor <;> linarith
  · constructor <;> linarith
  · push_cast
    constructor <;> linarith

omit [IsStrictOrderedRing K] in
theorem roundHalfEven_mem {y : K} {a b : ℤ} (ha : (a : K) ≤ y) (hb : y < b) :
    a ≤ roundHalfEven y ∧ roundHalfEven y ≤ b := by
  have hfloor : a ≤ ⌊y⌋ := Int.le_floor.2 ha
  have hlt : ⌊y⌋ < b := Int.floor_lt.2 hb
  unfold roundHalfEven
  dsimp only
  split_ifs <;> omega

/-- Six digits do for a number up to half a unit of the last. -/
theorem sixDigits_spec {x : K} (hx : x ≠ 0) :
    (sixDigits x).1 < 10 ^ 6 ∧
      abs (((sixDigits x).1 : K) * 10 ^ ((sixDigits x).2 - 5) - |x|) ≤ |x| * (5 / 10 ^ 6) := by
  have hpos : 0 < |x| := abs_pos.2 hx
  obtain ⟨e, he⟩ : ∃ e, Int.log 10 |x| = e := ⟨_, rfl⟩
  obtain ⟨u, hu⟩ : ∃ u : K, 10 ^ (e - 5) = u := ⟨_, rfl⟩
  have hten : (10 : K) ≠ 0 := by norm_num
  have hunit : 0 < u := hu ▸ zpow_pos (by norm_num) _
  have hplace : ∀ k : ℕ, (10 : K) ^ (e - 5 + k) = 10 ^ k * u := fun k => by
    rw [zpow_add₀ hten, zpow_natCast, hu, mul_comm]
  -- between `10⁵` and `10⁶` units of the last digit
  have hlow : 10 ^ 5 * u ≤ |x| := by
    rw [← hplace 5, show e - 5 + (5 : ℕ) = e by push_cast; ring, ← he]
    exact_mod_cast Int.zpow_log_le_self (b := 10) (by norm_num) hpos
  have hhigh : |x| < 10 ^ 6 * u := by
    rw [← hplace 6, show e - 5 + (6 : ℕ) = e + 1 by push_cast; ring, ← he]
    exact_mod_cast Int.lt_zpow_succ_log_self (b := 10) (by norm_num) |x|
  have hle : (((10 ^ 5 : ℕ) : ℤ) : K) ≤ |x| / u := by
    rw [le_div_iff₀ hunit]
    exact_mod_cast hlow
  have hlt : |x| / u < (((10 ^ 6 : ℕ) : ℤ) : K) := by
    rw [div_lt_iff₀ hunit]
    exact_mod_cast hhigh
  obtain ⟨hge, hmax⟩ := roundHalfEven_mem hle hlt
  have hround := abs_roundHalfEven_sub_le (|x| / u)
  obtain ⟨m, hm⟩ := Int.eq_ofNat_of_zero_le ((Int.natCast_nonneg _).trans hge)
  rw [hm, Nat.cast_le] at hmax
  rw [hm, Int.cast_natCast] at hround
  have hvalue : ((sixDigits x).1 : K) * 10 ^ ((sixDigits x).2 - 5) = m * u ∧
      (sixDigits x).1 < 10 ^ 6 := by
    rw [sixDigits, he, Nat.cast_ofNat, hu, hm, Int.toNat_natCast]
    by_cases hcarry : m = 10 ^ 6
    · rw [if_pos hcarry, hcarry]
      refine ⟨?_, by norm_num⟩
      have hone := hplace 1
      rw [show e - 5 + (1 : ℕ) = e + 1 - 5 by push_cast; ring] at hone
      rw [hone]
      push_cast
      ring
    · rw [if_neg hcarry, hu]
      exact ⟨rfl, lt_of_le_of_ne hmax hcarry⟩
  refine ⟨hvalue.2, ?_⟩
  rw [hvalue.1]
  calc abs ((m : K) * u - |x|) = |(m : K) - |x| / u| * u := by
        rw [← abs_of_pos hunit, ← abs_mul, abs_of_pos hunit, sub_mul, div_mul_cancel₀ _ hunit.ne']
    _ ≤ 1 / 2 * u := mul_le_mul_of_nonneg_right hround hunit.le
    _ ≤ |x| * (5 / 10 ^ 6) := by linarith

/-- A number with less than six digits before its point needs no exponent for them. -/
theorem sixDigits_lt {x : K} (hx : x ≠ 0) (h : |x| < 10 ^ 5) : (sixDigits x).2 < 6 := by
  have hlog : Int.log 10 |x| < 5 := by
    rw [← Int.lt_zpow_iff_log_lt (by norm_num) (abs_pos.2 hx)]
    exact_mod_cast h
  unfold sixDigits
  dsimp only
  split
  · dsimp only
    omega
  · dsimp only
    omega

theorem neg_le_sixDigits {x : K} (hx : x ≠ 0) {k : ℕ} (h : 1 ≤ |x| * 10 ^ k) :
    -(k : ℤ) ≤ (sixDigits x).2 := by
  have hlog : -(k : ℤ) ≤ Int.log 10 |x| := by
    rw [← Int.zpow_le_iff_le_log (by norm_num) (abs_pos.2 hx), zpow_neg, zpow_natCast,
      inv_le_iff_one_le_mul₀ (by positivity)]
    exact_mod_cast h
  unfold sixDigits
  dsimp only
  split
  · dsimp only
    omega
  · exact hlog

/-- The text of a number is short, if the number is neither large nor close to zero. -/
theorem length_toStringDouble_le {x : K} {k : ℕ} (hlow : x ≠ 0 → 1 ≤ |x| * 10 ^ k)
    (hhigh : |x| < 10 ^ 5) : (Utils.toStringDouble x).length ≤ k + 18 := by
  rw [Utils.toStringDouble]
  split
  · exact Nat.le_add_left 1 (k + 17)
  · rename_i hx
    have htext := length_generalText_le (decide (x < 0)) (sixDigits x).1 (sixDigits x).2
    have hle := neg_le_sixDigits hx (hlow hx)
    have hlt := sixDigits_lt hx hhigh
    omega

/-- No separator of a `POST` comes up in a number, and a plus sign only in a large one. -/
theorem notMem_toStringDouble {c : Byte} (hdigit : digit? c = none) (hpoint : c ≠ 46)
    (hminus : c ≠ 45) (hletter : c ≠ 101) {x : K} (hplus : c = 43 → |x| < 10 ^ 5) :
    c ∉ Utils.toStringDouble x := by
  rw [Utils.toStringDouble]
  split
  · refine List.not_mem_cons_of_ne_of_not_mem (fun h => ?_) List.not_mem_nil
    rw [h] at hdigit
    cases hdigit
  · rename_i hx
    exact notMem_generalText hdigit hpoint hminus hletter _ _ fun hc => sixDigits_lt hx (hplus hc)

/-- What `std::ostringstream` writes of a number is off by at most `5·10⁻⁶` of it. -/
theorem abs_atofRat_toStringDouble_sub_le (x : K) :
    |(atofRat (Utils.toStringDouble x) : K) - x| ≤ |x| * (5 / 10 ^ 6) := by
  rw [Utils.toStringDouble]
  by_cases hx : x = 0
  · have hzero : atofRat [48] = 0 := by decide +kernel
    rw [if_pos hx, hzero, hx]
    simp
  · obtain ⟨hm, herr⟩ := sixDigits_spec hx
    rw [if_neg hx, atofRat_generalText _ hm]
    rcases lt_or_gt_of_ne hx with hneg | hpos
    · rw [decide_eq_true hneg, if_pos rfl]
      rw [abs_of_neg hneg] at herr ⊢
      push_cast
      rw [← abs_neg]
      convert herr using 2
      ring
    · rw [decide_eq_false hpos.not_gt, if_neg Bool.false_ne_true]
      rw [abs_of_pos hpos] at herr ⊢
      push_cast
      rwa [one_mul]

end

end Terremoti
