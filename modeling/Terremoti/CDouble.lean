import Mathlib.Data.NNRat.Defs
import Mathlib.Algebra.Order.Field.Rat
import Terremoti.ConfigReload

/-!
# Doubles with a sign, infinities and NaNs

`CDouble` is a `double` as the C library prints and reads it. Its numbers are exact, as those of `ℚ`
are, but zero has a sign, and the infinities and NaNs a `float` may be are there: each prints as a word
that fits into the file of the configuration (`CDouble.storable_printf`).
-/

namespace Terremoti

inductive Magnitude
  | number (q : NNRat)
  | infinity
  | nan
  deriving DecidableEq

/-- What `%f` prints behind the sign. -/
def Magnitude.text : Magnitude → List Byte
  | number q => printf6 (q : ℚ)
  | infinity => str "inf"
  | nan => str "nan"

structure CDouble where
  negative : Bool
  magnitude : Magnitude
  deriving DecidableEq

instance : NatCast CDouble := ⟨fun n => ⟨false, .number n⟩⟩

/-! ### Reading -/

def lower (c : Byte) : Byte := if 65 ≤ c ∧ c ≤ 90 then c + 32 else c

/-- The binary exponent of a hexadecimal number: `p`, an optional sign and at least one digit. -/
def binaryExponent : List Byte → ℤ
  | 112 :: s | 80 :: s =>
    let (neg, s) := sign s
    let n := Digits.value 10 (spanDigits digit? s).1
    if neg then -n else n
  | _ => 0

/-- The number with the digits `ds` to the base `b`, the last `k` of them behind the point, times
`c` to the power `e`. -/
def scaled (b : ℕ) (ds : List ℕ) (k c : ℕ) (e : ℤ) : NNRat := Digits.value b ds / b ^ k * c ^ e

/-- A hexadecimal number behind its `0x`, if there is a digit. -/
def hexadecimal (s : List Byte) : Option NNRat :=
  let (ip, s) := spanDigits xdigit? s
  let (fp, s) := match s with
    | 46 :: s => spanDigits xdigit? s
    | s => ([], s)
  if ip ++ fp = [] then none
  else some (scaled 16 (ip ++ fp) fp.length 2 (binaryExponent s))

/-- A decimal number, if there is a digit. -/
def decimal (s : List Byte) : Option NNRat :=
  let (ip, s) := spanDigits digit? s
  let (fp, s) := fraction s
  if ip ++ fp = [] then none
  else some (scaled 10 (ip ++ fp) fp.length 10 (exponent s))

/-- What `strtod` reads behind the sign. -/
def strtod (s : List Byte) : Option Magnitude :=
  if str "inf" <+: s.map lower then some .infinity
  else if str "nan" <+: s.map lower then some .nan
  else if str "0x" <+: s.map lower ∧ (hexadecimal (s.drop 2)).isSome then
    (hexadecimal (s.drop 2)).map .number
  else (decimal s).map .number

/-! ### The conversions -/

namespace CDouble

def atof (s : List Byte) : CDouble :=
  let (neg, s) := sign (s.dropWhile isspace)
  match strtod s with
  | some m => ⟨neg, m⟩
  | none => ⟨false, .number 0⟩

def printf (x : CDouble) : List Byte :=
  (if x.negative then [45] else []) ++ x.magnitude.text

def ofFloat (bits : BitVec 32) : CDouble where
  negative := bits.msb
  magnitude :=
    if bits.extractLsb' 23 8 = 255 then if bits.extractLsb' 0 23 = 0 then .infinity else .nan
    else .number ⟨|ofFloatRat bits|, abs_nonneg _⟩

def toFloat (x : CDouble) : BitVec 32 :=
  let bits := match x.magnitude with
    | .number q => toSingle (q : ℚ)
    | .infinity => 0x7F800000
    | .nan => 0x7FC00000
  if x.negative then bits ||| 0x80000000 else bits

/-- Neither zero is; a NaN is. -/
def nonzero (x : CDouble) : Bool := decide (x.magnitude ≠ .number 0)

instance : DoubleText CDouble := ⟨atof, printf, ofFloat, toFloat, nonzero⟩

/-- A number below `bound`, an infinity or a NaN. -/
def Below (bound : ℚ) (x : CDouble) : Prop := ∀ q, x.magnitude = .number q → q < bound

end CDouble

/-! ### What fits into the file -/

theorem abs_ofFloatRat (bits : BitVec 32) :
    let e := (bits.extractLsb' 23 8).toNat
    let f := (bits.extractLsb' 0 23).toNat
    |ofFloatRat bits| = if e = 255 then 0 else if e = 0 then (f : ℚ) * 2 ^ (-149 : ℤ)
      else (2 ^ 23 + f) * 2 ^ ((e : ℤ) - 150) := by
  intro e f
  have hpow : ∀ k : ℤ, (0 : ℚ) ≤ 2 ^ k := fun k => zpow_nonneg (by norm_num) k
  have hnonneg : (0 : ℚ) ≤ if e = 255 then 0 else if e = 0 then (f : ℚ) * 2 ^ (-149 : ℤ)
      else (2 ^ 23 + f) * 2 ^ ((e : ℤ) - 150) := by
    split_ifs
    · exact le_rfl
    · exact mul_nonneg (Nat.cast_nonneg f) (hpow _)
    · exact mul_nonneg (by positivity) (hpow _)
  unfold ofFloatRat
  dsimp only
  split
  · rw [abs_neg, abs_of_nonneg hnonneg]
  · rw [abs_of_nonneg hnonneg]

theorem abs_ofFloatRat_lt (bits : BitVec 32) : |ofFloatRat bits| < 10 ^ 39 := by
  obtain ⟨e, he⟩ : ∃ e, (bits.extractLsb' 23 8).toNat = e := ⟨_, rfl⟩
  obtain ⟨f, hf⟩ : ∃ f, (bits.extractLsb' 0 23).toNat = f := ⟨_, rfl⟩
  have hexp : e < 2 ^ 8 := he ▸ (bits.extractLsb' 23 8).isLt
  have hfrac : (f : ℚ) ≤ 2 ^ 23 := by exact_mod_cast (hf ▸ (bits.extractLsb' 0 23).isLt).le
  have hscale : ∀ k : ℤ, k ≤ 104 → (2 : ℚ) ^ k ≤ 2 ^ (104 : ℤ) := fun k hk =>
    zpow_le_zpow_right₀ (by norm_num) hk
  -- the largest exponent field of a finite single is 254, the largest fraction below `2 ^ 24`
  have hbound : ∀ {x : ℚ} {k : ℤ}, x ≤ 2 ^ 24 → k ≤ 104 → x * 2 ^ k < 10 ^ 39 := by
    intro x k hx' hk
    have hpow : (0 : ℚ) < 2 ^ k := zpow_pos (by norm_num) k
    calc x * 2 ^ k ≤ 2 ^ 24 * 2 ^ (104 : ℤ) :=
          mul_le_mul hx' (hscale k hk) hpow.le (by norm_num)
      _ < 10 ^ 39 := by norm_num
  rw [abs_ofFloatRat, he, hf]
  split
  · norm_num
  split
  · exact hbound (by linarith) (by norm_num)
  · exact hbound (by linarith) (by omega)

/-- The least single that is not zero is `2 ^ (-149)`. -/
theorem one_le_abs_ofFloatRat {bits : BitVec 32} (h : ofFloatRat bits ≠ 0) :
    1 ≤ |ofFloatRat bits| * 10 ^ 45 := by
  obtain ⟨e, he⟩ : ∃ e, (bits.extractLsb' 23 8).toNat = e := ⟨_, rfl⟩
  obtain ⟨f, hf⟩ : ∃ f, (bits.extractLsb' 0 23).toNat = f := ⟨_, rfl⟩
  have hbound : ∀ {x : ℚ} {k : ℤ}, 1 ≤ x → -149 ≤ k → 1 ≤ x * 2 ^ k * 10 ^ 45 := by
    intro x k hx hk
    have hpow : (2 : ℚ) ^ (-149 : ℤ) ≤ 2 ^ k := zpow_le_zpow_right₀ (by norm_num) hk
    calc (1 : ℚ) ≤ 1 * 2 ^ (-149 : ℤ) * 10 ^ 45 := by norm_num
      _ ≤ x * 2 ^ k * 10 ^ 45 := by gcongr
  have hpos := abs_pos.2 h
  rw [abs_ofFloatRat, he, hf] at hpos ⊢
  split at hpos
  · exact absurd hpos (lt_irrefl 0)
  rename_i hfinite
  rw [if_neg hfinite]
  split at hpos
  · rename_i hsubnormal
    rw [if_pos hsubnormal]
    have hf0 : f ≠ 0 := by
      rintro rfl
      simp at hpos
    exact hbound (by exact_mod_cast Nat.one_le_iff_ne_zero.2 hf0) le_rfl
  · rename_i hnormal
    rw [if_neg hnormal]
    have hf0 : (0 : ℚ) ≤ f := Nat.cast_nonneg f
    exact hbound (by linarith) (by omega)

theorem roundHalfEven_le {x : ℚ} {n : ℕ} (h : x < n) : roundHalfEven x ≤ n := by
  have hfloor : ⌊x⌋ < n := Int.floor_lt.2 (by exact_mod_cast h)
  simp only [roundHalfEven]
  split_ifs <;> omega

theorem length_printf6_le {x : ℚ} {k : ℕ} (h : |x| < 10 ^ k) :
    (printf6 x).length ≤ (if x < 0 then 1 else 0) + k + 8 := by
  have hround : roundHalfEven (|x| * 10 ^ 6) ≤ (10 ^ (k + 6) : ℕ) := by
    refine roundHalfEven_le ?_
    push_cast
    rw [pow_add]
    gcongr
  have hlog : Nat.log 10 ((roundHalfEven (|x| * 10 ^ 6)).toNat / 10 ^ 6) ≤ k := by
    refine (Nat.log_mono_right (m := 10 ^ k) ?_).trans_eq (Nat.log_pow (by decide) k)
    rw [add_comm, pow_add] at hround
    exact Nat.div_le_of_le_mul (by omega)
  have hsign : (if x < 0 then [45] else ([] : List Byte)).length = if x < 0 then 1 else 0 := by
    split <;> rfl
  simp only [printf6, List.length_append, List.length_map, List.length_cons, Digits.length_fixed,
    Digits.length_natural (show 1 < 10 by decide), hsign]
  omega

theorem storable_printf6_of_lt {x : ℚ} {k : ℕ} (h : |x| < 10 ^ k) (hk : k ≤ 80) :
    Storable (printf6 x) := by
  refine storable_of_length_printf6 ((length_printf6_le h).trans ?_)
  split <;> omega

/-- A minus before a text that is not too long. -/
theorem Storable.minus {s : List Byte} (h : Storable s) (hlen : s.length ≤ 88) :
    Storable (45 :: s) where
  ne := List.cons_ne_nil 45 s
  blank := by simp
  lf := List.not_mem_cons_of_ne_of_not_mem (by decide) h.lf
  cr := List.not_mem_cons_of_ne_of_not_mem (by decide) h.cr
  nul := List.not_mem_cons_of_ne_of_not_mem (by decide) h.nul
  length := Nat.succ_le_succ hlen

namespace CDouble

theorem below_ofFloat (bits : BitVec 32) : (ofFloat bits).Below (10 ^ 39) := by
  intro q hq
  unfold ofFloat at hq
  dsimp only at hq
  split at hq
  · split at hq <;> cases hq
  · cases hq
    exact abs_ofFloatRat_lt bits

theorem storable_printf {x : CDouble} {k : ℕ} (h : x.Below (10 ^ k)) (hk : k ≤ 80) :
    Storable x.printf := by
  obtain ⟨negative, m⟩ := x
  have hmagnitude : Storable m.text ∧ m.text.length ≤ 88 := by
    cases m with
    | number q =>
      have hnonneg := NNRat.coe_nonneg q
      have hq : |(q : ℚ)| < 10 ^ k := by
        rw [abs_of_nonneg hnonneg]
        exact h q rfl
      have hlen := length_printf6_le hq
      rw [if_neg (not_lt.2 hnonneg)] at hlen
      exact ⟨storable_printf6_of_lt hq hk, by rw [Magnitude.text]; omega⟩
    | infinity =>
      exact ⟨⟨⟨by decide, by decide, by decide, by decide⟩, by decide, by decide⟩, by decide⟩
    | nan =>
      exact ⟨⟨⟨by decide, by decide, by decide, by decide⟩, by decide, by decide⟩, by decide⟩
  obtain ⟨hstorable, hlen⟩ := hmagnitude
  cases negative with
  | true => exact hstorable.minus hlen
  | false => exact hstorable

end CDouble
end Terremoti
