import Mathlib.Data.Int.Log
import Mathlib.Data.List.TakeWhile
import Mathlib.Data.Rat.Floor
import Mathlib.Tactic.IntervalCases
import Mathlib.Algebra.Order.Archimedean.Real.Basic
import Terremoti.Basic
import Terremoti.Lib.Digits

/-!
# The C library functions the code calls

Byte strings are lists of bytes; a C string is such a list cut at the first NUL (`cstr`).
`DoubleText` lists what the code does with a `double` at its borders: read it from text, print it,
convert it from and to a `float`. In the instances `ℚ` and `ℝ` a `double` is an exact number: `atof`
does not round, `%f` rounds to six decimals only, and there are no infinities or NaNs.
-/

namespace Terremoti

def cstr (buf : List Byte) : List Byte := buf.takeWhile (· != 0)

def isspace (c : Byte) : Bool := c = 32 || (9 ≤ c && c ≤ 13)

def digit? (c : Byte) : Option ℕ := if 48 ≤ c ∧ c ≤ 57 then some (c.toNat - 48) else none

def xdigit? (c : Byte) : Option ℕ :=
  if 48 ≤ c ∧ c ≤ 57 then some (c.toNat - 48)
  else if 97 ≤ c ∧ c ≤ 102 then some (c.toNat - 87)
  else if 65 ≤ c ∧ c ≤ 70 then some (c.toNat - 55)
  else none

def ascii (d : ℕ) : Byte := BitVec.ofNat 8 (if d < 10 then 48 + d else 87 + d)

def spanDigits (f : Byte → Option ℕ) : List Byte → List ℕ × List Byte
  | [] => ([], [])
  | c :: s =>
    match f c with
    | some d => (d :: (spanDigits f s).1, (spanDigits f s).2)
    | none => ([], c :: s)

/-- An optional sign: whether it is a minus, and the rest. -/
def sign : List Byte → Bool × List Byte
  | 45 :: s => (true, s)
  | 43 :: s => (false, s)
  | s => (false, s)

/-- `strtol(s, NULL, 16)`, short of overflow. -/
def strtol16 (s : List Byte) : ℤ :=
  let (neg, s) := sign (s.dropWhile isspace)
  let s := match s with
    | 48 :: x :: h :: s =>
      if (x = 120 ∨ x = 88) ∧ (xdigit? h).isSome then h :: s else 48 :: x :: h :: s
    | s => s
  let n := Digits.value 16 (spanDigits xdigit? s).1
  if neg then -n else n

/-- `strtol(s, NULL, 10)`, short of overflow. -/
def strtol10 (s : List Byte) : ℤ :=
  let (neg, s) := sign (s.dropWhile isspace)
  let n := Digits.value 10 (spanDigits digit? s).1
  if neg then -n else n

/-- `atol` with a `long` of `w` bits; the value is kept within the bounds of the type. -/
def atol (w : ℕ) (s : List Byte) : BitVec w :=
  BitVec.ofInt w (max (-2 ^ (w - 1)) (min (2 ^ (w - 1) - 1) (strtol10 s)))

/-- `strchr`, as an index into the buffer. -/
def strchr (buf : List Byte) (c : Byte) : Option ℕ := (cstr buf).idxOf? c

def hex02 (b : Byte) : List Byte := (Digits.fixed 16 2 b.toNat).map ascii

theorem cstr_of_notMem {s : List Byte} (h : (0 : Byte) ∉ s) : cstr s = s := by
  rw [cstr, List.takeWhile_eq_self_iff]
  intro c hc
  exact bne_iff_ne.2 fun h0 => h (h0 ▸ hc)

theorem cstr_cons {c : Byte} (h : c ≠ 0) (s : List Byte) : cstr (c :: s) = c :: cstr s :=
  List.takeWhile_cons_of_pos (bne_iff_ne.2 h)

theorem nul_notMem_cstr (s : List Byte) : (0 : Byte) ∉ cstr s := fun h =>
  absurd (List.mem_takeWhile_imp h) (by decide)

theorem cstr_append_of_notMem {s : List Byte} (h : (0 : Byte) ∉ s) (t : List Byte) :
    cstr (s ++ t) = s ++ cstr t :=
  List.takeWhile_append_of_pos fun _ hc => bne_iff_ne.2 (ne_of_mem_of_not_mem hc h)

theorem cstr_append (s t : List Byte) : cstr (s ++ 0 :: t) = cstr s := by
  induction s with
  | nil => rfl
  | cons c s ih =>
    by_cases hc : c = 0
    · rw [hc]; rfl
    · rw [List.cons_append, cstr_cons hc, cstr_cons hc, ih]

theorem cstr_append_nul {s : List Byte} (h : (0 : Byte) ∉ s) (t : List Byte) :
    cstr (s ++ 0 :: t) = s := (cstr_append s t).trans (cstr_of_notMem h)

theorem cstr_take (s : List Byte) (n : ℕ) : cstr (s.take n) = (cstr s).take n :=
  List.take_takeWhile.symm

theorem strchr_append_nul {c : Byte} {s : List Byte} (hc : c ∉ s) (t : List Byte) {r : List Byte}
    (hs : (0 : Byte) ∉ s ++ c :: r) : strchr (s ++ c :: (r ++ 0 :: t)) c = some s.length := by
  rw [strchr, ← List.cons_append, ← List.append_assoc, cstr_append_nul hs]
  clear hs
  induction s with
  | nil => simp [List.idxOf?_cons]
  | cons b s ih =>
    rw [List.mem_cons, not_or] at hc
    rw [List.cons_append, List.idxOf?_cons, if_neg (by simpa using Ne.symm hc.1), ih hc.2]
    rfl

/-! ### Text and floats -/

/-- `double` at the borders of the program: `atof`, `printf("%f")`, the conversions from and to the
bits of an IEEE single, and `!= 0.0`. -/
class DoubleText (D : Type) where
  atof : List Byte → D
  printf : D → List Byte
  ofFloat : BitVec 32 → D
  toFloat : D → BitVec 32
  nonzero : D → Bool

/-- The exponent of `strtod`: `e`, an optional sign and at least one digit. -/
def exponent : List Byte → ℤ
  | 101 :: s | 69 :: s =>
    let (neg, s) := sign s
    let n := Digits.value 10 (spanDigits digit? s).1
    if neg then -n else n
  | _ => 0

def fraction : List Byte → List ℕ × List Byte
  | 46 :: s => spanDigits digit? s
  | s => ([], s)

/-- `atof` of a text that begins with a decimal number, as those the program writes do.
`CDouble.atof` has the hexadecimal numbers, the infinities and the NaNs as well. -/
def atofRat (s : List Byte) : ℚ :=
  let (neg, s) := sign (s.dropWhile isspace)
  let (ip, s) := spanDigits digit? s
  let (fp, s) := fraction s
  let q : ℚ := Digits.value 10 (ip ++ fp) / 10 ^ fp.length * 10 ^ exponent s
  if neg then -q else q

/-- The value of a finite single; infinities and NaNs have none. -/
def ofFloatRat (bits : BitVec 32) : ℚ :=
  let e := (bits.extractLsb' 23 8).toNat
  let f := (bits.extractLsb' 0 23).toNat
  let q : ℚ := if e = 255 then 0 else if e = 0 then f * 2 ^ (-149 : ℤ)
    else (2 ^ 23 + f) * 2 ^ ((e : ℤ) - 150)
  if bits.msb then -q else q

/-- The single is neither an infinity nor a NaN. -/
def FiniteSingle (bits : BitVec 32) : Prop := bits.extractLsb' 23 8 ≠ 255

section
variable {K : Type} [Field K] [LinearOrder K] [IsStrictOrderedRing K] [FloorRing K]

def roundHalfEven (x : K) : ℤ :=
  let f := ⌊x⌋
  if x - f < 1 / 2 then f else if 1 / 2 < x - f then f + 1 else if f % 2 = 0 then f else f + 1

/-- `%f`: six decimals. -/
def printf6 (x : K) : List Byte :=
  let m := (roundHalfEven (|x| * 10 ^ 6)).toNat
  (if x < 0 then [45] else []) ++ (Digits.natural 10 (m / 10 ^ 6)).map ascii ++
    46 :: (Digits.fixed 10 6 m).map ascii

/-- The nearest single, ties to even. -/
def toSingle (x : K) : BitVec 32 :=
  let e := max (Int.log 2 |x|) (-126)
  let n := (e + 126) * 2 ^ 23 + roundHalfEven (|x| / 2 ^ (e - 23))
  let bits := if x = 0 then 0 else BitVec.ofInt 32 (min n 0x7F800000)
  if x < 0 then bits ||| 0x80000000 else bits

end

instance : DoubleText ℚ where
  atof := atofRat
  printf := printf6
  ofFloat := ofFloatRat
  toFloat := toSingle
  nonzero x := decide (x ≠ 0)

noncomputable instance : DoubleText ℝ where
  atof s := atofRat s
  printf := printf6
  ofFloat bits := ofFloatRat bits
  toFloat := toSingle
  nonzero x := decide (x ≠ 0)

/-! ### Printing and reading decimals -/

theorem digit?_ascii {d : ℕ} (h : d < 10) : digit? (ascii d) = some d := by
  interval_cases d <;> rfl

theorem spanDigits_ascii {ds : List ℕ} (hds : ∀ d ∈ ds, d < 10) {s : List Byte}
    (hs : (spanDigits digit? s).1 = []) :
    spanDigits digit? (ds.map ascii ++ s) = (ds, (spanDigits digit? s).2) := by
  induction ds with
  | nil => exact Prod.ext hs rfl
  | cons d ds ih =>
    obtain ⟨hd, hds⟩ := List.forall_mem_cons.1 hds
    rw [List.map_cons, List.cons_append, spanDigits, digit?_ascii hd, ih hds]

theorem sign_ascii {d : ℕ} (h : d < 10) (s : List Byte) :
    sign ((ascii d :: s).dropWhile isspace) = (false, ascii d :: s) := by
  interval_cases d <;> rfl

theorem strtol10_ascii {ds : List ℕ} (hne : ds ≠ []) (hds : ∀ d ∈ ds, d < 10) :
    strtol10 (ds.map ascii) = Digits.value 10 ds := by
  have hspan : spanDigits digit? (ds.map ascii) = (ds, []) := by
    have h := spanDigits_ascii hds (s := []) rfl
    rwa [List.append_nil] at h
  have hsign : sign ((ds.map ascii).dropWhile isspace) = (false, ds.map ascii) := by
    obtain ⟨d, ds, rfl⟩ := List.exists_cons_of_ne_nil hne
    exact sign_ascii (hds d List.mem_cons_self) _
  rw [strtol10, hsign]
  dsimp only
  rw [hspan]
  rfl

/-- A decimal too long for a `long` is read as the largest one. -/
theorem atol_ascii {w : ℕ} (hw : 0 < w) {ds : List ℕ} (hne : ds ≠ []) (hds : ∀ d ∈ ds, d < 10) :
    (atol w (ds.map ascii)).toNat = min (Digits.value 10 ds) (2 ^ (w - 1) - 1) := by
  have hpow : 2 ^ w = 2 * 2 ^ (w - 1) := by
    rw [← pow_succ', Nat.sub_add_cancel hw]
  have hpos : 0 < 2 ^ (w - 1) := Nat.two_pow_pos _
  have hint : max (-2 ^ (w - 1) : ℤ) (min (2 ^ (w - 1) - 1) (Digits.value 10 ds)) =
      ((min (Digits.value 10 ds) (2 ^ (w - 1) - 1) : ℕ) : ℤ) := by
    have hcast : (2 : ℤ) ^ (w - 1) = ((2 ^ (w - 1) : ℕ) : ℤ) := by push_cast; rfl
    rw [hcast]
    omega
  rw [atol, strtol10_ascii hne hds, hint, BitVec.ofInt_natCast, BitVec.toNat_ofNat,
    Nat.mod_eq_of_lt (by omega)]

theorem nul_notMem_ascii {ds : List ℕ} (hds : ∀ d ∈ ds, d < 10) : (0 : Byte) ∉ ds.map ascii := by
  intro h
  obtain ⟨d, hd, h0⟩ := List.mem_map.1 h
  have hdigit := digit?_ascii (hds d hd)
  rw [h0] at hdigit
  cases hdigit

theorem notMem_ascii {ds : List ℕ} (hds : ∀ d ∈ ds, d < 10) {c : Byte} (hc : digit? c = none) :
    c ∉ ds.map ascii := by
  intro h
  obtain ⟨d, hd, rfl⟩ := List.mem_map.1 h
  rw [digit?_ascii (hds d hd)] at hc
  cases hc

/-- `atof` of a decimal with an optional minus, one or more digits before the point, and any number
after it. -/
theorem atofRat_decimal (neg : Bool) {ip fp : List ℕ} (hip : ip ≠ []) (hip10 : ∀ d ∈ ip, d < 10)
    (hfp10 : ∀ d ∈ fp, d < 10) :
    atofRat ((if neg then [45] else []) ++ ip.map ascii ++ 46 :: fp.map ascii) =
      (if neg then -1 else 1) * (Digits.value 10 (ip ++ fp) / 10 ^ fp.length) := by
  have hint : spanDigits digit? (ip.map ascii ++ 46 :: fp.map ascii) =
      (ip, 46 :: fp.map ascii) := spanDigits_ascii hip10 rfl
  have hfrac : fraction (46 :: fp.map ascii) = (fp, []) := by
    have h := spanDigits_ascii hfp10 (s := []) rfl
    rwa [List.append_nil] at h
  have hsign : sign (((if neg then [45] else []) ++ ip.map ascii ++ 46 :: fp.map ascii).dropWhile
      isspace) = (neg, ip.map ascii ++ 46 :: fp.map ascii) := by
    cases neg with
    | true => rfl
    | false =>
      obtain ⟨d, ip, rfl⟩ := List.exists_cons_of_ne_nil hip
      exact sign_ascii (hip10 d List.mem_cons_self) _
  rw [atofRat, hsign]
  dsimp only
  rw [hint]
  dsimp only
  rw [hfrac]
  cases neg <;> simp [exponent]

theorem roundHalfEven_natCast (n : ℕ) : roundHalfEven (n : ℚ) = n := by
  rw [roundHalfEven, Int.floor_natCast, if_pos (by simp)]

theorem printf6_micro (x : ℤ) :
    printf6 ((x : ℚ) / 10 ^ 6) = (if x < 0 then [45] else []) ++
      (Digits.natural 10 (x.natAbs / 10 ^ 6)).map ascii ++
      46 :: (Digits.fixed 10 6 x.natAbs).map ascii := by
  have habs : |(x : ℚ) / 10 ^ 6| * 10 ^ 6 = (x.natAbs : ℚ) := by
    rw [abs_div, abs_of_pos (show (0 : ℚ) < 10 ^ 6 by norm_num), div_mul_cancel₀ _ (by norm_num),
      Nat.cast_natAbs, Int.cast_abs]
  have hneg : (x : ℚ) / 10 ^ 6 < 0 ↔ x < 0 := by
    rw [div_lt_iff₀ (by norm_num), zero_mul, Int.cast_lt_zero]
  rw [printf6, habs, roundHalfEven_natCast, Int.toNat_natCast]
  simp only [hneg]

end Terremoti
