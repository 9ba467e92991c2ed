import Mathlib.Data.List.TakeWhile
import Terremoti.Config

/-!
# Reloading the saved configuration (`Config::save`, `Config::readConfigFile`)

The file `save` writes has three lines, none longer than `fgets` takes; `readConfigFile` splits it
into them, finds the argument of each and trims it to what was printed (`readConfigFile_save`). The
device id comes back. A coordinate comes back from the first 8 characters of its text only
(`atofn_printed`), which is one decimal short for a minus sign and for each integer digit after the
first: `reload_iff`.
-/

namespace Terremoti

/-! ### Lines and arguments -/

theorem fgets_line {max : ℕ} (acc : List Byte) {line : List Byte} (hline : (10 : Byte) ∉ line)
    (hlen : acc.length + line.length + 1 ≤ max) (rest : List Byte) :
    fgets max acc (line ++ 10 :: rest) = (acc ++ line ++ [10]) :: fgets max [] rest := by
  induction line generalizing acc with
  | nil => rw [List.nil_append, fgets, if_pos (.inl rfl), List.append_nil]
  | cons c line ih =>
    rw [List.mem_cons, not_or] at hline
    rw [List.length_cons] at hlen
    have hgo : ¬(c = 10 ∨ (acc ++ [c]).length = max) := by
      rw [List.length_append, List.length_singleton]
      rintro (h | h)
      · exact hline.1 h.symm
      · omega
    have hroom : (acc ++ [c]).length + line.length + 1 ≤ max := by
      rw [List.length_append, List.length_singleton]
      omega
    rw [List.cons_append, fgets, if_neg hgo, ih _ hline.2 hroom]
    simp

theorem afterChr_append {c : Byte} {key : List Byte} (h : c ∉ key) (arg : List Byte) :
    afterChr c (key ++ c :: arg) = some arg := by
  induction key with
  | nil => rw [List.nil_append, afterChr, if_pos rfl]
  | cons b key ih =>
    rw [List.mem_cons, not_or] at h
    rw [List.cons_append, afterChr, if_neg (Ne.symm h.1), ih h.2]

/-- An argument that survives the trims: no blank in front, no line break. -/
structure Unpadded (arg : List Byte) : Prop where
  ne : arg ≠ []
  blank : arg.head? ≠ some 32
  lf : (10 : Byte) ∉ arg
  cr : (13 : Byte) ∉ arg

/-- The blanks in front are trimmed, and the end of the line. -/
theorem Unpadded.trimArgument_padded {arg : List Byte} (h : Unpadded arg) (j k : ℕ) :
    Config.trimArgument (List.replicate j 32 ++ arg ++ List.replicate k 13 ++ [10]) = some arg := by
  have hhead : ∀ (rest : List Byte) c, c ∉ arg → (arg ++ rest).head? ≠ some c := by
    intro rest c hc hmem
    rw [List.head?_append_of_ne_nil _ h.ne] at hmem
    exact hc (List.mem_of_head? hmem)
  have hblank : Utils.trim (List.replicate j 32 ++ arg ++ List.replicate k 13 ++ [10]) 32 =
      some (arg ++ List.replicate k 13 ++ [10]) := by
    have htrim := Utils.trim_replicate (s := arg ++ List.replicate k 13 ++ [10]) (c := 32)
      (by simp) ?_ (by simp) j 0
    · simpa using htrim
    · rw [List.append_assoc, List.head?_append_of_ne_nil _ h.ne]
      exact h.blank
  have hlf : (10 : Byte) ∉ arg ++ List.replicate k 13 := by
    simpa using h.lf
  have hline : Utils.trim (arg ++ List.replicate k 13 ++ [10]) 10 =
      some (arg ++ List.replicate k 13) :=
    Utils.trim_append_replicate (List.append_ne_nil_of_left_ne_nil h.ne _) (hhead _ 10 h.lf)
      (fun hlast => hlf (List.mem_of_getLast? hlast)) 1
  have hcr : Utils.trim (arg ++ List.replicate k 13) 13 = some arg :=
    Utils.trim_append_replicate h.ne (fun hhead => h.cr (List.mem_of_head? hhead))
      (fun hlast => h.cr (List.mem_of_getLast? hlast)) k
  simp only [Config.trimArgument, Option.bind_eq_bind]
  rw [hblank, Option.bind_some, hline, Option.bind_some, hcr]

theorem Unpadded.trimArgument {arg : List Byte} (h : Unpadded arg) :
    Config.trimArgument (arg ++ [10]) = some arg := by
  simpa using h.trimArgument_padded 0 0

/-! ### The file -/

section File
variable {D : Type} [DoubleText D] (c : Config D) {arg : List Byte}

theorem readLine_deviceid (h : Unpadded arg) (hlen : 12 ≤ arg.length) :
    c.readLine (str "deviceid" ++ 58 :: (arg ++ [10])) = some { c with macAddress := arg } := by
  simp only [Config.readLine, afterChr_append (show (58 : Byte) ∉ str "deviceid" by decide),
    h.trimArgument, Option.bind_eq_bind, Option.bind_some]
  rw [if_pos (List.prefix_append _ _), if_neg (by omega)]

theorem readLine_lat (h : Unpadded arg) :
    c.readLine (str "lat" ++ 58 :: (arg ++ [10])) = some { c with lat := Utils.atofn arg 8 } := by
  have hid : ¬str "deviceid" <+: str "lat" ++ 58 :: (arg ++ [10]) := by
    rintro ⟨t, ht⟩
    exact absurd (List.cons.inj ht).1 (by decide)
  simp only [Config.readLine, afterChr_append (show (58 : Byte) ∉ str "lat" by decide),
    h.trimArgument, Option.bind_eq_bind, Option.bind_some]
  rw [if_neg hid, if_pos (List.prefix_append _ _)]

theorem readLine_lon (h : Unpadded arg) :
    c.readLine (str "lon" ++ 58 :: (arg ++ [10])) = some { c with lon := Utils.atofn arg 8 } := by
  have hid : ¬str "deviceid" <+: str "lon" ++ 58 :: (arg ++ [10]) := by
    rintro ⟨t, ht⟩
    exact absurd (List.cons.inj ht).1 (by decide)
  have hlat : ¬str "lat" <+: str "lon" ++ 58 :: (arg ++ [10]) := by
    rintro ⟨t, ht⟩
    exact absurd (List.cons.inj (List.cons.inj ht).2).1 (by decide)
  simp only [Config.readLine, afterChr_append (show (58 : Byte) ∉ str "lon" by decide),
    h.trimArgument, Option.bind_eq_bind, Option.bind_some]
  rw [if_neg hid, if_neg hlat, if_pos (List.prefix_append _ _)]

structure Storable (arg : List Byte) : Prop extends Unpadded arg where
  nul : (0 : Byte) ∉ arg
  length : arg.length ≤ 89

/-- A line of the file: `fgets` takes it whole and as a C string it is complete. -/
theorem Storable.line {arg : List Byte} (h : Storable arg) (key : List Byte)
    (hkey : (10 : Byte) ∉ key) (hkey0 : (0 : Byte) ∉ key) (hlen : key.length ≤ 8)
    (rest : List Byte) :
    fgets 99 [] (key ++ 58 :: (arg ++ [10]) ++ rest) =
        (key ++ 58 :: (arg ++ [10])) :: fgets 99 [] rest ∧
      cstr (key ++ 58 :: (arg ++ [10])) = key ++ 58 :: (arg ++ [10]) ∧
      snprintf 200 (key ++ [58] ++ arg ++ [10]) = key ++ 58 :: (arg ++ [10]) := by
  have hlength := h.length
  refine ⟨?_, cstr_of_notMem ?_, ?_⟩
  · have hline : fgets 99 [] (key ++ 58 :: arg ++ 10 :: rest) =
        ([] ++ (key ++ 58 :: arg) ++ [10]) :: fgets 99 [] rest := by
      refine fgets_line [] ?_ ?_ rest
      · simpa using ⟨hkey, h.lf⟩
      · simp; omega
    simpa using hline
  · simpa using ⟨hkey0, h.nul⟩
  · rw [snprintf, List.take_of_length_le (by simp; omega)]
    simp

theorem readConfigFile_save (c₀ : Config D) (hid : Storable c.macAddress)
    (h12 : 12 ≤ c.macAddress.length) (hlat : Storable (DoubleText.printf c.lat))
    (hlon : Storable (DoubleText.printf c.lon)) :
    c₀.readConfigFile (some c.save) = some (true,
      { macAddress := c.macAddress
        lat := Utils.atofn (DoubleText.printf c.lat) 8
        lon := Utils.atofn (DoubleText.printf c.lon) 8 }) := by
  obtain ⟨hlon1, hlon2, hlon3⟩ := hlon.line (str "lon") (by decide) (by decide) (by decide) []
  obtain ⟨hlat1, hlat2, hlat3⟩ := hlat.line (str "lat") (by decide) (by decide) (by decide)
    (str "lon" ++ 58 :: (DoubleText.printf c.lon ++ [10]) ++ [])
  obtain ⟨hid1, hid2, hid3⟩ := hid.line (str "deviceid") (by decide) (by decide) (by decide)
    (str "lat" ++ 58 :: (DoubleText.printf c.lat ++ [10]) ++
      (str "lon" ++ 58 :: (DoubleText.printf c.lon ++ [10]) ++ []))
  have hsave : c.save = str "deviceid" ++ 58 :: (c.macAddress ++ [10]) ++
      (str "lat" ++ 58 :: (DoubleText.printf c.lat ++ [10]) ++
        (str "lon" ++ 58 :: (DoubleText.printf c.lon ++ [10]) ++ [])) := by
    rw [Config.save, cstr_of_notMem hid.nul, show str "deviceid:" = str "deviceid" ++ [58] from rfl,
      show str "lat:" = str "lat" ++ [58] from rfl, show str "lon:" = str "lon" ++ [58] from rfl,
      hid3, hlat3, hlon3, List.append_nil, List.append_assoc]
  rw [Config.readConfigFile, hsave, hid1, hlat1, hlon1]
  simp only [List.map_cons, hid2, hlat2, hlon2, fgets, List.foldlM_cons,
    readLine_deviceid _ hid.toUnpadded h12, readLine_lat _ hlat.toUnpadded,
    readLine_lon _ hlon.toUnpadded,
    Option.bind_eq_bind, Option.bind_some, if_true, List.map_nil, List.foldlM_nil]
  rfl

end File

/-! ### Coordinates -/

/-- How many of the six decimals lie beyond the 8th character: one for a minus sign, and one for
each integer digit after the first. -/
def lostDigits (x : ℤ) : ℕ := (if x < 0 then 1 else 0) + Nat.log 10 (x.natAbs / 10 ^ 6)

/-- `x / 10 ^ 6` without these decimals. -/
def keptDigits (x : ℤ) : ℚ := x.tdiv (10 ^ lostDigits x) / 10 ^ (6 - lostDigits x)

theorem lostDigits_le {x : ℤ} (h : |x| ≤ 180 * 10 ^ 6) : lostDigits x ≤ 3 := by
  have hlog : Nat.log 10 (x.natAbs / 10 ^ 6) < 3 := by
    rw [Int.abs_eq_natAbs] at h
    exact Nat.log_lt_of_lt_pow' (by decide) (by omega)
  unfold lostDigits
  split <;> omega

theorem keptDigits_eq_iff {x : ℤ} (h : lostDigits x ≤ 6) :
    keptDigits x = x / 10 ^ 6 ↔ 10 ^ lostDigits x ∣ x := by
  have hpow : (10 : ℚ) ^ 6 = 10 ^ (6 - lostDigits x) * 10 ^ lostDigits x := by
    rw [← pow_add, Nat.sub_add_cancel h]
  rw [keptDigits, hpow, div_eq_div_iff (by positivity) (by positivity), mul_left_comm,
    mul_comm (x : ℚ), mul_right_inj' (by positivity)]
  constructor
  · intro hx
    exact ⟨_, by exact_mod_cast hx.symm.trans (mul_comm _ _)⟩
  · intro hx
    exact_mod_cast Int.tdiv_mul_cancel hx

theorem keptDigits_eq (x : ℤ) :
    keptDigits x = (if x < 0 then -1 else 1) *
      ((x.natAbs / 10 ^ lostDigits x : ℕ) / 10 ^ (6 - lostDigits x)) := by
  have htdiv : x.tdiv (10 ^ lostDigits x) =
      (if x < 0 then -1 else 1) * ((x.natAbs / 10 ^ lostDigits x : ℕ) : ℤ) := by
    rcases lt_or_ge x 0 with hx | hx
    · have htdiv := Int.tdiv_eq_ediv_of_nonneg (b := 10 ^ lostDigits x) (show 0 ≤ -x by omega)
      rw [Int.neg_tdiv] at htdiv
      rw [if_pos hx, Int.natCast_ediv, Int.natCast_pow, Int.ofNat_natAbs_of_nonpos hx.le,
        neg_one_mul]
      exact neg_eq_iff_eq_neg.1 htdiv
    · rw [if_neg (by omega), one_mul, Int.tdiv_eq_ediv_of_nonneg hx, Int.natCast_ediv,
        Int.natCast_pow, Int.natAbs_of_nonneg hx]
      rfl
  rw [keptDigits, htdiv, Int.cast_mul, Int.cast_natCast, mul_div_assoc]
  split <;> norm_num

theorem mem_printf6 {x : ℚ} {c : Byte} (h : c ∈ printf6 x) :
    c = 45 ∨ c = 46 ∨ ∃ d < 10, c = ascii d := by
  simp only [printf6, List.mem_append, List.mem_cons, List.mem_map] at h
  rcases h with (h | ⟨d, hd, rfl⟩) | rfl | ⟨d, hd, rfl⟩
  · split at h
    · exact .inl (List.mem_singleton.1 h)
    · cases h
  · exact .inr (.inr ⟨d, Digits.lt_of_mem_natural (by decide) hd, rfl⟩)
  · exact .inr (.inl rfl)
  · exact .inr (.inr ⟨d, Digits.lt_of_mem_fixed (by decide) hd, rfl⟩)

theorem storable_of_length_printf6 {x : ℚ} (hlen : (printf6 x).length ≤ 89) :
    Storable (printf6 x) := by
  have hmem : ∀ c ∈ [(0 : Byte), 10, 13, 32], c ∉ printf6 x := by
    intro c hc hx
    obtain rfl | rfl | ⟨d, hd, rfl⟩ := mem_printf6 hx
    · exact absurd hc (by decide)
    · exact absurd hc (by decide)
    · exact absurd hc (by interval_cases d <;> decide)
  exact {
    ne := by simp [printf6]
    blank := fun h => hmem 32 (by decide) (List.mem_of_head? h)
    lf := hmem 10 (by decide)
    cr := hmem 13 (by decide)
    nul := hmem 0 (by decide)
    length := hlen }

theorem length_printf6 (x : ℤ) : (printf6 ((x : ℚ) / 10 ^ 6)).length = lostDigits x + 8 := by
  have hsign : (if x < 0 then [45] else ([] : List Byte)).length = if x < 0 then 1 else 0 := by
    split <;> rfl
  rw [printf6_micro, List.length_append, List.length_append, hsign, List.length_map,
    Digits.length_natural (by decide), List.length_cons, List.length_map, Digits.length_fixed,
    lostDigits]
  omega

theorem storable_printf6 {x : ℤ} (h : lostDigits x ≤ 6) :
    Storable (printf6 ((x : ℚ) / 10 ^ 6)) := by
  have hlen := length_printf6 x
  exact storable_of_length_printf6 (by omega)

/-- The first 8 characters of a printed coordinate, read back. -/
theorem atofn_printf6 {x : ℤ} (h : lostDigits x ≤ 6) :
    (Utils.atofn (printf6 ((x : ℚ) / 10 ^ 6)) 8 : ℚ) = keptDigits x := by
  set front := (if x < 0 then [45] else []) ++
    (Digits.natural 10 (x.natAbs / 10 ^ 6)).map ascii with hfront
  have hlen : front.length = lostDigits x + 1 := by
    have hx := length_printf6 x
    rw [printf6_micro, ← hfront, List.length_append, List.length_cons, List.length_map,
      Digits.length_fixed] at hx
    omega
  have htake : (printf6 ((x : ℚ) / 10 ^ 6)).take 8 = front ++
      46 :: ((Digits.fixed 10 6 x.natAbs).take (6 - lostDigits x)).map ascii := by
    rw [printf6_micro, ← hfront, List.take_append, List.take_of_length_le (by omega), hlen,
      show 8 - (lostDigits x + 1) = 6 - lostDigits x + 1 by omega, List.take_succ_cons,
      List.map_take]
  have hvalue := Digits.value_natural_append_take (show 0 < 10 by decide) x.natAbs
    (6 - lostDigits x) (lostDigits x)
  rw [Nat.sub_add_cancel h] at hvalue
  have hdigit : ∀ d ∈ (Digits.fixed 10 6 x.natAbs).take (6 - lostDigits x), d < 10 :=
    fun d hd => Digits.lt_of_mem_fixed (by decide) (List.mem_of_mem_take hd)
  have hread := atofRat_decimal (x < 0) (Digits.natural_ne_nil 10 (x.natAbs / 10 ^ 6))
    (fun d => Digits.lt_of_mem_natural (by decide)) hdigit
  rw [hvalue, List.length_take, Digits.length_fixed, Nat.min_eq_left (Nat.sub_le 6 _)] at hread
  simp only [decide_eq_true_eq] at hread
  rw [Utils.atofn, cstr_of_notMem (storable_printf6 h).nul, htake, keptDigits_eq]
  exact hread

/-! ### Save and reload -/

section Reload
variable (c₀ c : Config ℚ) {a o : ℤ}

theorem readConfigFile_save_kept (hid : Storable c.macAddress) (h12 : 12 ≤ c.macAddress.length)
    (hlat : c.lat = a / 10 ^ 6) (ha : |a| ≤ 180 * 10 ^ 6)
    (hlon : c.lon = o / 10 ^ 6) (ho : |o| ≤ 180 * 10 ^ 6) :
    c₀.readConfigFile (some c.save) =
      some (true, { c with lat := keptDigits a, lon := keptDigits o }) := by
  have ha6 : lostDigits a ≤ 6 := (lostDigits_le ha).trans (by decide)
  have ho6 : lostDigits o ≤ 6 := (lostDigits_le ho).trans (by decide)
  have hprint : ∀ q : ℚ, DoubleText.printf q = printf6 q := fun _ => rfl
  rw [readConfigFile_save c c₀ hid h12, hlat, hlon, hprint, hprint, atofn_printf6 ha6,
    atofn_printf6 ho6]
  · rw [hlat]; exact storable_printf6 ha6
  · rw [hlon]; exact storable_printf6 ho6

/-- A saved configuration is read back as it was, whatever the configuration before, exactly when no
decimal lost at the 8th character was other than zero. -/
theorem reload_iff (hid : Storable c.macAddress) (h12 : 12 ≤ c.macAddress.length)
    (hlat : c.lat = a / 10 ^ 6) (ha : |a| ≤ 90 * 10 ^ 6)
    (hlon : c.lon = o / 10 ^ 6) (ho : |o| ≤ 180 * 10 ^ 6) :
    c₀.readConfigFile (some c.save) = some (true, c) ↔
      10 ^ lostDigits a ∣ a ∧ 10 ^ lostDigits o ∣ o := by
  have ha' : |a| ≤ 180 * 10 ^ 6 := ha.trans (by norm_num)
  rw [readConfigFile_save_kept c₀ c hid h12 hlat ha' hlon ho,
    ← keptDigits_eq_iff ((lostDigits_le ha').trans (by decide)),
    ← keptDigits_eq_iff ((lostDigits_le ho).trans (by decide)), ← hlat, ← hlon]
  obtain ⟨mac, lat, lon⟩ := c
  simp

end Reload

theorem storable_id : Storable (str "020406080a0c") :=
  ⟨⟨by decide, by decide, by decide, by decide⟩, by decide, by decide⟩

theorem reload_sixth_decimal :
    let c₀ : Config ℚ := { macAddress := [], lat := 0, lon := 0 }
    let c : Config ℚ :=
      { macAddress := str "020406080a0c", lat := 41890251 / 10 ^ 6, lon := 12492231 / 10 ^ 6 }
    (Storable c.macAddress ∧ 12 ≤ c.macAddress.length) ∧
      c₀.readConfigFile (some c.save) =
        some (true, { c with lat := 41890250 / 10 ^ 6, lon := 12492230 / 10 ^ 6 }) ∧
      c₀.readConfigFile (some c.save) ≠ some (true, c) := by
  intro c₀ c
  have hlat : keptDigits 41890251 = 41890250 / 10 ^ 6 := by
    rw [keptDigits, show lostDigits 41890251 = 1 by decide,
      show (41890251 : ℤ).tdiv (10 ^ 1) = 4189025 by decide]
    norm_num
  have hlon : keptDigits 12492231 = 12492230 / 10 ^ 6 := by
    rw [keptDigits, show lostDigits 12492231 = 1 by decide,
      show (12492231 : ℤ).tdiv (10 ^ 1) = 1249223 by decide]
    norm_num
  have hread := readConfigFile_save_kept c₀ c (a := 41890251) (o := 12492231) storable_id (by decide)
    rfl (by norm_num) rfl (by norm_num)
  rw [hlat, hlon] at hread
  refine ⟨⟨storable_id, by decide⟩, hread, ?_⟩
  rw [hread]
  simp [c]

theorem reload_iff_kept :
    let c₀ : Config ℚ := { macAddress := str "x", lat := 1, lon := 1 }
    let c : Config ℚ :=
      { macAddress := str "020406080a0c", lat := -937510 / 10 ^ 6, lon := 120092300 / 10 ^ 6 }
    c₀.readConfigFile (some c.save) = some (true, c) := by
  intro c₀ c
  exact (reload_iff c₀ c (a := -937510) (o := 120092300) storable_id (by decide) (by norm_num [c])
    (by norm_num) (by norm_num [c]) (by norm_num)).2 ⟨by decide, by decide⟩

end Terremoti
