import Mathlib.Data.List.DropRight
import Terremoti.ConfigReload

/-!
# Reading any configuration file (`Config::readConfigFile`)

An argument is trimmed of blanks, then of line feeds, then of `CR`s, and `Utils::trim` throws if it
has nothing else to leave: `Vanishes` says which arguments that happens to (`trimArgument_eq_none_iff`,
of the arguments that `fgets` can give). A file is read to its end exactly when it has no line with
such an argument (`readConfigFile_iff`). A `DeviceIdLine` is a line that sets the device id; the
blanks behind the id stay (`readConfigFile_line`).
-/

namespace Terremoti

/-! ### What the trims leave -/

theorem Utils.trim_eq_some {s : List Byte} {c : Byte} (h : ¬ ∀ b ∈ s, b = c) :
    Utils.trim s c = some ((s.dropWhile (· == c)).rdropWhile (· == c)) :=
  if_neg (by simpa using h)

theorem dropWhile_concat {p : Byte → Bool} {c : Byte} (hc : ¬ p c) (s : List Byte) :
    (s ++ [c]).dropWhile p = s.dropWhile p ++ [c] := by
  rw [List.dropWhile_append]
  split_ifs with hnil
  · rw [List.isEmpty_iff.1 hnil, List.dropWhile_cons_of_neg hc]
    rfl
  · rfl

theorem rdropWhile_append_of_pos {q : Byte → Bool} (s : List Byte) {t : List Byte}
    (h : ∀ b ∈ t, q b) : (s ++ t).rdropWhile q = s.rdropWhile q := by
  rw [List.rdropWhile, List.reverse_append, List.dropWhile_append_of_pos]
  · rfl
  · intro b hb
    exact h b (List.mem_reverse.1 hb)

/-- A list is some `p` and then some `q`, seen from its end and from its start. -/
theorem forall_mem_rdropWhile_iff {p q : Byte → Bool} {s : List Byte} :
    (∀ b ∈ s.rdropWhile q, p b) ↔ ∀ b ∈ s.dropWhile p, q b := by
  constructor
  · intro h b hb
    rw [← List.rdropWhile_append_rtakeWhile (p := q) (l := s),
      List.dropWhile_append_of_pos h] at hb
    exact List.mem_rtakeWhile_imp ((List.dropWhile_sublist p).mem hb)
  · intro h b hb
    rw [← List.takeWhile_append_dropWhile (p := p) (l := s), rdropWhile_append_of_pos _ h] at hb
    exact List.mem_takeWhile_imp ((List.rdropWhile_prefix q _).subset hb)

/-- Blanks and `CR`s, and then either the line feed or blanks. -/
def Vanishes (arg : List Byte) : Prop :=
  let rest := (arg.dropWhile (· == 32)).dropWhile (· == 13)
  rest = [10] ∨ ∀ b ∈ rest, b = 32

instance : DecidablePred Vanishes := fun _ => inferInstanceAs (Decidable (_ ∨ _))

theorem trimArgument_lf {s : List Byte} (h : (10 : Byte) ∉ s) :
    Config.trimArgument (s ++ [10]) = none ↔ Vanishes (s ++ [10]) := by
  obtain ⟨t, ht⟩ : ∃ t, s.dropWhile (· == 32) = t := ⟨_, rfl⟩
  have hlf : (10 : Byte) ∉ t := fun hmem => h ((List.dropWhile_sublist _).mem (ht ▸ hmem))
  have hblank : Utils.trim (s ++ [10]) 32 = some (t ++ [10]) := by
    have hne : ¬ ∀ b ∈ s ++ [10], b = 32 := fun hall =>
      absurd (hall 10 (List.mem_append_right _ List.mem_cons_self)) (by decide)
    rw [Utils.trim_eq_some hne, dropWhile_concat (by decide), ht,
      List.rdropWhile_concat_neg _ _ _ (by decide)]
  have hrest : Vanishes (s ++ [10]) ↔ ∀ b ∈ t, b = 13 := by
    have hlast : ¬ ∀ b ∈ t.dropWhile (· == 13) ++ [10], b = 32 := fun hall =>
      absurd (hall 10 (List.mem_append_right _ List.mem_cons_self)) (by decide)
    rw [Vanishes, dropWhile_concat (by decide), ht, dropWhile_concat (by decide)]
    rw [or_iff_left hlast, List.append_left_eq_self, List.dropWhile_eq_nil_iff]
    simp
  simp only [Config.trimArgument, Option.bind_eq_bind]
  rw [hblank, Option.bind_some, hrest]
  by_cases hnil : t = []
  · rw [hnil]
    exact iff_of_true rfl (List.forall_mem_nil _)
  · have htrim : Utils.trim (t ++ [10]) 10 = some t :=
      Utils.trim_append_replicate hnil (fun hhead => hlf (List.mem_of_head? hhead))
        (fun hlast => hlf (List.mem_of_getLast? hlast)) 1
    rw [htrim, Option.bind_some, Utils.trim_eq_none_iff]

theorem trimArgument_no_lf {s : List Byte} (h : (10 : Byte) ∉ s) :
    Config.trimArgument s = none ↔ Vanishes s := by
  obtain ⟨t, ht⟩ : ∃ t, s.dropWhile (· == 32) = t := ⟨_, rfl⟩
  have hlf : (10 : Byte) ∉ t := fun hmem => h ((List.dropWhile_sublist _).mem (ht ▸ hmem))
  have hrest : Vanishes s ↔ ∀ b ∈ t.dropWhile (· == 13), b = 32 := by
    rw [Vanishes, ht]
    refine or_iff_right fun hcons => hlf ((List.dropWhile_sublist (· == 13)).mem ?_)
    rw [hcons]
    exact List.mem_cons_self
  simp only [Config.trimArgument, Option.bind_eq_bind]
  by_cases hall : ∀ b ∈ s, b = 32
  · have hnil : t = [] := by
      rw [← ht, List.dropWhile_eq_nil_iff]
      simpa using hall
    rw [Utils.trim_eq_none_iff.2 hall, hrest, hnil]
    exact iff_of_true rfl (List.forall_mem_nil _)
  · obtain ⟨a, ha⟩ : ∃ a, t.rdropWhile (· == 32) = a := ⟨_, rfl⟩
    have hmem : (10 : Byte) ∉ a := fun hmem =>
      hlf ((List.rdropWhile_prefix _ _).subset (ha ▸ hmem))
    have hne : a ≠ [] := by
      rw [← ha, Ne, List.rdropWhile_eq_nil_iff]
      intro hblank
      refine hall fun b hb => ?_
      rw [← List.takeWhile_append_dropWhile (p := (· == 32)) (l := s), ht, List.mem_append] at hb
      rcases hb with hb | hb
      · simpa using List.mem_takeWhile_imp hb
      · simpa using hblank b hb
    have htrim : Utils.trim a 10 = some a :=
      Utils.trim_of_ends hne (fun hhead => hmem (List.mem_of_head? hhead))
        (fun hlast => hmem (List.mem_of_getLast? hlast))
    rw [Utils.trim_eq_some hall, ht, ha, Option.bind_some, htrim, Option.bind_some,
      Utils.trim_eq_none_iff, hrest, ← ha]
    have hends := forall_mem_rdropWhile_iff (p := (· == 13)) (q := (· == 32)) (s := t)
    simpa using hends

/-! ### The lines of a file -/

/-- A line feed can only be the last character. -/
def LfLast (s : List Byte) : Prop := ∀ a b, s = a ++ 10 :: b → b = []

namespace LfLast
variable {s : List Byte}

theorem of_initial {t : List Byte} (h : LfLast s) (ht : t <+: s) : LfLast t := by
  obtain ⟨rest, rfl⟩ := ht
  rintro a b rfl
  exact (List.append_eq_nil_iff.1 (h a (b ++ rest) (List.append_assoc _ _ _))).1

theorem of_suffix {t : List Byte} (h : LfLast s) (ht : t <:+ s) : LfLast t := by
  obtain ⟨key, rfl⟩ := ht
  rintro a b rfl
  exact h (key ++ a) b (List.append_assoc _ _ _).symm

theorem of_notMem (h : (10 : Byte) ∉ s) : LfLast s := by
  rintro a b rfl
  exact absurd (List.mem_append_right a List.mem_cons_self) h

theorem concat (h : (10 : Byte) ∉ s) (c : Byte) : LfLast (s ++ [c]) := by
  intro a b hab
  rcases List.eq_nil_or_concat b with hb | ⟨b', d, hb⟩
  · exact hb
  · rw [hb, List.concat_eq_append, ← List.cons_append, ← List.append_assoc] at hab
    obtain ⟨hs, -⟩ := List.append_inj' hab rfl
    exact absurd (hs ▸ List.mem_append_right a List.mem_cons_self) h

theorem of_mem_fgets {max : ℕ} {acc text line : List Byte} (hacc : (10 : Byte) ∉ acc)
    (h : line ∈ fgets max acc text) : LfLast line := by
  induction text generalizing acc with
  | nil =>
    rw [fgets] at h
    split_ifs at h
    · cases h
    · rw [List.mem_singleton.1 h]
      exact of_notMem hacc
  | cons c text ih =>
    rw [fgets] at h
    split_ifs at h with hend
    · rcases List.mem_cons.1 h with rfl | h
      · exact concat hacc c
      · exact ih List.not_mem_nil h
    · refine ih (fun hmem => ?_) h
      rcases List.mem_append.1 hmem with hmem | hmem
      · exact hacc hmem
      · exact hend (.inl (List.mem_singleton.1 hmem).symm)

/-- An argument as `fgets` gives it: the trims throw exactly if it vanishes. -/
theorem trimArgument_eq_none_iff (h : LfLast s) : Config.trimArgument s = none ↔ Vanishes s := by
  by_cases hmem : (10 : Byte) ∈ s
  · obtain ⟨a, b, rfl, ha⟩ := List.eq_append_cons_of_mem hmem
    obtain rfl : b = [] := h a b rfl
    exact trimArgument_lf ha
  · exact trimArgument_no_lf hmem

end LfLast

theorem afterChr_suffix {c : Byte} {s arg : List Byte} (h : afterChr c s = some arg) :
    arg <:+ s := by
  induction s with
  | nil => cases h
  | cons b s ih =>
    rw [afterChr] at h
    split_ifs at h
    · cases h
      exact List.suffix_cons b arg
    · exact (ih h).trans (List.suffix_cons b s)

/-- The lines of a file as the loop sees them. -/
def fileLines (text : List Byte) : List (List Byte) := (fgets 99 [] text).map cstr

theorem lfLast_of_mem_fileLines {text line : List Byte} (h : line ∈ fileLines text) :
    LfLast line := by
  obtain ⟨l, hl, rfl⟩ := List.mem_map.1 h
  exact (LfLast.of_mem_fgets List.not_mem_nil hl).of_initial (List.takeWhile_prefix _)

/-! ### Files that can be read -/

namespace Config
variable {D : Type} [DoubleText D]

theorem readConfigFile_eq (c : Config D) (text : List Byte) :
    c.readConfigFile (some text) = ((fileLines text).foldlM readLine c).map (true, ·) := by
  rw [readConfigFile, ← fileLines]
  cases (fileLines text).foldlM readLine c <;> rfl

theorem readLine_eq_none_iff (c : Config D) {line : List Byte} (h : LfLast line) :
    c.readLine line = none ↔ ∃ arg, afterChr 58 line = some arg ∧ Vanishes arg := by
  rw [readLine]
  cases harg : afterChr 58 line with
  | none =>
    refine iff_of_false (fun h => by cases h) ?_
    rintro ⟨arg, h, -⟩
    cases h
  | some arg =>
    have hvanishes := (h.of_suffix (afterChr_suffix harg)).trimArgument_eq_none_iff
    simp only [Option.some.injEq, exists_eq_left']
    rw [← hvanishes]
    cases trimArgument arg with
    | none => exact iff_of_true rfl rfl
    | some argument =>
      refine iff_of_false ?_ (Option.some_ne_none argument)
      simp only [Option.bind_eq_bind, Option.bind_some]
      split_ifs <;> exact not_false

theorem foldlM_readLine_ne_none_iff (c : Config D) {lines : List (List Byte)}
    (h : ∀ line ∈ lines, LfLast line) :
    lines.foldlM readLine c ≠ none ↔
      ∀ line ∈ lines, ∀ arg, afterChr 58 line = some arg → ¬ Vanishes arg := by
  induction lines generalizing c with
  | nil => exact iff_of_true nofun nofun
  | cons line lines ih =>
    rw [List.forall_mem_cons] at h ⊢
    have hline := readLine_eq_none_iff c h.1
    rw [List.foldlM_cons, Option.bind_eq_bind]
    cases hread : c.readLine line with
    | none =>
      obtain ⟨arg, harg, hvanishes⟩ := hline.1 hread
      exact iff_of_false (not_not.2 rfl) fun hall => hall.1 arg harg hvanishes
    | some c₁ =>
      rw [Option.bind_some, ih c₁ h.2]
      refine (and_iff_right fun arg harg hvanishes => ?_).symm
      cases hread.symm.trans (hline.2 ⟨arg, harg, hvanishes⟩)

end Config

/-- Nothing but blanks and the end of the line. -/
def BlankValue (arg : List Byte) : Prop :=
  ∃ (j : ℕ) (eol : List Byte),
    arg = List.replicate j 32 ++ eol ∧ (eol = [] ∨ eol = [10] ∨ eol = [13, 10])

theorem BlankValue.vanishes {arg : List Byte} (h : BlankValue arg) : Vanishes arg := by
  obtain ⟨j, eol, rfl, heol⟩ := h
  rw [Vanishes, List.dropWhile_append_of_pos (by simp)]
  rcases heol with rfl | rfl | rfl <;> decide

/-- A configuration file is read to its end, and a `deviceid` line with a blank value leaves the
device id as it is, exactly when no line of the file, as `fgets` cuts it and up to a NUL, has an
argument of which the trims leave nothing. -/
theorem readConfigFile_iff {D : Type} [DoubleText D] (c : Config D) (text : List Byte) :
    ((∃ c', c.readConfigFile (some text) = some (true, c')) ∧
      ∀ line ∈ fileLines text, ∀ arg, str "deviceid" <+: line → afterChr 58 line = some arg →
        BlankValue arg → ∀ c₁ : Config D,
          ∃ c₂, c₁.readLine line = some c₂ ∧ c₂.macAddress = c₁.macAddress) ↔
      ∀ line ∈ fileLines text, ∀ arg, afterChr 58 line = some arg → ¬ Vanishes arg := by
  have hread := Config.foldlM_readLine_ne_none_iff c fun line (h : line ∈ fileLines text) =>
    lfLast_of_mem_fileLines h
  rw [Config.readConfigFile_eq]
  constructor
  · rintro ⟨⟨c', hc'⟩, -⟩
    refine hread.1 fun hnone => ?_
    rw [hnone] at hc'
    cases hc'
  · intro h
    obtain ⟨c', hc'⟩ := Option.ne_none_iff_exists'.1 (hread.2 h)
    refine ⟨⟨c', by rw [hc']; rfl⟩, ?_⟩
    intro line hline arg _ harg hblank
    exact absurd hblank.vanishes (h line hline arg harg)

/-- A file with a latitude that is not filled in. -/
theorem readConfigFile_empty_value :
    (⟨[], 0, 0⟩ : Config ℚ).readConfigFile (some (str "deviceid:b827eb000001\nlat:\nlon:12.5\n")) =
      none := by
  have hlines : fileLines (str "deviceid:b827eb000001\nlat:\nlon:12.5\n") =
      [str "deviceid:b827eb000001\n", str "lat:\n", str "lon:12.5\n"] := by decide
  rw [Config.readConfigFile_eq, Option.map_eq_none_iff]
  by_contra hne
  rw [← Ne, Config.foldlM_readLine_ne_none_iff _ fun _ => lfLast_of_mem_fileLines, hlines] at hne
  exact hne (str "lat:\n") (by decide) (str "\n") (by decide) (by decide)

/-! ### A line with the device id -/

/-- The line without the line feed: the key, blanks, the id, blanks, and perhaps a `CR`. -/
def deviceIdLine (w₁ : ℕ) (v : List Byte) (w₂ : ℕ) (cr : Bool) : List Byte :=
  str "deviceid" ++ 58 :: (List.replicate w₁ 32 ++ (v ++ List.replicate w₂ 32) ++
    List.replicate cr.toNat 13)

structure DeviceIdLine where
  w₁ : ℕ
  v : List Byte
  w₂ : ℕ
  cr : Bool
  length : 12 ≤ v.length
  nul : 0 ∉ v
  cr_notMem : 13 ∉ v
  lf : 10 ∉ v
  head : v.head? ≠ some 32
  last : v.getLast? ≠ some 32
  fits : (deviceIdLine w₁ v w₂ cr).length ≤ 98

/-- A text that ends where a line ends. -/
def Complete (text : List Byte) : Prop := text = [] ∨ ∃ s, text = s ++ [10]

theorem fgets_append {max : ℕ} {acc : List Byte} (s rest : List Byte) :
    fgets max acc (s ++ 10 :: rest) = fgets max acc (s ++ [10]) ++ fgets max [] rest := by
  induction s generalizing acc with
  | nil =>
    rw [List.nil_append, List.nil_append, fgets, fgets, if_pos (.inl rfl), if_pos (.inl rfl)]
    rfl
  | cons c s ih =>
    rw [List.cons_append, List.cons_append, fgets, fgets]
    split_ifs
    · rw [ih, List.cons_append]
    · exact ih

theorem Complete.fgets_append {max : ℕ} {text : List Byte} (h : Complete text) (rest : List Byte) :
    fgets max [] (text ++ rest) = fgets max [] text ++ fgets max [] rest := by
  rcases h with rfl | ⟨s, rfl⟩
  · rfl
  · rw [← List.append_cons, Terremoti.fgets_append]

namespace DeviceIdLine
variable (l : DeviceIdLine)

def bytes : List Byte := deviceIdLine l.w₁ l.v l.w₂ l.cr ++ [10]

/-- What the trims leave of the line. -/
def argument : List Byte := l.v ++ List.replicate l.w₂ 32

theorem unpadded : Unpadded l.argument := by
  have hne : l.v ≠ [] := List.ne_nil_of_length_pos ((Nat.succ_pos 11).trans_le l.length)
  refine ⟨List.append_ne_nil_of_left_ne_nil hne _, ?_, ?_, ?_⟩
  · rw [argument, List.head?_append_of_ne_nil _ hne]
    exact l.head
  · simpa [argument] using l.lf
  · simpa [argument] using l.cr_notMem

theorem cstr_bytes : cstr l.bytes = l.bytes := by
  refine cstr_of_notMem ?_
  have hkey : (0 : Byte) ∉ str "deviceid" := by decide
  simpa [bytes, deviceIdLine] using ⟨hkey, l.nul⟩

theorem fgets_bytes (rest : List Byte) :
    fgets 99 [] (l.bytes ++ rest) = l.bytes :: fgets 99 [] rest := by
  have hkey : (10 : Byte) ∉ str "deviceid" := by decide
  have hlf : (10 : Byte) ∉ deviceIdLine l.w₁ l.v l.w₂ l.cr := by
    simpa [deviceIdLine] using ⟨hkey, l.lf⟩
  have hline := fgets_line [] hlf (Nat.add_le_add (by simpa using l.fits) (le_refl 1)) rest
  rwa [List.append_cons] at hline

variable {D : Type} [DoubleText D]

theorem readLine_bytes (c : Config D) :
    c.readLine l.bytes = some { c with macAddress := l.argument } := by
  have harg : afterChr 58 l.bytes = some (List.replicate l.w₁ 32 ++ l.argument ++
      List.replicate l.cr.toNat 13 ++ [10]) := by
    rw [bytes, deviceIdLine, List.append_assoc]
    exact afterChr_append (by decide) _
  have hlen : 12 ≤ l.argument.length := by
    rw [argument, List.length_append]
    exact l.length.trans (Nat.le_add_right _ _)
  have hkey : str "deviceid" <+: l.bytes := by
    rw [bytes, deviceIdLine, List.append_assoc]
    exact List.prefix_append _ _
  simp only [Config.readLine, harg, l.unpadded.trimArgument_padded, Option.bind_eq_bind,
    Option.bind_some]
  rw [if_pos hkey, if_neg (by omega)]

/-- The line sets the device id, to the id and the blanks behind it. -/
theorem readConfigFile_bytes {pre : List Byte} (hpre : Complete pre) (post : List Byte)
    {c c₁ : Config D} (h : c.readConfigFile (some pre) = some (true, c₁)) :
    c.readConfigFile (some (pre ++ (l.bytes ++ post))) =
      Config.readConfigFile { c₁ with macAddress := l.argument } (some post) := by
  have hlines : fileLines (pre ++ (l.bytes ++ post)) =
      fileLines pre ++ l.bytes :: fileLines post := by
    rw [fileLines, hpre.fgets_append, l.fgets_bytes, List.map_append, List.map_cons, l.cstr_bytes]
    rfl
  rw [Config.readConfigFile_eq, Option.map_eq_some_iff] at h
  obtain ⟨c₂, hfold, hc₂⟩ := h
  cases hc₂
  rw [Config.readConfigFile_eq, Config.readConfigFile_eq, hlines, List.foldlM_append, hfold,
    Option.bind_eq_bind, Option.bind_some, List.foldlM_cons, l.readLine_bytes,
    Option.bind_eq_bind, Option.bind_some]

/-- Wherever the line stands in a file, the rest of the file is read with the id, exactly when
there are no blanks behind it. -/
theorem sets_macAddress_iff (c : Config D) :
    (∀ pre post c₁, Complete pre → c.readConfigFile (some pre) = some (true, c₁) →
      c.readConfigFile (some (pre ++ (l.bytes ++ post))) =
        Config.readConfigFile { c₁ with macAddress := l.v } (some post)) ↔
      l.w₂ = 0 := by
  constructor
  · intro h
    have hempty : c.readConfigFile (some []) = some (true, c) := rfl
    have hline := h [] [] c (.inl rfl) hempty
    rw [l.readConfigFile_bytes (.inl rfl) [] hempty] at hline
    have hmac : l.argument = l.v :=
      congrArg Config.macAddress (Prod.ext_iff.1 (Option.some.inj hline)).2
    rw [argument, List.append_right_eq_self, List.replicate_eq_nil_iff] at hmac
    exact hmac
  · intro h pre post c₁ hpre hread
    have harg : l.argument = l.v := by
      rw [argument, h]
      exact List.append_nil _
    rw [l.readConfigFile_bytes hpre post hread, harg]

/-- A blank before the line feed. -/
theorem sets_macAddress_blank :
    (⟨[], 0, 0⟩ : Config ℚ).readConfigFile (some (str "deviceid:b827eb000001 \n")) =
      some (true, ⟨str "b827eb000001 ", 0, 0⟩) ∧
    str "b827eb000001 " ≠ str "b827eb000001" := by
  have hread := readConfigFile_bytes
    ⟨0, str "b827eb000001", 1, false, by decide, by decide, by decide, by decide, by decide,
      by decide, by decide⟩ (.inl rfl) [] (c := (⟨[], 0, 0⟩ : Config ℚ)) rfl
  exact ⟨hread, by decide⟩

end DeviceIdLine

end Terremoti
