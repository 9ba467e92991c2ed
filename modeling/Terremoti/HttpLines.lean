import Mathlib.Data.List.Forall2
import Terremoti.HeadSafety

/-!
# A stream as lines (`HTTPClient::getLine`)

`IsLine` says where a line ends without running the loop: at the line feed, at the end of the stream,
or with the byte that fills the buffer. `getLine` takes such a line off the stream, and repeated
calls (`Calls`) take the whole stream apart. The index is an `unsigned int` and the result an `int`,
whatever `maxsize` is: the index counts lines of less than `2 ^ 32` bytes, and the result is the
number to return exactly when this (`reported`) is less than `2 ^ 31` (`getLine_splits_iff`).
-/

namespace Terremoti
namespace HTTPClient

variable {signed : Bool} {maxsize : ℕ}

/-! ### Lines -/

def held (consumed : List Byte) : List Byte := consumed.filter fun b => b != 13 && b != 10

theorem held_cons {b : Byte} (hcr : b ≠ 13) (hlf : b ≠ 10) (c : List Byte) :
    held (b :: c) = b :: held c :=
  List.filter_cons_of_pos (by simpa using ⟨hcr, hlf⟩)

theorem held_append (c c' : List Byte) : held (c ++ c') = held c ++ held c' :=
  List.filter_append ..

theorem held_lf (raw : List Byte) : held (raw ++ [10]) = held raw := by
  rw [held_append]
  exact List.append_nil _

theorem length_held_snoc {b : Byte} (hcr : b ≠ 13) (hlf : b ≠ 10) (raw : List Byte) :
    (held (raw ++ [b])).length = (held raw).length + 1 := by
  rw [held_append, held_cons hcr hlf, List.length_append]
  rfl

/-- `consumed` is a line when `rest` follows and the buffer has `maxsize` bytes, and the number to
return for it. -/
inductive IsLine (maxsize : ℕ) : List Byte → List Byte → ℕ → Prop
  | feed (raw rest : List Byte) (hlf : 10 ∉ raw)
      (hfits : (held raw).length + 1 < maxsize) :
      IsLine maxsize (raw ++ [10]) rest (held raw).length
  | eof (raw : List Byte) (hlf : 10 ∉ raw) (hfits : (held raw).length + 1 < maxsize) :
      IsLine maxsize raw [] (held raw).length
  | cut (raw rest : List Byte) {b : Byte} (hlf : 10 ∉ raw) (hb : b ≠ 10) (hcr : b ≠ 13)
      (hfull : (held raw).length + 2 = maxsize) :
      IsLine maxsize (raw ++ [b]) rest (maxsize - 2)

namespace IsLine

variable {c rest : List Byte} {n : ℕ} {b : Byte}

theorem cr (h : IsLine maxsize c rest n) : IsLine maxsize (13 :: c) rest n := by
  have hnotMem : ∀ {raw : List Byte}, 10 ∉ raw → 10 ∉ (13 : Byte) :: raw := by
    intro raw hlf
    simpa using hlf
  cases h with
  | feed raw rest hlf hfits => exact .feed (13 :: raw) rest (hnotMem hlf) hfits
  | eof raw hlf hfits => exact .eof (13 :: c) (hnotMem hlf) hfits
  | cut raw rest hlf hb hcr hfull => exact .cut (13 :: raw) rest (hnotMem hlf) hb hcr hfull

theorem cons (h : IsLine maxsize c rest n) (hcr : b ≠ 13) (hb : b ≠ 10) :
    IsLine (maxsize + 1) (b :: c) rest (n + 1) := by
  have hnotMem : ∀ {raw : List Byte}, 10 ∉ raw → 10 ∉ b :: raw := by
    intro raw hlf
    rw [List.mem_cons, not_or]
    exact ⟨hb.symm, hlf⟩
  have hlen : ∀ raw, (held (b :: raw)).length = (held raw).length + 1 := by
    intro raw
    rw [held_cons hcr hb, List.length_cons]
  cases h with
  | feed raw rest hlf hfits =>
    rw [← hlen]
    exact .feed (b :: raw) rest (hnotMem hlf) (by rw [hlen]; omega)
  | eof raw hlf hfits =>
    rw [← hlen]
    exact .eof (b :: c) (hnotMem hlf) (by rw [hlen]; omega)
  | cut raw rest hlf hb' hcr' hfull =>
    rw [show maxsize - 2 + 1 = maxsize + 1 - 2 by omega]
    exact .cut (b :: raw) rest (hnotMem hlf) hb' hcr' (by rw [hlen]; omega)

theorem length_held (h : IsLine maxsize c rest n) :
    (held c).length < maxsize ∧ n = min (held c).length (maxsize - 2) := by
  cases h with
  | feed raw rest hlf hfits => rw [held_lf]; omega
  | eof raw hlf hfits => omega
  | cut raw rest hlf hb hcr hfull => rw [length_held_snoc hcr hb]; omega

end IsLine

/-- How many bytes are held of a stream: those up to its line feed, at most `maxsize - 1`. -/
def heldCount (maxsize : ℕ) (input : List Byte) : ℕ :=
  min (held (input.takeWhile (· != 10))).length (maxsize - 1)

/-- The number to return. -/
def reported (maxsize : ℕ) (input : List Byte) : ℕ := min (heldCount maxsize input) (maxsize - 2)

theorem IsLine.heldCount_eq {c rest : List Byte} {n : ℕ} (h : IsLine maxsize c rest n) :
    heldCount maxsize (c ++ rest) = (held c).length := by
  have hbefore : ∀ {raw : List Byte} (s : List Byte), 10 ∉ raw →
      (raw ++ s).takeWhile (· != 10) = raw ++ s.takeWhile (· != 10) := by
    intro raw s hlf
    refine List.takeWhile_append_of_pos fun b hb => ?_
    have hne : b ≠ 10 := fun heq => hlf (heq ▸ hb)
    simpa using hne
  cases h with
  | feed raw rest hlf hfits =>
    have hline : ([10] ++ rest).takeWhile (· != 10) = [] := List.takeWhile_cons_of_neg (by simp)
    rw [heldCount, List.append_assoc, hbefore _ hlf, hline, List.append_nil, held_lf]
    omega
  | eof raw hlf hfits =>
    rw [heldCount, hbefore _ hlf, List.takeWhile_nil, List.append_nil]
    omega
  | @cut raw rest b hlf hb hcr hfull =>
    have hkept : 0 < (held (([b] ++ rest).takeWhile (· != 10))).length := by
      rw [List.singleton_append, List.takeWhile_cons_of_pos (by simpa using hb), held_cons hcr hb]
      exact Nat.succ_pos _
    rw [heldCount, List.append_assoc, hbefore _ hlf, held_append, List.length_append,
      length_held_snoc hcr hb]
    omega

theorem IsLine.reported_eq {c rest : List Byte} {n : ℕ} (h : IsLine maxsize c rest n) :
    reported maxsize (c ++ rest) = n := by
  rw [reported, h.heldCount_eq, h.length_held.2]

/-! ### One call -/

/-- The line `getLine` takes off the stream is one, as far as the buffer holds. -/
theorem cutLine_isLine (signed : Bool) (room : ℕ) (input : List Byte) (hff : 255 ∉ input)
    (hroom : 0 < room) :
    ∃ consumed n, input = consumed ++ (cutLine signed room input).2 ∧
      (cutLine signed room input).1 = held consumed ∧
      IsLine (room + 1) consumed (cutLine signed room input).2 n := by
  have hempty : ∀ room, (held []).length + 1 < room + 1 + 1 := by
    intro room
    show 0 + 1 < room + 1 + 1
    omega
  fun_induction cutLine signed room input with
  | case1 => exact absurd hroom (lt_irrefl 0)
  | case2 room =>
    exact ⟨[], _, rfl, rfl, .eof [] List.not_mem_nil (hempty room)⟩
  | case3 room input ih =>
    obtain ⟨consumed, n, hinput, htext, hline⟩ := ih (List.not_mem_of_not_mem_cons hff) hroom
    exact ⟨13 :: consumed, n, congrArg (13 :: ·) hinput, htext, hline.cr⟩
  | case4 room b input hcr hend =>
    have hb : b = 10 := by
      rcases hend with hb | ⟨-, hb⟩
      · exact hb
      · exact absurd (hb ▸ List.mem_cons_self ..) hff
    subst hb
    exact ⟨[10], _, rfl, rfl, .feed [] input List.not_mem_nil (hempty room)⟩
  | case5 room b input hcr hend r ih =>
    have hb : b ≠ 10 := fun hb => hend (.inl hb)
    rcases Nat.eq_zero_or_pos room with rfl | hpos
    · have hr : r = ([], input) := by rw [show r = cutLine signed 0 input from rfl, cutLine]
      rw [hr]
      exact ⟨[b], 0, rfl, (held_cons hcr hb []).symm,
        .cut [] input List.not_mem_nil hb hcr rfl⟩
    · obtain ⟨consumed, n, hinput, htext, hline⟩ := ih (List.not_mem_of_not_mem_cons hff) hpos
      refine ⟨b :: consumed, n + 1, congrArg (b :: ·) hinput, ?_, hline.cons hcr hb⟩
      rw [held_cons hcr hb, ← htext]

/-- A call has taken the line `consumed` off the stream, for which `n` is to be returned; `tail` is
what the buffer has behind `maxsize`. -/
structure LineRead.Splits (maxsize : ℕ) (tail consumed : List Byte) (n : ℕ) (r : LineRead) :
    Prop where
  line : IsLine maxsize consumed r.input n
  buffer : r.buffer =
    held consumed ++ (List.replicate (maxsize - (held consumed).length) 0 ++ tail)

theorem LineRead.Splits.drop_buffer {tail consumed : List Byte} {n : ℕ} {r : LineRead}
    (h : r.Splits maxsize tail consumed n) : r.buffer.drop maxsize = tail := by
  have hlen := h.line.length_held.1
  rw [h.buffer, ← List.append_assoc]
  refine List.drop_left' ?_
  rw [List.length_append, List.length_replicate]
  omega

/-- The call takes a line off the stream and leaves what this holds in the buffer. -/
def TakesLine (signed : Bool) (maxsize : ℕ) (input buffer : List Byte) : Prop :=
  ∃ consumed n, input = consumed ++ (getLine signed maxsize input buffer).input ∧
    (getLine signed maxsize input buffer).Splits maxsize (buffer.drop maxsize) consumed n

/-- And returns its number. -/
def GetsLine (signed : Bool) (maxsize : ℕ) (input buffer : List Byte) : Prop :=
  ∃ consumed n, input = consumed ++ (getLine signed maxsize input buffer).input ∧
    (getLine signed maxsize input buffer).Splits maxsize (buffer.drop maxsize) consumed n ∧
    (getLine signed maxsize input buffer).ret = (n : ℤ)

theorem getLine_splits (signed : Bool) (hmin : 2 ≤ maxsize) {input : List Byte} (hff : 255 ∉ input)
    (buffer : List Byte) (hlt : heldCount maxsize input < 2 ^ 32) :
    ∃ consumed, input = consumed ++ (getLine signed maxsize input buffer).input ∧
      (getLine signed maxsize input buffer).Splits maxsize (buffer.drop maxsize) consumed
        (reported maxsize input) ∧
      (getLine signed maxsize input buffer).ret =
        (BitVec.ofNat 32 (reported maxsize input)).toInt := by
  obtain ⟨consumed, n, hinput, htext, hline⟩ :=
    cutLine_isLine signed (maxsize - 1) input hff (by omega)
  rw [show maxsize - 1 + 1 = maxsize by omega] at hline
  have hcount : heldCount maxsize input = (held consumed).length := by
    rw [hinput, hline.heldCount_eq]
  have hreported : reported maxsize input = n := by
    rw [hinput, hline.reported_eq]
  have hcall : getLine signed maxsize input buffer = _ :=
    getLine_cut_of_lt input buffer hmin (by rw [htext, ← hcount]; exact hlt)
  dsimp only at hcall
  rw [htext, ← hline.length_held.2] at hcall
  rw [hreported, hcall]
  exact ⟨consumed, hinput, ⟨hline, rfl⟩, rfl⟩

theorem getsLine_iff (signed : Bool) (hmin : 2 ≤ maxsize) {input : List Byte} (hff : 255 ∉ input)
    (buffer : List Byte) :
    GetsLine signed maxsize input buffer ↔ reported maxsize input < 2 ^ 31 := by
  constructor
  · -- the result is an `int`
    rintro ⟨consumed, n, hinput, hsplits, hret⟩
    have hreported : reported maxsize input = n := by
      rw [hinput, hsplits.line.reported_eq]
    have hint : (getLine signed maxsize input buffer).ret < 2 ^ 31 := by
      have hlt := BitVec.toInt_lt
        (x := (getLineLoop signed maxsize input (List.replicate maxsize 0 ++ buffer.drop maxsize)
          0).2.1 - 1)
      rw [getLine]
      omega
    omega
  · intro hlt
    have hcount : heldCount maxsize input < 2 ^ 32 := by
      have hmax : heldCount maxsize input ≤ maxsize - 1 := Nat.min_le_right _ _
      unfold reported at hlt
      omega
    obtain ⟨consumed, hinput, hsplits, hret⟩ := getLine_splits signed hmin hff buffer hcount
    exact ⟨consumed, _, hinput, hsplits, hret.trans (toInt_ofNat_of_lt hlt)⟩

/-! ### Repeated calls -/

/-- The results of `getLine`, called until the stream is exhausted. -/
inductive Calls (signed : Bool) (maxsize : ℕ) : List Byte → List Byte → List LineRead → Prop
  | done (buffer : List Byte) : Calls signed maxsize [] buffer []
  | call {input buffer : List Byte} {reads : List LineRead} (hinput : input ≠ [])
      (h : Calls signed maxsize (getLine signed maxsize input buffer).input
        (getLine signed maxsize input buffer).buffer reads) :
      Calls signed maxsize input buffer (getLine signed maxsize input buffer :: reads)

theorem length_getLine_lt (hmin : 2 ≤ maxsize) {input : List Byte} (hinput : input ≠ [])
    (buffer : List Byte) : (getLine signed maxsize input buffer).input.length < input.length := by
  cases input with
  | nil => exact absurd rfl hinput
  | cons b input =>
    have hfirst : (0 : BitVec 32).toNat < maxsize - 1 := by
      show 0 < maxsize - 1
      omega
    rw [getLine, getLineLoop, if_pos hfirst]
    dsimp only
    split
    · exact Nat.lt_succ_self _
    · exact Nat.lt_succ_of_le (length_getLineLoop _ _ _ _ _)

theorem exists_calls (signed : Bool) (hmin : 2 ≤ maxsize) (input buffer : List Byte) :
    ∃ reads, Calls signed maxsize input buffer reads := by
  by_cases hinput : input = []
  · exact ⟨[], hinput ▸ .done buffer⟩
  · obtain ⟨reads, h⟩ := exists_calls signed hmin (getLine signed maxsize input buffer).input
      (getLine signed maxsize input buffer).buffer
    exact ⟨_, .call hinput h⟩
termination_by input.length
decreasing_by exact length_getLine_lt hmin hinput buffer

/-- The pieces that the calls have taken, one after the other, are the stream. -/
def Partitions (maxsize : ℕ) (tail input : List Byte) (reads : List LineRead) : Prop :=
  ∃ pieces : List (List Byte), pieces.flatten = input ∧ (pieces.map held).flatten = held input ∧
    List.Forall₂ (fun consumed r => ∃ n, r.Splits maxsize tail consumed n) pieces reads

theorem Calls.partitions {input buffer : List Byte} {reads : List LineRead}
    (h : Calls signed maxsize input buffer reads) (hmin : 2 ≤ maxsize) (hff : 255 ∉ input)
    (hlt : ∀ s, s <:+ input → heldCount maxsize s < 2 ^ 32) :
    Partitions maxsize (buffer.drop maxsize) input reads := by
  induction h with
  | done buffer => exact ⟨[], rfl, rfl, .nil⟩
  | @call input buffer reads hinput h ih =>
    obtain ⟨consumed, hconsumed, hsplits, -⟩ :=
      getLine_splits signed hmin hff buffer (hlt input List.suffix_rfl)
    have hrest : (getLine signed maxsize input buffer).input <:+ input := ⟨consumed, hconsumed.symm⟩
    obtain ⟨pieces, hflatten, hheld, hreads⟩ :=
      ih (fun hmem => hff (hrest.subset hmem)) fun s hs => hlt s (hs.trans hrest)
    rw [hsplits.drop_buffer] at hreads
    refine ⟨consumed :: pieces, ?_, ?_, .cons ⟨_, hsplits⟩ hreads⟩
    · rw [List.flatten_cons, hflatten, ← hconsumed]
    · rw [List.map_cons, List.flatten_cons, hheld, ← held_append, ← hconsumed]

/-- No byte of the buffer from `maxsize - 1` on is written. A call takes a line of less than `2 ^ 32`
bytes off the stream, and returns its number exactly when this is less than `2 ^ 31`. Repeated calls
come to the end of the stream, which they partition into lines if these are so short. -/
theorem getLine_splits_iff (signed : Bool) (hmin : 2 ≤ maxsize) {input : List Byte}
    (hff : 255 ∉ input) (buffer : List Byte) :
    (∀ memory : List Byte, memory.length = maxsize - 1 →
      ∃ r, Checked.getLineLoop signed maxsize input memory 0 = .ok r) ∧
    (heldCount maxsize input < 2 ^ 32 → TakesLine signed maxsize input buffer) ∧
    (GetsLine signed maxsize input buffer ↔ reported maxsize input < 2 ^ 31) ∧
    (∃ reads, Calls signed maxsize input buffer reads) ∧
    ∀ reads, Calls signed maxsize input buffer reads →
      (∀ s, s <:+ input → heldCount maxsize s < 2 ^ 32) →
        Partitions maxsize (buffer.drop maxsize) input reads := by
  refine ⟨fun memory hmemory => ?_, fun hlt => ?_, getsLine_iff signed hmin hff buffer,
    exists_calls signed hmin input buffer, fun reads h => h.partitions hmin hff⟩
  · exact ⟨_, Checked.getLineLoop_eq input 0 hmemory.ge⟩
  · obtain ⟨consumed, hinput, hsplits, -⟩ := getLine_splits signed hmin hff buffer hlt
    exact ⟨consumed, _, hinput, hsplits⟩

theorem getLine_splits_iff_short :
    GetsLine true 300 [72, 105, 13, 10, 13, 10] (List.replicate 301 0) := by
  refine (getLine_splits_iff true (by norm_num) (by simp) _).2.2.1.2 ?_
  rw [reported]
  omega

theorem reported_replicate (n : ℕ) : reported (n + 2) (List.replicate n 65) = n := by
  have hline : (List.replicate n (65 : Byte)).takeWhile (· != 10) = List.replicate n 65 :=
    List.takeWhile_replicate.trans (if_pos rfl)
  have hheld : held (List.replicate n 65) = List.replicate n 65 :=
    List.filter_replicate.trans (if_pos rfl)
  rw [reported, heldCount, hline, hheld, List.length_replicate]
  omega

/-- A line of `2 ^ 31` bytes, which the buffer holds: the result is negative. -/
theorem getLine_int_overflow :
    255 ∉ List.replicate (2 ^ 31) (65 : Byte) ∧
      ¬GetsLine true (2 ^ 31 + 2) (List.replicate (2 ^ 31) 65) [] := by
  have hff : 255 ∉ List.replicate (2 ^ 31) (65 : Byte) := by
    intro hmem
    have heq := List.eq_of_mem_replicate hmem
    cases heq
  refine ⟨hff, ?_⟩
  rw [getsLine_iff true (Nat.le_add_left 2 (2 ^ 31)) hff, reported_replicate]
  exact lt_irrefl (2 ^ 31)

end HTTPClient
end Terremoti
