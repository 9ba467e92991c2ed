import Terremoti.HTTPClient

/-!
# A line of a reply (`HTTPClient::getLine`)

`getLine` puts the bytes of a line into the buffer, the `CR`s left out, up to the line feed, the end
of the stream or the end of the buffer; `cutLine` says so without the buffer. `LineBuffer p` says how
the buffer stands after the bytes `p` of an unfinished line: each byte keeps it (`LineBuffer.turn`),
and at the end it holds the line and NULs (`getLine_cut`).
-/

namespace Terremoti

def lineText (raw : List Byte) : List Byte := raw.filter (· != 13)

namespace HTTPClient

/-- A line of at most `room` characters and what comes after it. If `char` is signed, a byte `0xFF`
ends it like the end of the stream. -/
def cutLine (signed : Bool) : ℕ → List Byte → List Byte × List Byte
  | 0, input => ([], input)
  | _ + 1, [] => ([], [])
  | room + 1, b :: input =>
    if b = 13 then cutLine signed (room + 1) input
    else if b = 10 ∨ (signed = true ∧ b = 255) then ([], input)
    else
      let r := cutLine signed room input
      (b :: r.1, r.2)

variable {signed : Bool} {maxsize : ℕ} {tail : List Byte}

theorem ofInt_readchar (signed : Bool) (b : Byte) (s : List Byte) :
    BitVec.ofInt 8 (Tcp.readchar signed (b :: s)).1 = b := by
  cases signed with
  | true => exact BitVec.ofInt_toInt
  | false => simp [Tcp.readchar]

/-- When a byte looks like the end of the stream. -/
theorem readchar_eq_iff (signed : Bool) (b : Byte) (s : List Byte) :
    (Tcp.readchar signed (b :: s)).1 = -1 ↔ signed = true ∧ b = 255 := by
  constructor
  · intro heof
    have hb := ofInt_readchar signed b s
    rw [heof] at hb
    cases signed with
    | true => exact ⟨rfl, hb.symm⟩
    | false =>
      have hnonneg : (0 : ℤ) ≤ b.toNat := Int.natCast_nonneg _
      rw [show (b.toNat : ℤ) = -1 from heof] at hnonneg
      exact absurd hnonneg (by decide)
  · rintro ⟨rfl, rfl⟩
    rfl

/-! ### One byte -/

/-- The buffer after the characters `text` of a line: the text, one byte that is yet to be
overwritten unless the buffer is full, and NULs. -/
structure LineBuffer (maxsize : ℕ) (tail text buffer : List Byte) (i : BitVec 32) : Prop where
  index : i = BitVec.ofNat 32 text.length
  full : text.length + 1 = maxsize → buffer = text ++ (List.replicate 1 0 ++ tail)
  buffer : buffer.set text.length 0 =
    text ++ (List.replicate (maxsize - text.length) 0 ++ tail)

namespace LineBuffer

variable {text buffer : List Byte} {i : BitVec 32} {b : Byte}

theorem start (h : 1 < maxsize) (tail : List Byte) :
    LineBuffer maxsize tail [] (List.replicate maxsize 0 ++ tail) 0 := by
  refine ⟨rfl, fun hfull => ?_, ?_⟩
  · rw [List.length_nil] at hfull
    omega
  · obtain ⟨k, rfl⟩ := Nat.exists_eq_add_of_lt h
    rfl

theorem toNat (h : LineBuffer maxsize tail text buffer i) (hlen : text.length < 2 ^ 32) :
    i.toNat = text.length := by
  rw [h.index, BitVec.toNat_ofNat, Nat.mod_eq_of_lt hlen]

theorem turn_cr (h : LineBuffer maxsize tail text buffer i) (signed : Bool) (s : List Byte)
    (hlen : text.length < 2 ^ 32) (hroom : text.length + 1 < maxsize) :
    ∃ buffer' i', getLineTurn (Tcp.readchar signed (13 :: s)).1 buffer i = (buffer', i', false) ∧
      LineBuffer maxsize tail text buffer' i' := by
  rw [getLineTurn, ofInt_readchar, h.toNat hlen]
  refine ⟨_, _, if_pos rfl, ?_, fun hfull => absurd hfull hroom.ne, ?_⟩
  · rw [BitVec.sub_add_cancel, h.index]
  · rw [List.set_set, h.buffer]

theorem turn (h : LineBuffer maxsize tail text buffer i) (s : List Byte)
    (hlen : text.length < 2 ^ 32) (hroom : text.length + 1 < maxsize) (hcr : b ≠ 13)
    (hend : ¬ (b = 10 ∨ (signed = true ∧ b = 255))) :
    ∃ buffer' i', getLineTurn (Tcp.readchar signed (b :: s)).1 buffer i = (buffer', i', false) ∧
      LineBuffer maxsize tail (text ++ [b]) buffer' i' := by
  rw [← readchar_eq_iff signed b s] at hend
  rw [getLineTurn, ofInt_readchar, h.toNat hlen]
  -- the byte takes the place of the first NUL, and the next one is there already
  obtain ⟨k, hk⟩ := Nat.exists_eq_add_of_le (show text.length + 2 ≤ maxsize by omega)
  have hset : buffer.set text.length b =
      text ++ b :: 0 :: (List.replicate k 0 ++ tail) := by
    rw [← List.set_set (a := 0), h.buffer, List.set_append_right _ _ le_rfl, Nat.sub_self,
      show maxsize - text.length = k + 1 + 1 by omega]
    rfl
  have hsnoc : (text ++ [b]).length = text.length + 1 := List.length_append
  have hbuffer : buffer.set text.length b =
      (text ++ [b]) ++ (List.replicate (maxsize - (text ++ [b]).length) 0 ++ tail) := by
    rw [hset, hsnoc, show maxsize - (text.length + 1) = k + 1 by omega, List.append_assoc]
    rfl
  refine ⟨_, _, (if_neg hcr).trans (if_neg hend), ?_, fun hfull => ?_, ?_⟩
  · rw [hsnoc, h.index, BitVec.ofNat_add]
    rfl
  · rw [hbuffer, ← hfull, Nat.add_sub_cancel_left]
  · rw [hbuffer, List.set_append_right _ _ le_rfl, Nat.sub_self, hsnoc,
      show maxsize - (text.length + 1) = k + 1 by omega]
    rfl

/-- A line feed, or what looks like the end of the stream: the line and NULs. -/
theorem turn_end (h : LineBuffer maxsize tail text buffer i) (s : List Byte)
    (hlen : text.length < 2 ^ 32) (hcr : b ≠ 13) (hend : b = 10 ∨ (signed = true ∧ b = 255)) :
    getLineTurn (Tcp.readchar signed (b :: s)).1 buffer i =
      (text ++ (List.replicate (maxsize - text.length) 0 ++ tail), i + 1, true) := by
  rw [← readchar_eq_iff signed b s] at hend
  rw [getLineTurn, ofInt_readchar, h.toNat hlen]
  refine ((if_neg hcr).trans (if_pos hend)).trans ?_
  rw [List.set_set, h.buffer]

theorem turn_eof (h : LineBuffer maxsize tail text buffer i) (hlen : text.length < 2 ^ 32) :
    getLineTurn (-1) buffer i =
      (text ++ (List.replicate (maxsize - text.length) 0 ++ tail), i + 1, true) := by
  rw [getLineTurn_eof, h.toNat hlen, List.set_set, h.buffer]

end LineBuffer

/-! ### The line -/

/-- What `getLineLoop` returns for a line: the line and NULs, the index behind the byte that ended
it, and the rest of the stream. -/
def lineEnd (maxsize : ℕ) (tail line rest : List Byte) : List Byte × BitVec 32 × List Byte :=
  (line ++ (List.replicate (maxsize - line.length) 0 ++ tail),
    BitVec.ofNat 32 (min (line.length + 1) (maxsize - 1)), rest)

namespace LineBuffer

variable {text buffer : List Byte} {i : BitVec 32}

/-- There is no room for another byte. -/
theorem loop_full (h : LineBuffer maxsize tail text buffer i) (hlen : text.length < 2 ^ 32)
    (hfull : text.length + 1 = maxsize) (input : List Byte) :
    getLineLoop signed maxsize input buffer i = lineEnd maxsize tail text input := by
  have hi := h.toNat hlen
  have hloop : getLineLoop signed maxsize input buffer i = (buffer, i, input) := by
    cases input <;> rw [getLineLoop, if_neg (by omega)]
  rw [hloop, lineEnd, min_eq_right (by omega), show maxsize - 1 = text.length by omega,
    show maxsize - text.length = 1 by omega, ← h.full hfull, ← h.index]

theorem lineEnd_eq (h : LineBuffer maxsize tail text buffer i) (hroom : text.length + 1 < maxsize)
    (rest : List Byte) :
    lineEnd maxsize tail text rest =
      (text ++ (List.replicate (maxsize - text.length) 0 ++ tail), i + 1, rest) := by
  rw [lineEnd, min_eq_left (by omega), h.index, BitVec.ofNat_add]
  rfl

end LineBuffer

/-- The loop from any point of a line on, if the index can count the line. -/
theorem getLineLoop_cut (input : List Byte) {text buffer : List Byte} {i : BitVec 32} {room : ℕ}
    (h : LineBuffer maxsize tail text buffer i)
    (hlen : (text ++ (cutLine signed room input).1).length < 2 ^ 32)
    (hroom : text.length + room + 1 = maxsize) :
    getLineLoop signed maxsize input buffer i =
      lineEnd maxsize tail (text ++ (cutLine signed room input).1)
        (cutLine signed room input).2 := by
  induction input generalizing text buffer i room with
  | nil =>
    cases room with
    | zero =>
      rw [cutLine, List.append_nil] at hlen ⊢
      exact h.loop_full hlen hroom []
    | succ room =>
      rw [cutLine, List.append_nil] at hlen ⊢
      have hi := h.toNat hlen
      rw [h.lineEnd_eq (by omega), getLineLoop, if_pos (by omega)]
      dsimp only [Tcp.readchar]
      rw [h.turn_eof hlen]
  | cons b input ih =>
    have htext : text.length < 2 ^ 32 := by
      rw [List.length_append] at hlen
      omega
    cases room with
    | zero =>
      rw [cutLine, List.append_nil]
      exact h.loop_full htext hroom (b :: input)
    | succ room =>
      have hi := h.toNat htext
      rw [getLineLoop, if_pos (by omega)]
      rw [cutLine] at hlen ⊢
      by_cases hcr : b = 13
      · obtain ⟨buffer', i', hturn, hbuffer⟩ := h.turn_cr signed input htext (by omega)
        rw [if_pos hcr] at hlen ⊢
        rw [hcr, hturn]
        exact ih hbuffer hlen hroom
      rw [if_neg hcr] at hlen ⊢
      by_cases hend : b = 10 ∨ (signed = true ∧ b = 255)
      · rw [if_pos hend, h.turn_end input htext hcr hend, List.append_nil,
          h.lineEnd_eq (by omega)]
        rfl
      · obtain ⟨buffer', i', hturn, hbuffer⟩ := h.turn input htext (by omega) hcr hend
        have hsnoc : (text ++ [b]).length + room + 1 = maxsize := by
          rw [List.length_append, List.length_singleton]
          omega
        rw [if_neg hend] at hlen ⊢
        rw [hturn]
        dsimp only at hlen ⊢
        rw [List.append_cons text b] at hlen ⊢
        exact ih hbuffer hlen hsnoc

/-- A line ends in room of the buffer. -/
theorem length_cutLine_le (signed : Bool) (room : ℕ) (input : List Byte) :
    (cutLine signed room input).1.length ≤ room := by
  fun_induction cutLine signed room input with
  | case1 => exact Nat.zero_le _
  | case2 => exact Nat.zero_le _
  | case3 _ _ ih => exact ih
  | case4 => exact Nat.zero_le _
  | case5 _ _ _ _ _ _ ih => exact Nat.succ_le_succ ih

/-- `getLine` returns the line, except that one that fills the buffer is counted one short. The count
is made an `int`. -/
theorem getLine_cut_of_lt (input buffer : List Byte) (hmin : 1 < maxsize)
    (hlt : (cutLine signed (maxsize - 1) input).1.length < 2 ^ 32) :
    getLine signed maxsize input buffer =
      let r := cutLine signed (maxsize - 1) input
      ⟨(BitVec.ofNat 32 (min r.1.length (maxsize - 2))).toInt,
        r.1 ++ (List.replicate (maxsize - r.1.length) 0 ++ buffer.drop maxsize), r.2⟩ := by
  have hlen := length_cutLine_le signed (maxsize - 1) input
  have hroom : ([] : List Byte).length + (maxsize - 1) + 1 = maxsize := by
    rw [List.length_nil]
    omega
  rw [getLine, getLineLoop_cut input (.start hmin (buffer.drop maxsize)) hlt hroom,
    List.nil_append, lineEnd]
  dsimp only
  have hret : min ((cutLine signed (maxsize - 1) input).1.length + 1) (maxsize - 1) =
      min (cutLine signed (maxsize - 1) input).1.length (maxsize - 2) + 1 := by omega
  have hsub : ∀ k : ℕ, BitVec.ofNat 32 (k + 1) - 1 = BitVec.ofNat 32 k := by
    intro k
    rw [BitVec.ofNat_add]
    exact BitVec.add_sub_cancel _ _
  rw [hret, hsub]

theorem toInt_ofNat_of_lt {n : ℕ} (h : n < 2 ^ 31) : (BitVec.ofNat 32 n).toInt = n := by
  have hnat : (BitVec.ofNat 32 n).toNat = n := by
    rw [BitVec.toNat_ofNat, Nat.mod_eq_of_lt (by omega)]
  rw [BitVec.toInt_eq_toNat_of_lt (by omega), hnat]

theorem getLine_cut (input buffer : List Byte) (hmin : 1 < maxsize) (hmax : maxsize ≤ 2 ^ 31) :
    getLine signed maxsize input buffer =
      let r := cutLine signed (maxsize - 1) input
      ⟨(min r.1.length (maxsize - 2) : ℕ),
        r.1 ++ (List.replicate (maxsize - r.1.length) 0 ++ buffer.drop maxsize), r.2⟩ := by
  have hlen := length_cutLine_le signed (maxsize - 1) input
  rw [getLine_cut_of_lt input buffer hmin (by omega)]
  dsimp only
  rw [toInt_ofNat_of_lt (by omega)]

/-! ### Lines that fit -/

theorem cutLine_line {raw : List Byte} (rest : List Byte) {room : ℕ} (hlf : 10 ∉ raw)
    (hend : 255 ∉ raw) (hfits : (lineText raw).length < room) :
    cutLine signed room (raw ++ 10 :: rest) = (lineText raw, rest) := by
  induction raw generalizing room with
  | nil =>
    obtain ⟨room, rfl⟩ := Nat.exists_eq_succ_of_ne_zero (Nat.pos_iff_ne_zero.1 (pos_of_gt hfits))
    rfl
  | cons b raw ih =>
    rw [List.mem_cons, not_or] at hlf hend
    obtain ⟨room, rfl⟩ := Nat.exists_eq_succ_of_ne_zero (Nat.pos_iff_ne_zero.1 (pos_of_gt hfits))
    rw [List.cons_append, cutLine]
    by_cases hcr : b = 13
    · have htext : lineText (b :: raw) = lineText raw :=
        List.filter_cons_of_neg (by simpa using hcr)
      rw [htext] at hfits ⊢
      rw [if_pos hcr, ih hlf.2 hend.2 hfits]
    · have htext : lineText (b :: raw) = b :: lineText raw :=
        List.filter_cons_of_pos (by simpa using hcr)
      rw [htext] at hfits ⊢
      rw [if_neg hcr, if_neg, ih hlf.2 hend.2 (Nat.lt_of_succ_lt_succ hfits)]
      rintro (rfl | ⟨-, rfl⟩)
      · exact hlf.1 rfl
      · exact hend.1 rfl

theorem getLine_line (raw rest buffer : List Byte) (hmax : maxsize ≤ 2 ^ 31) (hlf : 10 ∉ raw)
    (hend : 255 ∉ raw) (hfits : (lineText raw).length + 1 < maxsize) :
    getLine signed maxsize (raw ++ 10 :: rest) buffer =
      ⟨(lineText raw).length,
        lineText raw ++ (List.replicate (maxsize - (lineText raw).length) 0 ++ buffer.drop maxsize),
        rest⟩ := by
  rw [getLine_cut _ _ (by omega) hmax, cutLine_line rest hlf hend (by omega)]
  dsimp only
  rw [min_eq_left (by omega)]

end HTTPClient
end Terremoti
