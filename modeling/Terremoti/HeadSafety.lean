import Terremoti.HttpLine

/-!
# What a reply can do to the head parser

`Checked` runs the parser with every index into the 301 bytes of `rBuffer` checked, and the pointer
that `strchr` returns. No index is out of bounds (`readHead_eq`). The pointer is used as it comes:
the run has no fault exactly when every line that the header loop reads is empty or has a `:`
(`readHead_ok_iff`). What the loop reads as lines are the `headerLines`: longer ones are cut.
-/

namespace Terremoti
namespace HTTPClient

inductive Fault
  | index
  | null
  deriving DecidableEq

variable {signed : Bool}

/-! ### The checked parser -/

namespace Checked

def store (buffer : List Byte) (i : ℕ) (c : Byte) : Except Fault (List Byte) :=
  if i < buffer.length then .ok (buffer.set i c) else .error .index

def load (buffer : List Byte) (i : ℕ) : Except Fault Byte :=
  if i < buffer.length then .ok (buffer.getD i 0) else .error .index

def getLineTurn (bufchar : ℤ) (buffer : List Byte) (i : BitVec 32) :
    Except Fault (List Byte × BitVec 32 × Bool) := do
  let c : Byte := BitVec.ofInt 8 bufchar
  let buffer ← store buffer i.toNat c
  if c = 13 then return (buffer, i - 1 + 1, false)
  else if c = 10 ∨ bufchar = -1 then
    let buffer ← store buffer i.toNat 0
    return (buffer, i + 1, true)
  else return (buffer, i + 1, false)

def getLineLoop (signed : Bool) (maxsize : ℕ) :
    List Byte → List Byte → BitVec 32 → Except Fault (List Byte × BitVec 32 × List Byte)
  | [], buffer, i =>
    if i.toNat < maxsize - 1 then do
      let r ← getLineTurn (Tcp.readchar signed []).1 buffer i
      return (r.1, r.2.1, [])
    else return (buffer, i, [])
  | b :: input, buffer, i =>
    if i.toNat < maxsize - 1 then do
      let r ← getLineTurn (Tcp.readchar signed (b :: input)).1 buffer i
      if r.2.2 then return (r.1, r.2.1, input) else getLineLoop signed maxsize input r.1 r.2.1
    else return (buffer, i, b :: input)

/-- `getLine`; the `memset` writes the first `maxsize` bytes. -/
def getLine (signed : Bool) (maxsize : ℕ) (input buffer : List Byte) : Except Fault LineRead :=
  if buffer.length < maxsize then .error .index
  else do
    let r ← getLineLoop signed maxsize input (List.replicate maxsize 0 ++ buffer.drop maxsize) 0
    return ⟨(r.2.1 - 1).toInt, r.1, r.2.2⟩

def splitHeader (rBuffer : List Byte) : Except Fault (List Byte × List Byte × List Byte) :=
  match strchr rBuffer 58 with
  | none => .error .null
  | some dppos => do
    let rBuffer ← store rBuffer dppos 0
    let c ← load rBuffer (dppos + 1)
    let dppos := if c = 32 then dppos + 1 else dppos
    let dppos := dppos + 1
    return (cstr rBuffer, cstr (rBuffer.drop dppos), rBuffer)

theorem getLineTurn_eq (bufchar : ℤ) {buffer : List Byte} {i : BitVec 32}
    (h : i.toNat < buffer.length) :
    getLineTurn bufchar buffer i = .ok (HTTPClient.getLineTurn bufchar buffer i) := by
  have hset : ∀ c, i.toNat < (buffer.set i.toNat c).length := by
    intro c
    rwa [List.length_set]
  simp only [getLineTurn, HTTPClient.getLineTurn, store, if_pos h, if_pos (hset _), bind,
    Except.bind, pure, Except.pure]
  split_ifs <;> rfl

theorem length_getLineTurn (bufchar : ℤ) (buffer : List Byte) (i : BitVec 32) :
    (HTTPClient.getLineTurn bufchar buffer i).1.length = buffer.length := by
  rw [HTTPClient.getLineTurn]
  split_ifs <;> simp

theorem getLineLoop_eq {maxsize : ℕ} (input : List Byte) {buffer : List Byte} (i : BitVec 32)
    (h : maxsize - 1 ≤ buffer.length) :
    getLineLoop signed maxsize input buffer i =
      .ok (HTTPClient.getLineLoop signed maxsize input buffer i) := by
  induction input generalizing buffer i with
  | nil =>
    rw [getLineLoop, HTTPClient.getLineLoop]
    by_cases hi : i.toNat < maxsize - 1
    · rw [if_pos hi, if_pos hi, getLineTurn_eq _ (by omega)]
      rfl
    · rw [if_neg hi, if_neg hi]
      rfl
  | cons b input ih =>
    rw [getLineLoop, HTTPClient.getLineLoop]
    by_cases hi : i.toNat < maxsize - 1
    · rw [if_pos hi, if_pos hi, getLineTurn_eq _ (by omega)]
      dsimp only [bind, Except.bind]
      split_ifs
      · rfl
      · exact ih _ (by rwa [length_getLineTurn])
    · rw [if_neg hi, if_neg hi]
      rfl

theorem getLine_eq (maxsize : ℕ) (input buffer : List Byte) :
    getLine signed maxsize input buffer =
      if buffer.length < maxsize then .error .index
      else .ok (HTTPClient.getLine signed maxsize input buffer) := by
  have hlen : maxsize ≤ (List.replicate maxsize 0 ++ buffer.drop maxsize).length := by
    rw [List.length_append, List.length_replicate]
    exact Nat.le_add_right _ _
  rw [getLine, getLineLoop_eq _ _ ((Nat.sub_le maxsize 1).trans hlen)]
  rfl

/-- The header loop. -/
def readHeaders (signed : Bool) (input rBuffer : List Byte) (headers : Params) :
    Except Fault (Params × List Byte) :=
  match _hr : getLine signed 300 input rBuffer with
  | .error f => .error f
  | .ok r =>
    if _h : 0 < r.ret ∧ cstr r.buffer ≠ [] then
      match splitHeader r.buffer with
      | .error f => .error f
      | .ok (name, value, rBuffer) =>
        let headers := headers.insert name value
        if cstr rBuffer ≠ [] then readHeaders signed r.input rBuffer headers
        else .ok (headers, r.input)
    else .ok (headers, r.input)
termination_by input.length
decreasing_by
  rw [getLine_eq] at _hr
  split_ifs at _hr
  cases _hr
  exact length_getLine _h.1

def readHead (signed : Bool) (input : List Byte) : Except Fault HeadRead := do
  let rBuffer := List.replicate (300 + 1) 0
  let r ← getLine signed 300 input rBuffer
  if r.buffer.take 7 = str "HTTP/1." then
    let responseCode := getResponseCode r.buffer
    let (headers, input) ← readHeaders signed r.input r.buffer ∅
    return ⟨.HTTP_OK, responseCode, headers, input⟩
  else return ⟨.HTTP_MALFORMED_REPLY, 0, ∅, r.input⟩

end Checked

/-! ### The lines the header loop reads -/

theorem length_cutLine_rest_le (signed : Bool) (room : ℕ) (input : List Byte) :
    (cutLine signed room input).2.length ≤ input.length := by
  fun_induction cutLine signed room input with
  | case1 => exact le_rfl
  | case2 => exact le_rfl
  | case3 _ _ ih => exact ih.trans (Nat.le_succ _)
  | case4 => exact Nat.le_succ _
  | case5 _ _ _ _ _ _ ih => exact ih.trans (Nat.le_succ _)

/-- A line that is not empty takes something from the stream. -/
theorem length_cutLine_rest_lt {room : ℕ} {input : List Byte}
    (h : (cutLine signed room input).1 ≠ []) :
    (cutLine signed room input).2.length < input.length := by
  fun_induction cutLine signed room input with
  | case1 => exact absurd rfl h
  | case2 => exact absurd rfl h
  | case3 _ _ ih => exact (ih h).trans (Nat.lt_succ_self _)
  | case4 => exact Nat.lt_succ_self _
  | case5 => exact Nat.lt_succ_of_le (length_cutLine_rest_le _ _ _)

/-- The header lines as C strings, up to the first without a name: it is empty, begins with the `:`,
or has none. -/
def headerLines (signed : Bool) (input : List Byte) : List (List Byte) :=
  let r := cutLine signed 299 input
  let s := cstr r.1
  if _h : 58 ∈ s ∧ s.head? ≠ some 58 then s :: headerLines signed r.2 else [s]
termination_by input.length
decreasing_by
  refine length_cutLine_rest_lt fun hnil => ?_
  exact absurd _h.1 (by simp only [s, r, hnil]; exact List.not_mem_nil)

theorem length_headerLines_le (signed : Bool) (input : List Byte) :
    (headerLines signed input).length ≤ input.length + 1 := by
  fun_induction headerLines signed input with
  | case1 input r s h ih =>
    have hlt : r.2.length < input.length := by
      refine length_cutLine_rest_lt fun hnil => ?_
      exact absurd h.1 (by simp only [s, r, hnil]; exact List.not_mem_nil)
    rw [List.length_cons]
    omega
  | case2 => exact Nat.le_add_left _ _

/-! ### What a line is in the buffer -/

theorem length_line_le (signed : Bool) (input : List Byte) :
    (cutLine signed 299 input).1.length ≤ 299 := length_cutLine_le _ _ _

theorem getLine_eq (input buffer : List Byte) :
    getLine signed 300 input buffer =
      let r := cutLine signed 299 input
      ⟨(min r.1.length 298 : ℕ), r.1 ++ (List.replicate (300 - r.1.length) 0 ++ buffer.drop 300),
        r.2⟩ :=
  getLine_cut input buffer (by omega) (by omega)

theorem length_getLine_buffer {input buffer : List Byte} (h : 300 ≤ buffer.length) :
    (getLine signed 300 input buffer).buffer.length = buffer.length := by
  have hline := length_line_le signed input
  rw [getLine_eq]
  simp only [List.length_append, List.length_replicate, List.length_drop]
  omega

theorem cstr_getLine (input buffer : List Byte) :
    cstr (getLine signed 300 input buffer).buffer = cstr (cutLine signed 299 input).1 := by
  have hline := length_line_le signed input
  obtain ⟨k, hk⟩ := Nat.exists_eq_succ_of_ne_zero
    (show 300 - (cutLine signed 299 input).1.length ≠ 0 by omega)
  rw [getLine_eq]
  dsimp only
  rw [hk]
  exact cstr_append _ _

theorem length_cstr_getLine_le (input buffer : List Byte) :
    (cstr (getLine signed 300 input buffer).buffer).length ≤ 299 := by
  rw [cstr_getLine]
  exact (List.takeWhile_prefix _).length_le.trans (length_line_le signed input)

/-- The test on what `getLine` returns adds nothing to that on the string. -/
theorem getLine_ret_pos {input buffer : List Byte}
    (h : cstr (getLine signed 300 input buffer).buffer ≠ []) :
    0 < (getLine signed 300 input buffer).ret := by
  rw [cstr_getLine] at h
  rw [getLine_eq]
  have hpos : 0 < (cutLine signed 299 input).1.length := by
    refine List.length_pos_of_ne_nil fun hnil => h ?_
    rw [hnil]
    rfl
  exact Int.natCast_pos.2 (lt_min hpos (by omega))

theorem splitHeader_eq_none_iff {rBuffer : List Byte} :
    splitHeader rBuffer = none ↔ 58 ∉ cstr rBuffer := by
  rw [splitHeader, Option.map_eq_none_iff, strchr, List.idxOf?_eq_none_iff]

theorem length_splitHeader {rBuffer rBuffer' name value : List Byte}
    (h : splitHeader rBuffer = some (name, value, rBuffer')) :
    rBuffer'.length = rBuffer.length := by
  rw [splitHeader, Option.map_eq_some_iff] at h
  obtain ⟨dppos, -, hsplit⟩ := h
  cases hsplit
  exact List.length_set

/-- What is left in the buffer is a string unless the line begins with the `:`. -/
theorem cstr_splitHeader {rBuffer rBuffer' name value : List Byte}
    (h : splitHeader rBuffer = some (name, value, rBuffer')) :
    cstr rBuffer' ≠ [] ↔ (cstr rBuffer).head? ≠ some 58 := by
  rw [splitHeader, Option.map_eq_some_iff] at h
  obtain ⟨dppos, hdppos, hsplit⟩ := h
  cases hsplit
  cases rBuffer with
  | nil => cases hdppos
  | cons b rBuffer =>
    obtain ⟨hlt, hcolon, hfirst⟩ := List.idxOf?_eq_some_iff.1 hdppos
    have hb : b ≠ 0 := by
      rintro rfl
      exact Nat.not_lt_zero _ hlt
    simp only [cstr_cons hb] at hlt hcolon hfirst ⊢
    cases dppos with
    | zero =>
      have hhead : b = 58 := hcolon
      rw [hhead]
      exact iff_of_false (not_not.2 rfl) (not_not.2 rfl)
    | succ dppos =>
      have hhead : b ≠ 58 := hfirst 0 (Nat.succ_pos _)
      rw [List.set_cons_succ, cstr_cons hb]
      exact iff_of_true (List.cons_ne_nil _ _) fun h => hhead (Option.some.inj h)

/-! ### The faults -/

namespace Checked

theorem splitHeader_eq {rBuffer : List Byte} (h : (cstr rBuffer).length < rBuffer.length) :
    splitHeader rBuffer = (HTTPClient.splitHeader rBuffer).elim (.error .null) .ok := by
  rw [splitHeader, HTTPClient.splitHeader]
  cases hdppos : strchr rBuffer 58 with
  | none => rfl
  | some dppos =>
    have hlt : dppos < (cstr rBuffer).length := (List.idxOf?_eq_some_iff.1 hdppos).1
    dsimp only
    rw [store, if_pos (hlt.trans h)]
    dsimp only [bind, Except.bind]
    rw [load, if_pos (by rw [List.length_set]; omega)]
    rfl

/-- One turn of the header loop, with no index out of bounds. -/
theorem readHeaders_turn (input : List Byte) {rBuffer : List Byte} (headers : Params)
    (h : rBuffer.length = 301) :
    readHeaders signed input rBuffer headers =
      let r := HTTPClient.getLine signed 300 input rBuffer
      if 0 < r.ret ∧ cstr r.buffer ≠ [] then
        match HTTPClient.splitHeader r.buffer with
        | none => .error .null
        | some (name, value, rBuffer) =>
          if cstr rBuffer ≠ [] then
            readHeaders signed r.input rBuffer (headers.insert name value)
          else .ok (headers.insert name value, r.input)
      else .ok (headers, r.input) := by
  have hline : getLine signed 300 input rBuffer =
      .ok (HTTPClient.getLine signed 300 input rBuffer) := by
    rw [getLine_eq, if_neg (by omega)]
  have hcstr : (cstr (HTTPClient.getLine signed 300 input rBuffer).buffer).length <
      (HTTPClient.getLine signed 300 input rBuffer).buffer.length := by
    have hle := @length_cstr_getLine_le signed input rBuffer
    rw [length_getLine_buffer (by omega)]
    omega
  rw [readHeaders]
  split
  · next f hr => cases hline.symm.trans hr
  · next r hr =>
    obtain rfl := Except.ok.inj (hline.symm.trans hr)
    rw [splitHeader_eq hcstr]
    dsimp only
    cases HTTPClient.splitHeader (HTTPClient.getLine signed 300 input rBuffer).buffer <;> rfl

/-- The checked header loop: the same, and the only fault is the null pointer. -/
theorem readHeaders_eq (signed : Bool) (input : List Byte) {rBuffer : List Byte} (headers : Params)
    (h : rBuffer.length = 301) :
    readHeaders signed input rBuffer headers =
      (HTTPClient.readHeaders signed input rBuffer headers).elim (.error .null) .ok := by
  fun_induction HTTPClient.readHeaders signed input rBuffer headers with
  | case1 input rBuffer headers r hs hsplit =>
    rw [readHeaders_turn input headers h]
    dsimp only
    rw [if_pos hs, hsplit]
    rfl
  | case2 input rBuffer headers r hs name value rBuffer' hsplit headers' hne ih =>
    have hlen : rBuffer'.length = 301 := by
      rw [length_splitHeader hsplit, length_getLine_buffer (by omega), h]
    rw [← ih hlen, readHeaders_turn input headers h]
    dsimp only
    rw [if_pos hs, hsplit]
    exact if_pos hne
  | case3 input rBuffer headers r hs name value rBuffer' hsplit headers' hne =>
    rw [readHeaders_turn input headers h]
    dsimp only
    rw [if_pos hs, hsplit]
    exact if_neg hne
  | case4 input rBuffer headers r hs =>
    rw [readHeaders_turn input headers h]
    exact if_neg hs

/-- No index is out of bounds: the checked parser does what the parser does. -/
theorem readHead_eq (signed : Bool) (input : List Byte) :
    readHead signed input = (HTTPClient.readHead signed input).elim (.error .null) .ok := by
  have hlen : (List.replicate (300 + 1) (0 : Byte)).length = 301 := List.length_replicate
  rw [readHead, HTTPClient.readHead]
  dsimp only
  rw [getLine_eq, if_neg (by omega)]
  dsimp only [bind, Except.bind]
  split_ifs
  · rw [readHeaders_eq _ _ _ (by rw [length_getLine_buffer (by omega), hlen])]
    cases HTTPClient.readHeaders signed
      (HTTPClient.getLine signed 300 input (List.replicate (300 + 1) 0)).input
      (HTTPClient.getLine signed 300 input (List.replicate (300 + 1) 0)).buffer ∅ <;> rfl
  · rfl

end Checked

/-! ### When there is no fault -/

/-- The lines that are not empty have a `:`. -/
def Separated (lines : List (List Byte)) : Prop := ∀ s ∈ lines, s ≠ [] → 58 ∈ s

theorem separated_singleton {s : List Byte} : Separated [s] ↔ (s ≠ [] → 58 ∈ s) :=
  List.forall_mem_singleton

theorem separated_cons {s : List Byte} {lines : List (List Byte)} (h : 58 ∈ s) :
    Separated (s :: lines) ↔ Separated lines := by
  rw [Separated, List.forall_mem_cons, and_iff_right fun _ => h]
  rfl

theorem headerLines_named {input : List Byte} {s : List Byte}
    (hs : cstr (cutLine signed 299 input).1 = s) (hcolon : 58 ∈ s) (hname : s.head? ≠ some 58) :
    headerLines signed input = s :: headerLines signed (cutLine signed 299 input).2 := by
  subst hs
  rw [headerLines]
  exact dif_pos ⟨hcolon, hname⟩

theorem headerLines_last {input : List Byte} {s : List Byte}
    (hs : cstr (cutLine signed 299 input).1 = s) (h : ¬ (58 ∈ s ∧ s.head? ≠ some 58)) :
    headerLines signed input = [s] := by
  subst hs
  rw [headerLines]
  exact dif_neg h

theorem readHeaders_isSome_iff (signed : Bool) (input rBuffer : List Byte) (headers : Params) :
    (readHeaders signed input rBuffer headers).isSome ↔ Separated (headerLines signed input) := by
  fun_induction readHeaders signed input rBuffer headers with
  | case1 input rBuffer headers r hs hsplit =>
    have hcolon : 58 ∉ cstr r.buffer := splitHeader_eq_none_iff.1 hsplit
    rw [headerLines_last (cstr_getLine input rBuffer).symm fun h => hcolon h.1, separated_singleton]
    exact iff_of_false Bool.false_ne_true fun h => hcolon (h hs.2)
  | case2 input rBuffer headers r hs name value rBuffer' hsplit headers' hne ih =>
    have hcolon : 58 ∈ cstr r.buffer := by
      by_contra hcolon
      cases hsplit.symm.trans (splitHeader_eq_none_iff.2 hcolon)
    rw [headerLines_named (cstr_getLine input rBuffer).symm hcolon ((cstr_splitHeader hsplit).1 hne),
      separated_cons hcolon, ih]
    simp only [r, getLine_eq]
  | case3 input rBuffer headers r hs name value rBuffer' hsplit headers' hne =>
    have hcolon : 58 ∈ cstr r.buffer := by
      by_contra hcolon
      cases hsplit.symm.trans (splitHeader_eq_none_iff.2 hcolon)
    have hname : ¬ (cstr r.buffer).head? ≠ some 58 := fun h => hne ((cstr_splitHeader hsplit).2 h)
    rw [headerLines_last (cstr_getLine input rBuffer).symm fun h => hname h.2, separated_singleton]
    exact iff_of_true rfl fun _ => hcolon
  | case4 input rBuffer headers r hs =>
    have hempty : cstr r.buffer = [] := by
      by_contra hne
      exact hs ⟨getLine_ret_pos hne, hne⟩
    rw [headerLines_last (cstr_getLine input rBuffer).symm fun h => ?_, separated_singleton]
    · exact iff_of_true rfl fun h => absurd hempty h
    · have hmem : 58 ∈ cstr r.buffer := h.1
      rw [hempty] at hmem
      cases hmem

/-- The status line is the parser's if it begins the buffer so. -/
theorem take_getLine_iff (input buffer : List Byte) :
    (getLine signed 300 input buffer).buffer.take 7 = str "HTTP/1." ↔
      str "HTTP/1." <+: (cutLine signed 299 input).1 := by
  have hline := length_line_le signed input
  have hlen : (str "HTTP/1.").length = 7 := rfl
  rw [getLine_eq]
  dsimp only
  constructor
  · intro h
    have hnul : (0 : Byte) ∉ str "HTTP/1." := by decide
    have hpre : str "HTTP/1." <+: (cutLine signed 299 input).1 ++
        (List.replicate (300 - (cutLine signed 299 input).1.length) 0 ++ buffer.drop 300) :=
      h ▸ List.take_prefix _ _
    refine List.prefix_of_prefix_length_le hpre (List.prefix_append _ _) ?_
    -- a shorter line leaves a NUL among the first seven bytes
    by_contra hlt
    obtain ⟨k, hk⟩ := Nat.exists_eq_succ_of_ne_zero
      (show 300 - (cutLine signed 299 input).1.length ≠ 0 by omega)
    obtain ⟨m, hm⟩ := Nat.exists_eq_succ_of_ne_zero
      (show 7 - (cutLine signed 299 input).1.length ≠ 0 by omega)
    rw [← h, List.take_append, List.mem_append, not_or, hk, hm] at hnul
    exact hnul.2 List.mem_cons_self
  · rintro ⟨t, ht⟩
    rw [← ht, List.append_assoc, ← hlen]
    exact List.take_left

theorem readHead_isSome_iff (signed : Bool) (input : List Byte) :
    (readHead signed input).isSome ↔
      (str "HTTP/1." <+: (cutLine signed 299 input).1 →
        Separated (headerLines signed (cutLine signed 299 input).2)) := by
  have hinput : (getLine signed 300 input (List.replicate (300 + 1) 0)).input =
      (cutLine signed 299 input).2 := by
    rw [getLine_eq]
  rw [readHead]
  dsimp only
  rw [← take_getLine_iff input (List.replicate (300 + 1) 0)]
  split_ifs with hhttp
  · rw [Option.isSome_map, readHeaders_isSome_iff, hinput]
    exact (imp_iff_right hhttp).symm
  · exact iff_of_true rfl fun h => absurd h hhttp

namespace Checked

/-- The parser comes to its end, and with no fault exactly when the lines that it takes for headers
and that are not empty have a `:`. -/
theorem readHead_ok_iff (signed : Bool) (input : List Byte) :
    readHead signed input ≠ .error .index ∧
      (headerLines signed (cutLine signed 299 input).2).length ≤ input.length + 1 ∧
      ((∃ r, readHead signed input = .ok r) ↔
        (str "HTTP/1." <+: (cutLine signed 299 input).1 →
          Separated (headerLines signed (cutLine signed 299 input).2))) := by
  rw [readHead_eq, ← readHead_isSome_iff]
  refine ⟨?_, ?_, ?_⟩
  · cases HTTPClient.readHead signed input <;> simp
  · exact (length_headerLines_le _ _).trans (Nat.succ_le_succ (length_cutLine_rest_le _ _ _))
  · cases HTTPClient.readHead signed input <;> simp

/-- `X` and nothing else as a header. -/
theorem readHead_no_colon :
    readHead true (str "HTTP/1.1 200 OK\nX\n\n") = .error .null := by
  have hcut : cutLine true 299 (str "HTTP/1.1 200 OK\nX\n\n") =
      (str "HTTP/1.1 200 OK", str "X\n\n") := by decide
  have hlines : headerLines true (str "X\n\n") = [str "X"] :=
    headerLines_last (by decide) (by decide)
  have hnone : ¬ (HTTPClient.readHead true (str "HTTP/1.1 200 OK\nX\n\n")).isSome := by
    rw [readHead_isSome_iff, hcut, hlines, separated_singleton]
    exact fun h => absurd (h (by decide) (by decide)) (by decide)
  rw [readHead_eq, Option.not_isSome_iff_eq_none.1 hnone]
  rfl

end Checked

end HTTPClient
end Terremoti
