import Terremoti.HttpLine
import Terremoti.Lib.Bindings

/-!
# The head of a reply

A `Head` is what a server sends before the body: a status line, header lines, an empty line. Each
fits the buffer of `getLine` and is read as its text. A header line is cut at its `:` by a NUL in the
buffer, and the loop goes on only while the buffer holds a string: it ends behind a line with no name
before the `:`, so that a head is read as it was sent exactly when every header has a name
(`readHead_iff`).
-/

namespace Terremoti

/-- A line of a head, without the line feed. -/
structure Line where
  raw : List Byte
  lf : 10 ∉ raw
  nul : 0 ∉ raw
  end_ : 255 ∉ raw
  fits : (lineText raw).length ≤ 298

namespace Line

def bytes (l : Line) : List Byte := l.raw ++ [10]

def text (l : Line) : List Byte := lineText l.raw

/-- The text before the first `:`. -/
def name (l : Line) : List Byte := l.text.takeWhile (· != 58)

def skipSpace : List Byte → List Byte
  | [] => []
  | c :: s => if c = 32 then s else c :: s

/-- The text behind the first `:`, without one leading space. -/
def value (l : Line) : List Byte := skipSpace (l.text.dropWhile (· != 58)).tail

theorem split {l : Line} (h : 58 ∈ l.text) :
    ∃ v, l.text = l.name ++ 58 :: v ∧ 58 ∉ l.name ∧ l.value = skipSpace v := by
  obtain ⟨name, v, htext, hname⟩ := List.eq_append_cons_of_mem h
  have hpos : ∀ c ∈ name, (c != 58) = true := fun c hc => by
    simpa using ne_of_mem_of_not_mem hc hname
  have htake : l.name = name := by
    rw [Line.name, htext, List.takeWhile_append_of_pos hpos]
    exact List.append_nil _
  refine ⟨v, by rw [htake, htext], by rw [htake]; exact hname, ?_⟩
  rw [value, htext, List.dropWhile_append_of_pos hpos]
  rfl

end Line

structure Head where
  status : Line
  headers : List Line
  blank : Line
  http : str "HTTP/1." <+: status.text
  colon : ∀ l ∈ headers, 58 ∈ l.text
  empty : blank.text = []

namespace Head

def bytes (h : Head) : List Byte :=
  h.status.bytes ++ (h.headers.flatMap Line.bytes ++ h.blank.bytes)

def bindings (h : Head) : List (List Byte × List Byte) := h.headers.map fun l => (l.name, l.value)

/-- The digits of the status line's code. -/
def code (h : Head) : List Byte := (h.status.text.drop 9).take 3

/-- `r` is what the head says, and `rest` is what is left of the stream. -/
structure Reads (h : Head) (rest : List Byte) (r : HTTPClient.HeadRead) : Prop where
  error : r.error = .HTTP_OK
  responseCode : r.responseCode = BitVec.ofInt 16 (strtol10 h.code)
  digits : ∀ ds : List ℕ, (∀ d ∈ ds, d < 10) → ds ≠ [] → h.code = ds.map ascii →
    r.responseCode.toNat = Digits.value 10 ds
  headers : ∀ name : List Byte, r.headers[name]? = Bindings.last h.bindings name
  input : r.input = rest

end Head

/-! ### The lines of a head -/

namespace HTTPClient

variable {signed : Bool}

theorem getLine_of_line (l : Line) (rest buffer : List Byte) :
    getLine signed 300 (l.bytes ++ rest) buffer =
      ⟨l.text.length,
        l.text ++ (List.replicate (300 - l.text.length) 0 ++ buffer.drop 300), rest⟩ := by
  have hfits := l.fits
  rw [Line.bytes, List.append_assoc, List.singleton_append,
    getLine_line l.raw rest buffer (by omega) l.lf l.end_ (by omega)]
  rfl

theorem nul_notMem_text (l : Line) : (0 : Byte) ∉ l.text :=
  fun h => l.nul (List.mem_of_mem_filter h)

theorem cstr_line (l : Line) (tail : List Byte) :
    cstr (l.text ++ (List.replicate (300 - l.text.length) 0 ++ tail)) = l.text := by
  have hfits : l.text.length ≤ 298 := l.fits
  obtain ⟨k, hk⟩ := Nat.exists_eq_succ_of_ne_zero (show 300 - l.text.length ≠ 0 by omega)
  rw [hk]
  exact cstr_append_nul (nul_notMem_text l) _

/-- The `:` becomes a NUL, and one space behind it is left out. -/
theorem splitHeader_line {l : Line} (hcolon : 58 ∈ l.text) (tail : List Byte) :
    ∃ rBuffer, splitHeader (l.text ++ (List.replicate (300 - l.text.length) 0 ++ tail)) =
      some (l.name, l.value, rBuffer) ∧ cstr rBuffer = l.name := by
  have hfits : l.text.length ≤ 298 := l.fits
  obtain ⟨k, hk⟩ := Nat.exists_eq_succ_of_ne_zero (show 300 - l.text.length ≠ 0 by omega)
  obtain ⟨v, htext, hname, hvalue⟩ := Line.split hcolon
  have hnul : (0 : Byte) ∉ l.name ++ 58 :: v := htext ▸ nul_notMem_text l
  have hbuf : l.text ++ (List.replicate (300 - l.text.length) 0 ++ tail) =
      l.name ++ 58 :: (v ++ 0 :: (List.replicate k 0 ++ tail)) := by
    rw [hk, htext, List.append_assoc]
    rfl
  rw [hbuf, splitHeader, strchr_append_nul hname _ hnul]
  rw [List.mem_append, List.mem_cons, not_or, not_or] at hnul
  refine ⟨l.name ++ 0 :: (v ++ 0 :: (List.replicate k 0 ++ tail)), ?_, cstr_append_nul hnul.1 _⟩
  have hset : (l.name ++ 58 :: (v ++ 0 :: (List.replicate k 0 ++ tail))).set l.name.length 0 =
      l.name ++ 0 :: (v ++ 0 :: (List.replicate k 0 ++ tail)) := by
    rw [List.set_append_right _ _ le_rfl, Nat.sub_self]
    rfl
  have hdrop : ∀ (s : List Byte) (n : ℕ),
      (l.name ++ 0 :: s).drop (l.name.length + n) = (0 :: s).drop n :=
    fun s n => List.drop_length_add_append n
  rw [Option.map_some, hset, hvalue]
  dsimp only
  rw [cstr_append_nul hnul.1, List.getD_append_right _ _ _ _ (Nat.le_add_right _ _),
    Nat.add_sub_cancel_left, List.getD_cons_succ]
  cases v with
  | nil =>
    rw [List.nil_append, List.getD_cons_zero, if_neg (by decide), hdrop]
    rfl
  | cons c v =>
    rw [List.mem_cons, not_or] at hnul
    rw [List.cons_append, List.getD_cons_zero]
    by_cases hc : c = 32
    · rw [if_pos hc, Line.skipSpace, if_pos hc, Nat.add_assoc, hdrop]
      exact congrArg (fun s => some (l.name, s, _)) (cstr_append_nul hnul.2.2.2 _)
    · rw [if_neg hc, Line.skipSpace, if_neg hc, hdrop]
      refine congrArg (fun s => some (l.name, s, _)) (cstr_append_nul (s := c :: v) ?_ _)
      exact List.not_mem_cons_of_ne_of_not_mem hnul.2.2.1 hnul.2.2.2

/-! ### The header loop -/

theorem readHeaders_blank {l : Line} (h : l.text = []) (rest rBuffer : List Byte) (headers : Params) :
    readHeaders signed (l.bytes ++ rest) rBuffer headers = some (headers, rest) := by
  rw [readHeaders, getLine_of_line, dif_neg]
  rintro ⟨-, hne⟩
  exact hne (by rw [cstr_line, h])

/-- A header line: the loop goes on if there is a name. -/
theorem readHeaders_line (signed : Bool) {l : Line} (hcolon : 58 ∈ l.text)
    (rest rBuffer : List Byte) (headers : Params) :
    ∃ rBuffer', readHeaders signed (l.bytes ++ rest) rBuffer headers =
      if l.name ≠ [] then readHeaders signed rest rBuffer' (headers.insert l.name l.value)
      else some (headers.insert l.name l.value, rest) := by
  have hne : l.text ≠ [] := List.ne_nil_of_mem hcolon
  obtain ⟨rBuffer', hsplit, hname⟩ := splitHeader_line hcolon (rBuffer.drop 300)
  refine ⟨rBuffer', ?_⟩
  rw [readHeaders, getLine_of_line, dif_pos]
  · dsimp only
    rw [hsplit]
    dsimp only
    rw [hname]
  · refine ⟨?_, by rw [cstr_line]; exact hne⟩
    exact Int.natCast_pos.2 (List.length_pos_of_ne_nil hne)

/-- Headers with names are all inserted, up to the empty line. -/
theorem readHeaders_lines {lines : List Line} {blank : Line} (hcolon : ∀ l ∈ lines, 58 ∈ l.text)
    (hnames : ∀ l ∈ lines, l.name ≠ []) (hblank : blank.text = []) (rest rBuffer : List Byte)
    (headers : Params) :
    readHeaders signed (lines.flatMap Line.bytes ++ blank.bytes ++ rest) rBuffer headers =
      some (Bindings.insertAll headers (lines.map fun l => (l.name, l.value)), rest) := by
  induction lines generalizing rBuffer headers with
  | nil => exact readHeaders_blank hblank rest rBuffer headers
  | cons l lines ih =>
    rw [List.forall_mem_cons] at hcolon hnames
    rw [List.flatMap_cons, List.append_assoc, List.append_assoc]
    obtain ⟨rBuffer', hline⟩ := readHeaders_line signed hcolon.1
      (lines.flatMap Line.bytes ++ (blank.bytes ++ rest)) rBuffer headers
    rw [hline, if_pos hnames.1, ← List.append_assoc, ih hcolon.2 hnames.2]
    rfl

/-- A header without a name ends the loop before the empty line. -/
theorem readHeaders_unnamed (signed : Bool) {lines : List Line} (blank : Line)
    (hcolon : ∀ l ∈ lines, 58 ∈ l.text) (hname : ∃ l ∈ lines, l.name = [])
    (rest rBuffer : List Byte) (headers : Params) :
    ∃ headers' input,
      readHeaders signed (lines.flatMap Line.bytes ++ blank.bytes ++ rest) rBuffer headers =
        some (headers', input) ∧ rest.length < input.length := by
  induction lines generalizing rBuffer headers with
  | nil => obtain ⟨l, hl, -⟩ := hname; cases hl
  | cons l lines ih =>
    rw [List.forall_mem_cons] at hcolon
    rw [List.flatMap_cons, List.append_assoc, List.append_assoc]
    obtain ⟨rBuffer', hline⟩ := readHeaders_line signed hcolon.1
      (lines.flatMap Line.bytes ++ (blank.bytes ++ rest)) rBuffer headers
    rw [hline]
    by_cases hl : l.name = []
    · rw [if_neg (not_not.2 hl)]
      refine ⟨_, _, rfl, ?_⟩
      have hblank : 0 < blank.bytes.length := by simp [Line.bytes]
      rw [List.length_append, List.length_append]
      omega
    · rw [if_pos hl, ← List.append_assoc]
      obtain ⟨l', hl', hname'⟩ := hname
      rcases List.mem_cons.1 hl' with rfl | hl'
      · exact absurd hname' hl
      · exact ih hcolon.2 ⟨l', hl', hname'⟩ _ _

/-! ### The head -/

theorem getResponseCode_line (l : Line) (tail : List Byte) :
    getResponseCode (l.text ++ (List.replicate (300 - l.text.length) 0 ++ tail)) =
      BitVec.ofInt 16 (strtol10 ((l.text.drop 9).take 3)) := by
  have hfits : l.text.length ≤ 298 := l.fits
  obtain ⟨k, hk⟩ := Nat.exists_eq_succ_of_ne_zero
    (show 300 - l.text.length - (9 - l.text.length) ≠ 0 by omega)
  have hnul : (0 : Byte) ∉ l.text.drop 9 := fun h => nul_notMem_text l (List.mem_of_mem_drop h)
  have hdrop : (l.text ++ (List.replicate (300 - l.text.length) 0 ++ tail)).drop 9 =
      l.text.drop 9 ++ 0 :: (List.replicate k 0 ++ tail) := by
    rw [List.drop_append, List.drop_append_of_le_length (by rw [List.length_replicate]; omega),
      List.drop_replicate, hk]
    rfl
  rw [getResponseCode, cstr_take, hdrop, cstr_append_nul hnul]

theorem readHead_bytes (signed : Bool) (h : Head) (rest : List Byte) :
    ∃ rBuffer, readHead signed (h.bytes ++ rest) =
      (readHeaders signed (h.headers.flatMap Line.bytes ++ h.blank.bytes ++ rest) rBuffer ∅).map
        fun (headers, input) => ⟨.HTTP_OK, BitVec.ofInt 16 (strtol10 h.code), headers, input⟩ := by
  refine ⟨h.status.text ++ (List.replicate (300 - h.status.text.length) 0 ++
    (List.replicate (300 + 1) 0).drop 300), ?_⟩
  have hhttp : (h.status.text ++ (List.replicate (300 - h.status.text.length) 0 ++
      (List.replicate (300 + 1) 0).drop 300)).take 7 = str "HTTP/1." := by
    obtain ⟨version, hversion⟩ := h.http
    rw [← hversion, List.append_assoc]
    exact List.take_left' rfl
  rw [readHead, Head.bytes, List.append_assoc, getLine_of_line]
  dsimp only
  rw [if_pos hhttp, getResponseCode_line]
  rfl

/-- The head is read as it was sent, and the body from the first byte behind it, exactly when every
header line has a name. -/
theorem readHead_iff (signed : Bool) (h : Head) (rest : List Byte) :
    (∃ r, readHead signed (h.bytes ++ rest) = some r ∧ h.Reads rest r ∧
      ∀ (w : ℕ) (seg : Segmentation), readReply w signed seg (h.bytes ++ rest) =
        some (⟨⟨.HTTP_OK, r.responseCode, (readBody w seg r.headers rest).1⟩, r.headers⟩,
          (readBody w seg r.headers rest).2)) ↔
      ∀ l ∈ h.headers, l.name ≠ [] := by
  obtain ⟨rBuffer, hread⟩ := readHead_bytes signed h rest
  constructor
  · rintro ⟨r, hr, hreads, -⟩
    by_contra! hname
    obtain ⟨headers, input, hloop, hlen⟩ :=
      readHeaders_unnamed signed h.blank h.colon hname rest rBuffer ∅
    rw [hread, hloop] at hr
    cases hr
    exact absurd (congrArg List.length hreads.input) hlen.ne'
  · intro hnames
    rw [readHeaders_lines h.colon hnames h.empty] at hread
    refine ⟨_, hread, ⟨rfl, rfl, ?_, ?_, rfl⟩, fun w seg => ?_⟩
    · intro ds hds hne hcode
      have hlen : ds.length ≤ 3 := by
        rw [← List.length_map (f := ascii), ← hcode]
        exact List.length_take_le _ _
      have hlt : Digits.value 10 ds < 10 ^ 3 :=
        (Digits.value_lt (by omega) hds).trans_le (Nat.pow_le_pow_right (by omega) hlen)
      dsimp only
      rw [hcode, strtol10_ascii hne hds, BitVec.ofInt_natCast, BitVec.toNat_ofNat,
        Nat.mod_eq_of_lt (by omega)]
    · intro name
      rw [Bindings.getElem?_insertAll, Std.TreeMap.getElem?_emptyc, Option.or_none]
      rfl
    · rw [readReply, hread]
      rfl

end HTTPClient

/-- A header line that begins with the `:`. -/
def Head.unnamed : Head where
  status := ⟨str "HTTP/1.1 200 OK", by decide, by decide, by decide, by decide⟩
  headers := [⟨str ":x", by decide, by decide, by decide, by decide⟩]
  blank := ⟨[], by decide, by decide, by decide, by decide⟩
  http := by decide
  colon := by decide
  empty := rfl

/-- The loop ends behind `:x`; the empty line is taken for the start of the body. -/
theorem Head.not_reads_unnamed :
    Head.unnamed.bytes = str "HTTP/1.1 200 OK\n:x\n\n" ∧
      ∃ r, HTTPClient.readHead true (Head.unnamed.bytes ++ str "B") = some r ∧
        r.input = str "\nB" ∧ ¬ Head.unnamed.Reads (str "B") r := by
  obtain ⟨rBuffer, hread⟩ := HTTPClient.readHead_bytes true Head.unnamed (str "B")
  obtain ⟨rBuffer', hline⟩ := HTTPClient.readHeaders_line true
    (l := ⟨str ":x", by decide, by decide, by decide, by decide⟩) (by decide) (str "\nB") rBuffer ∅
  rw [if_neg (by decide)] at hline
  refine ⟨by decide, _, hread.trans (congrArg _ hline), rfl, fun h => ?_⟩
  exact absurd h.input (by decide)

end Terremoti
