import Terremoti.HttpHead

/-!
# The body of a reply

The body is read by one `read` for all of it, and `read` returns what is there: the buffer keeps its
zeros for the bytes that come later. `httpRequest_body_iff` says for which replies and segmentations
the body is the content all the same, and which two segmentations give the same configuration.
-/

namespace Terremoti

/-- A head whose headers all have names and whose last `Content-Length` is the decimal number of
bytes of `content`. -/
structure Reply extends Head where
  named : ∀ l ∈ headers, l.name ≠ []
  digits : List ℕ
  digit : ∀ d ∈ digits, d < 10
  decimal : digits ≠ []
  length : Bindings.last toHead.bindings (str "Content-Length") = some (digits.map ascii)
  content : List Byte
  counts : content.length = Digits.value 10 digits

namespace Reply

/-- What comes over the connection; `more` follows the content. -/
def stream (r : Reply) (more : List Byte) : List Byte := r.toHead.bytes ++ (r.content ++ more)

/-- How many bytes the first `read` behind the head finds. -/
def ready (r : Reply) (more : List Byte) (seg : Segmentation) : ℕ :=
  seg.ready (r.content ++ more).length

/-- The length as `httpRequest` has it: no more than the largest `long`. -/
def bodySize (w : ℕ) (r : Reply) : ℕ := min r.content.length (2 ^ (w - 1) - 1)

end Reply

namespace HTTPClient

variable {w : ℕ} {signed : Bool}

theorem readBody_content (hw : 0 < w) (r : Reply) (more : List Byte) (seg : Segmentation)
    {headers : Params} (hlength : headers[str "Content-Length"]? = some (r.digits.map ascii)) :
    (readBody w seg headers (r.content ++ more)).1 =
      some (Buffer.write (List.replicate (r.bodySize w + 1) 0) 0
        (r.content.take (min (r.bodySize w) (r.ready more seg)))) := by
  have hpow : 2 ^ w = 2 * 2 ^ (w - 1) := by rw [← pow_succ', Nat.sub_add_cancel hw]
  have hpos : 0 < 2 ^ (w - 1) := Nat.two_pow_pos _
  have hsize : (atol w (cstr (r.digits.map ascii))).toNat = r.bodySize w := by
    rw [cstr_of_notMem (nul_notMem_ascii r.digit), atol_ascii hw r.decimal r.digit, ← r.counts]
    rfl
  have hle : r.bodySize w ≤ r.content.length := Nat.min_le_left _ _
  have hlong : r.bodySize w ≤ 2 ^ (w - 1) - 1 := Nat.min_le_right _ _
  have hone : (1 : BitVec w).toNat = 1 := by
    show (BitVec.ofNat w 1).toNat = 1
    rw [BitVec.toNat_ofNat, Nat.mod_eq_of_lt (Nat.one_lt_two_pow hw.ne')]
  have halloc : (atol w (cstr (r.digits.map ascii)) + 1).toNat = r.bodySize w + 1 := by
    rw [BitVec.toNat_add, hsize, hone, Nat.mod_eq_of_lt (by omega)]
  have hcontains : headers.contains (str "Content-Length") = true := by
    rw [Std.TreeMap.contains_eq_isSome_getElem?, hlength]
    rfl
  rw [readBody, if_pos hcontains, Std.TreeMap.getD_eq_getD_getElem?, hlength]
  dsimp only [Option.getD_some]
  rw [halloc, hsize, Tcp.readall, Tcp.read, List.splitAt_eq,
    List.take_append_of_le_length (by omega)]
  rfl

/-- The response to a well-formed reply. -/
theorem httpRequest_reply (hw : 0 < w) (signed : Bool) (r : Reply) (more : List Byte)
    (seg : Segmentation) :
    ∃ headers, httpRequest w signed (.replied seg (r.stream more)) =
      some ⟨⟨.HTTP_OK, BitVec.ofInt 16 (strtol10 r.code),
        some (Buffer.write (List.replicate (r.bodySize w + 1) 0) 0
          (r.content.take (min (r.bodySize w) (r.ready more seg))))⟩,
        headers⟩ := by
  obtain ⟨rBuffer, hread⟩ := readHead_bytes signed r.toHead (r.content ++ more)
  rw [readHeaders_lines r.colon r.named r.empty] at hread
  have hlength : (Bindings.insertAll (∅ : Params)
      (r.headers.map fun l => (l.name, l.value)))[str "Content-Length"]? =
        some (r.digits.map ascii) := by
    rw [Bindings.getElem?_insertAll, Std.TreeMap.getElem?_emptyc, Option.or_none]
    exact r.length
  refine ⟨Bindings.insertAll ∅ (r.headers.map fun l => (l.name, l.value)), ?_⟩
  rw [httpRequest, readReply, Reply.stream, hread]
  dsimp only [Option.map_some]
  rw [if_pos rfl, readBody_content hw r more seg hlength]

/-- `body` holds the content and a NUL. -/
theorem body_eq_iff (r : Reply) (ready : ℕ) :
    Buffer.write (List.replicate (r.bodySize w + 1) 0) 0
        (r.content.take (min (r.bodySize w) ready)) = r.content ++ [0] ↔
      r.content.length < 2 ^ (w - 1) ∧ ∀ c ∈ r.content.drop ready, c = 0 := by
  have hpos : 0 < 2 ^ (w - 1) := Nat.two_pow_pos _
  by_cases hfits : r.content.length < 2 ^ (w - 1)
  · have hsize : r.bodySize w = r.content.length := Nat.min_eq_left (by omega)
    rw [hsize, Nat.min_comm, ← List.take_eq_take_min, Buffer.write_take_eq_iff]
    exact (and_iff_right hfits).symm
  · -- the buffer is too short for the content
    refine iff_of_false (fun heq => ?_) fun h => hfits h.1
    have hsize : r.bodySize w = 2 ^ (w - 1) - 1 := Nat.min_eq_right (by omega)
    have hlen := congrArg List.length heq
    rw [Buffer.length_write (by rw [List.length_take, List.length_replicate]; omega),
      List.length_replicate, List.length_append, List.length_singleton, hsize] at hlen
    omega

/-- The text that `getConfig` finds in the body. -/
theorem cstr_body (r : Reply) (ready : ℕ) :
    cstr (Buffer.write (List.replicate (r.bodySize w + 1) 0) 0
      (r.content.take (min (r.bodySize w) ready))) =
        (cstr r.content).take (min (r.bodySize w) ready) := by
  have hle : r.bodySize w ≤ r.content.length := Nat.min_le_left _ _
  have hlen : (r.content.take (min (r.bodySize w) ready)).length = min (r.bodySize w) ready := by
    rw [List.length_take]; omega
  rw [Buffer.write, List.take_zero, List.nil_append, hlen, Nat.zero_add, List.drop_replicate,
    show r.bodySize w + 1 - min (r.bodySize w) ready =
      r.bodySize w - min (r.bodySize w) ready + 1 by omega, List.replicate_succ, cstr_append,
    cstr_take]

/-- The body of a well-formed reply is its content and a NUL exactly when the content is no longer
than the largest `long` and the bytes the first `read` behind the head does not return are NULs; two
segmentations give the same configuration exactly when the reply is not a `200`, or their first
reads return equally much of the content's text. -/
theorem httpRequest_body_iff (hw : 0 < w) (signed : Bool) (r : Reply) (more : List Byte) :
    (∀ seg : Segmentation,
      (∃ resp, httpRequest w signed (.replied seg (r.stream more)) = some resp ∧
        resp.body = some (r.content ++ [0])) ↔
        r.content.length < 2 ^ (w - 1) ∧ ∀ c ∈ r.content.drop (r.ready more seg), c = 0) ∧
    ∀ seg seg' : Segmentation,
      ((httpRequest w signed (.replied seg (r.stream more))).map
          (fun resp => getConfig resp.toHTTPResponse) =
        (httpRequest w signed (.replied seg' (r.stream more))).map
          fun resp => getConfig resp.toHTTPResponse) ↔
        BitVec.ofInt 16 (strtol10 r.code) ≠ 200 ∨
          let text := min (cstr r.content).length (2 ^ (w - 1) - 1)
          min (r.ready more seg) text = min (r.ready more seg') text := by
  constructor
  · intro seg
    obtain ⟨headers, hreply⟩ := httpRequest_reply hw signed r more seg
    rw [hreply, ← body_eq_iff]
    constructor
    · rintro ⟨resp, hresp, hbody⟩
      cases hresp
      exact Option.some.inj hbody
    · intro hbody
      exact ⟨_, rfl, congrArg some hbody⟩
  · intro seg seg'
    obtain ⟨headers, hreply⟩ := httpRequest_reply hw signed r more seg
    obtain ⟨headers', hreply'⟩ := httpRequest_reply hw signed r more seg'
    rw [hreply, hreply', Option.map_some, Option.map_some, Option.some_inj]
    by_cases hcode : BitVec.ofInt 16 (strtol10 r.code) = 200
    · have hle : (cstr r.content).length ≤ r.content.length := (List.takeWhile_sublist _).length_le
      have hmin : ∀ n, min (min (r.bodySize w) n) (cstr r.content).length =
          min n (min (cstr r.content).length (2 ^ (w - 1) - 1)) := by
        intro n
        rw [Reply.bodySize]
        omega
      rw [getConfig, getConfig]
      dsimp only
      rw [if_pos ⟨rfl, hcode⟩, if_pos ⟨rfl, hcode⟩, cstr_body, cstr_body, List.take_eq_take_iff, hmin,
        hmin, or_iff_right (not_not.2 hcode)]
    · refine iff_of_true ?_ (.inl hcode)
      rw [getConfig, getConfig]
      dsimp only
      rw [if_neg fun h => hcode h.2, if_neg fun h => hcode h.2]

end HTTPClient

/-- `HTTP/1.1 200 OK`, `Content-Length: 2` and `ab`. -/
def Reply.ab : Reply where
  status := Head.unnamed.status
  headers := [⟨str "Content-Length: 2", by decide, by decide, by decide, by decide⟩]
  blank := Head.unnamed.blank
  http := Head.unnamed.http
  colon := by decide
  empty := Head.unnamed.empty
  named := by decide
  digits := [2]
  digit := by decide
  decimal := by decide
  length := by decide
  content := str "ab"
  counts := by decide

/-- `n` bytes at a time. -/
def Segmentation.pieces (n : ℕ) (h : 0 < n) : Segmentation := ⟨fun _ => n, fun _ => h⟩

theorem HTTPClient.httpRequest_body_iff_whole :
    ∃ resp, httpRequest 64 true (.replied (.pieces 2 (by decide)) (Reply.ab.stream [])) = some resp ∧
      resp.body = some (str "ab" ++ [0]) :=
  ((httpRequest_body_iff (by decide) true Reply.ab []).1 _).2 ⟨by decide, by decide⟩

/-- Byte by byte, `b` is still to come when the body is read. -/
theorem HTTPClient.httpRequest_short_read :
    ∃ resp resp', httpRequest 64 true (.replied (.pieces 1 (by decide)) (Reply.ab.stream [])) =
        some resp ∧
      httpRequest 64 true (.replied (.pieces 2 (by decide)) (Reply.ab.stream [])) = some resp' ∧
      resp.body = some (str "a" ++ [0, 0]) ∧ getConfig resp.toHTTPResponse = str "a" ∧
      resp'.body = some (str "ab" ++ [0]) ∧ getConfig resp'.toHTTPResponse = str "ab" := by
  obtain ⟨headers, hreply⟩ := httpRequest_reply (w := 64) (by decide) true Reply.ab []
    (.pieces 1 (by decide))
  obtain ⟨headers', hreply'⟩ := httpRequest_reply (w := 64) (by decide) true Reply.ab []
    (.pieces 2 (by decide))
  exact ⟨_, _, hreply, hreply', rfl, rfl, rfl, rfl⟩

end Terremoti
