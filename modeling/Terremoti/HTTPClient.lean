import Terremoti.Lib.Buffer
import Terremoti.ServerConfig

/-!
# Reading a reply (`HTTPClient.cpp`, `Tcp.cpp`)

`httpRequest` from the point where the request is sent. A socket's stream is the bytes still to
come; a `read` on it returns at least one of them, as many as the `Segmentation` has ready, and
nothing at the end of the stream. The head is read byte by byte (`readchar`), so only the body sees
how the stream was cut. `signed` says whether `char` is: then `readchar` cannot tell a byte `0xFF`
from the end of the stream.
-/

namespace Terremoti

/-- How many bytes a `read` finds while `n` are still to come. -/
structure Segmentation where
  ready : ℕ → ℕ
  pos : ∀ n, 0 < ready n

namespace Tcp

/-- `read(fd, buf, len)`: the bytes it returns, and those still to come. -/
def read (seg : Segmentation) (len : ℕ) (input : List Byte) : List Byte × List Byte :=
  input.splitAt (min len (seg.ready input.length))

/-- `Tcp::readall` on a connected socket. -/
def readall (seg : Segmentation) (len : ℕ) (input : List Byte) : List Byte × List Byte :=
  read seg len input

/-- `Tcp::readchar` on a connected socket. -/
def readchar (signed : Bool) : List Byte → ℤ × List Byte
  | [] => (-1, [])
  | buf :: input => (if signed then buf.toInt else buf.toNat, input)

/-- A `read` of one byte does not depend on the segmentation. -/
theorem readchar_eq_read (signed : Bool) (seg : Segmentation) (input : List Byte) :
    readchar signed input =
      match read seg 1 input with
      | (buf :: _, rest) => (if signed then buf.toInt else buf.toNat, rest)
      | ([], rest) => (-1, rest) := by
  have hone : ∀ n, min 1 (seg.ready n) = 1 := fun n => Nat.min_eq_left (seg.pos n)
  cases input with
  | nil => simp [read, readchar]
  | cons b input =>
    rw [read, hone, List.splitAt_eq]
    rfl

end Tcp

/-- `HTTPResponse` with the headers. -/
structure Response extends HTTPResponse where
  headers : Params

namespace HTTPClient

/-- One turn of the loop of `getLine` at index `i`: the buffer, the next index, and whether the line
is done. A `CR` takes the index back, from `0` through the end of `unsigned int`. -/
def getLineTurn (bufchar : ℤ) (buffer : List Byte) (i : BitVec 32) : List Byte × BitVec 32 × Bool :=
  let c : Byte := BitVec.ofInt 8 bufchar
  let buffer := buffer.set i.toNat c
  if c = 13 then (buffer, i - 1 + 1, false)
  else if c = 10 ∨ bufchar = -1 then (buffer.set i.toNat 0, i + 1, true)
  else (buffer, i + 1, false)

theorem getLineTurn_eof (buffer : List Byte) (i : BitVec 32) :
    getLineTurn (-1) buffer i = ((buffer.set i.toNat 255).set i.toNat 0, i + 1, true) := by
  rw [getLineTurn, if_neg (by decide), if_pos (.inr rfl)]
  rfl

def getLineLoop (signed : Bool) (maxsize : ℕ) :
    List Byte → List Byte → BitVec 32 → List Byte × BitVec 32 × List Byte
  | [], buffer, i =>
    if i.toNat < maxsize - 1 then
      let r := getLineTurn (Tcp.readchar signed []).1 buffer i
      (r.1, r.2.1, [])
    else (buffer, i, [])
  | b :: input, buffer, i =>
    if i.toNat < maxsize - 1 then
      let r := getLineTurn (Tcp.readchar signed (b :: input)).1 buffer i
      if r.2.2 then (r.1, r.2.1, input) else getLineLoop signed maxsize input r.1 r.2.1
    else (buffer, i, b :: input)

structure LineRead where
  ret : ℤ
  buffer : List Byte
  input : List Byte

/-- `HTTPClient::getLine`, with `toRead` -1 as in every call. -/
def getLine (signed : Bool) (maxsize : ℕ) (input buffer : List Byte) : LineRead :=
  let r := getLineLoop signed maxsize input (List.replicate maxsize 0 ++ buffer.drop maxsize) 0
  ⟨(r.2.1 - 1).toInt, r.1, r.2.2⟩

def getResponseCode (line : List Byte) : BitVec 16 :=
  let buf := (line.drop 9).take 3
  BitVec.ofInt 16 (strtol10 (cstr buf))

/-- What the header loop does with a line: the name and the value, and the buffer, cut at the `:`.
`none` when there is no `:`; the code writes through a null pointer then. -/
def splitHeader (rBuffer : List Byte) : Option (List Byte × List Byte × List Byte) :=
  (strchr rBuffer 58).map fun dppos =>
    let rBuffer := rBuffer.set dppos 0
    let dppos := if rBuffer.getD (dppos + 1) 0 = 32 then dppos + 1 else dppos
    let dppos := dppos + 1
    (cstr rBuffer, cstr (rBuffer.drop dppos), rBuffer)

theorem length_getLineLoop (signed : Bool) (maxsize : ℕ) (input buffer : List Byte) (i : BitVec 32) :
    (getLineLoop signed maxsize input buffer i).2.2.length ≤ input.length := by
  induction input generalizing buffer i with
  | nil => rw [getLineLoop]; split <;> exact le_rfl
  | cons b input ih =>
    rw [getLineLoop]
    split
    · dsimp only
      split
      · exact Nat.le_succ _
      · exact (ih _ _).trans (Nat.le_succ _)
    · exact le_rfl

/-- A line that is not empty takes something from the stream. -/
theorem length_getLine {signed : Bool} {input buffer : List Byte}
    (h : 0 < (getLine signed 300 input buffer).ret) :
    (getLine signed 300 input buffer).input.length < input.length := by
  cases input with
  | nil =>
    have heof : (getLine signed 300 [] buffer).ret = 0 := by
      rw [getLine, getLineLoop, if_pos (by decide)]
      simp only [Tcp.readchar, getLineTurn_eof]
      decide
    rw [heof] at h
    exact absurd h (lt_irrefl 0)
  | cons b input =>
    rw [getLine, getLineLoop, if_pos (by decide)]
    dsimp only
    split
    · exact Nat.lt_succ_self _
    · exact Nat.lt_succ_of_le (length_getLineLoop _ _ _ _ _)

/-- The header loop of `httpRequest`: the headers and the rest of the stream. -/
def readHeaders (signed : Bool) (input rBuffer : List Byte) (headers : Params) :
    Option (Params × List Byte) :=
  let r := getLine signed 300 input rBuffer
  if _h : 0 < r.ret ∧ cstr r.buffer ≠ [] then
    match splitHeader r.buffer with
    | none => none
    | some (name, value, rBuffer) =>
      let headers := headers.insert name value
      if cstr rBuffer ≠ [] then readHeaders signed r.input rBuffer headers
      else some (headers, r.input)
  else some (headers, r.input)
termination_by input.length
decreasing_by exact length_getLine _h.1

/-- The body, if a length is given; the memory for it is there. -/
def readBody (w : ℕ) (seg : Segmentation) (headers : Params) (input : List Byte) :
    Option (List Byte) × List Byte :=
  if headers.contains (str "Content-Length") then
    let bodySize : BitVec w := atol w (cstr (headers.getD (str "Content-Length") []))
    let body := List.replicate (bodySize + 1).toNat 0
    let r := Tcp.readall seg bodySize.toNat input
    (some (Buffer.write body 0 r.1), r.2)
  else (none, input)

structure HeadRead where
  error : HTTPError
  responseCode : BitVec 16
  headers : Params
  input : List Byte

/-- `httpRequest` from the first byte of the reply to the end of the header loop; `none` if it
crashes. -/
def readHead (signed : Bool) (input : List Byte) : Option HeadRead :=
  let rBuffer := List.replicate (300 + 1) 0
  let r := getLine signed 300 input rBuffer
  if r.buffer.take 7 = str "HTTP/1." then
    let responseCode := getResponseCode r.buffer
    (readHeaders signed r.input r.buffer ∅).map fun (headers, input) =>
      ⟨.HTTP_OK, responseCode, headers, input⟩
  else some ⟨.HTTP_MALFORMED_REPLY, 0, ∅, r.input⟩

/-- The response, and what is left of the stream. -/
def readReply (w : ℕ) (signed : Bool) (seg : Segmentation) (input : List Byte) :
    Option (Response × List Byte) :=
  (readHead signed input).map fun h =>
    let b := if h.error = .HTTP_OK then readBody w seg h.headers h.input else (none, h.input)
    (⟨⟨h.error, h.responseCode, b.1⟩, h.headers⟩, b.2)

/-- What comes of a request: no connection, no reply in time, or the bytes of a reply. -/
inductive Connection
  | failed
  | silent
  | replied (seg : Segmentation) (input : List Byte)

/-- `HTTPClient::httpRequest`, short of what it sends. -/
def httpRequest (w : ℕ) (signed : Bool) : Connection → Option Response
  | .failed => some ⟨⟨.HTTP_CONNECTION_TIMEOUT, 0, none⟩, ∅⟩
  | .silent => some ⟨⟨.HTTP_REQUEST_TIMEOUT, 0, none⟩, ∅⟩
  | .replied seg input => (readReply w signed seg input).map Prod.fst

end HTTPClient
end Terremoti
