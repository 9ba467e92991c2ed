import Terremoti.HTTPClient

/-!
# The buffer of a body

`httpRequest` and `httpPostFile` read the length of the body with `atol`, take it for a `size_t`, and
allocate one byte more than they then ask the socket for. The one more wraps: a `Content-Length` of
-1 asks for all of 2 ^ 64 - 1 bytes in a buffer of none. For every other value, garbage included, the
buffer is longer than what is read into it and ends with a NUL (`bodyTerminated_iff`).
-/

namespace Terremoti
namespace HTTPClient

/-- The sizes `malloc`, `memset` and `readall` are called with for the value of a `Content-Length`
header, `size_t` and `long` being of 64 bits. -/
structure BodyCalls where
  malloc : BitVec 64
  memset : BitVec 64
  readall : BitVec 64

def bodyCalls (value : List Byte) : BodyCalls :=
  let bodySize : BitVec 64 := atol 64 (cstr value)
  ⟨bodySize + 1, bodySize + 1, bodySize⟩

/-- `readBody` works with these sizes. -/
theorem readBody_eq_bodyCalls {headers : Params} {value : List Byte}
    (h : headers[str "Content-Length"]? = some value) (seg : Segmentation) (input : List Byte) :
    readBody 64 seg headers input =
      let r := Tcp.readall seg (bodyCalls value).readall.toNat input
      (some (Buffer.write (List.replicate (bodyCalls value).malloc.toNat 0) 0 r.1), r.2) := by
  have hcontains : headers.contains (str "Content-Length") = true := by
    rw [Std.TreeMap.contains_eq_isSome_getElem?, h]
    rfl
  rw [readBody, if_pos hcontains, Std.TreeMap.getD_eq_getD_getElem?, h]
  rfl

/-- Less is read than there is room for, and the last byte of the body stays a NUL. -/
structure BodyTerminated (value : List Byte) : Prop where
  lt : (bodyCalls value).readall < (bodyCalls value).malloc
  cleared : (bodyCalls value).memset = (bodyCalls value).malloc
  terminated : ∀ headers : Params, headers[str "Content-Length"]? = some value →
    ∀ seg input, ∃ body rest, readBody 64 seg headers input = (some body, rest) ∧
      body.length = (bodyCalls value).malloc.toNat ∧ body.getLast? = some 0

theorem toNat_readall (value : List Byte) :
    ((bodyCalls value).readall.toNat : ℤ) =
      max (-2 ^ 63) (min (2 ^ 63 - 1) (strtol10 (cstr value))) % 2 ^ 64 := by
  have hsize : (bodyCalls value).readall =
      BitVec.ofInt 64 (max (-2 ^ 63) (min (2 ^ 63 - 1) (strtol10 (cstr value)))) := rfl
  rw [hsize, BitVec.toNat_ofInt]
  exact Int.toNat_of_nonneg (Int.emod_nonneg _ (by decide))

theorem toNat_malloc (value : List Byte) :
    (bodyCalls value).malloc.toNat = ((bodyCalls value).readall.toNat + 1) % 2 ^ 64 :=
  BitVec.toNat_add _ _

/-- The allocation wraps for one size. -/
theorem readall_lt_malloc_iff (value : List Byte) :
    (bodyCalls value).readall < (bodyCalls value).malloc ↔ strtol10 (cstr value) ≠ -1 := by
  have hsize := toNat_readall value
  have hlt := (bodyCalls value).readall.isLt
  rw [BitVec.lt_def, toNat_malloc]
  constructor
  · rintro hfits hminus
    rw [hminus] at hsize
    omega
  · intro hne
    omega

theorem getLast?_write_replicate {n : ℕ} {src : List Byte} (h : src.length ≤ n) :
    (Buffer.write (List.replicate (n + 1) 0) 0 src).getLast? = some 0 := by
  have hdrop : (List.replicate (n + 1) (0 : Byte)).drop (0 + src.length) =
      List.replicate (n - src.length) 0 ++ [0] := by
    rw [Nat.zero_add, List.drop_replicate, ← List.replicate_succ']
    congr 1
    omega
  rw [Buffer.write, hdrop, ← List.append_assoc, List.getLast?_concat]

theorem bodyTerminated_iff (value : List Byte) :
    BodyTerminated value ↔ strtol10 (cstr value) ≠ -1 := by
  rw [← readall_lt_malloc_iff]
  constructor
  · intro h
    exact h.lt
  · intro hlt
    refine ⟨hlt, rfl, fun headers hvalue seg input =>
      ⟨_, _, readBody_eq_bodyCalls hvalue seg input, ?_⟩⟩
    have hmalloc : (bodyCalls value).malloc.toNat = (bodyCalls value).readall.toNat + 1 := by
      have hwrap := toNat_malloc value
      have hbound := (bodyCalls value).readall.isLt
      rw [BitVec.lt_def] at hlt
      omega
    have hread : (Tcp.readall seg (bodyCalls value).readall.toNat input).1.length ≤
        (bodyCalls value).readall.toNat := by
      rw [Tcp.readall, Tcp.read, List.splitAt_eq, List.length_take]
      omega
    rw [hmalloc]
    refine ⟨?_, getLast?_write_replicate hread⟩
    rw [Buffer.length_write (by rw [List.length_replicate]; omega), List.length_replicate]

/-- One byte is more than none. -/
theorem body_overrun :
    ¬BodyTerminated (str "-1") ∧ (bodyCalls (str "-1")).malloc = 0 ∧
      (bodyCalls (str "-1")).readall = BitVec.allOnes 64 := by
  refine ⟨?_, by decide, by decide⟩
  intro h
  have hlt := h.lt
  revert hlt
  decide

end HTTPClient
end Terremoti
