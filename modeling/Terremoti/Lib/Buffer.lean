import Mathlib.Data.List.Basic

/-!
# Writing into a buffer

`write` overwrites part of a buffer of fixed length (`length_write`), and what was written can be
read back (`read_write`); `write_take_eq_iff` says when part of a text does for the whole of it.
`Extends n` says that a buffer has come from another by writes at `n` and above (`Extends.write`), so
that everything below reads as before (`Extends.read`).
-/

namespace Buffer

variable {α : Type}

def write (buf : List α) (offset : ℕ) (src : List α) : List α :=
  buf.take offset ++ src ++ buf.drop (offset + src.length)

def read (buf : List α) (offset n : ℕ) : List α := (buf.drop offset).take n

theorem length_write {buf src : List α} {offset : ℕ} (h : offset + src.length ≤ buf.length) :
    (write buf offset src).length = buf.length := by
  simp only [write, List.length_append, List.length_take, List.length_drop]
  omega

theorem read_write {buf : List α} (src : List α) {offset : ℕ} (h : offset ≤ buf.length) :
    read (write buf offset src) offset src.length = src := by
  rw [read, write, List.append_assoc, List.drop_append_of_le_length (by simp [h]),
    List.drop_take_self, List.nil_append, List.take_left]

/-- A list written from the start and one more item behind it. -/
theorem write_write_singleton (buf src : List α) (a : α) :
    write (write buf 0 src) src.length [a] = src ++ a :: buf.drop (src.length + 1) := by
  rw [write, write, List.take_zero, List.nil_append, Nat.zero_add, List.take_left,
    List.length_singleton, List.drop_length_add_append, List.drop_drop, List.append_assoc]
  rfl

/-- The first `k` items of a list, written into a buffer of `z` with room for one more, are the list
and a `z` exactly when the items left out are `z` as well. -/
theorem write_take_eq_iff {z : α} (l : List α) (k : ℕ) :
    write (List.replicate (l.length + 1) z) 0 (l.take k) = l ++ [z] ↔ ∀ c ∈ l.drop k, c = z := by
  have hwrite : write (List.replicate (l.length + 1) z) 0 (l.take k) =
      l.take k ++ List.replicate ((l.drop k).length + 1) z := by
    rw [write, List.take_zero, List.nil_append, List.drop_replicate, List.length_take,
      List.length_drop]
    congr 2
    omega
  have hsplit : l ++ [z] = l.take k ++ (l.drop k ++ [z]) := by
    rw [← List.append_assoc, List.take_append_drop]
  rw [hwrite, hsplit, List.append_cancel_left_eq, List.replicate_succ', List.append_cancel_right_eq,
    eq_comm, List.eq_replicate_iff]
  exact and_iff_right rfl

/-- Same length, and the same items below `n`. -/
structure Extends (n : ℕ) (buf buf' : List α) : Prop where
  length : buf'.length = buf.length
  take : buf'.take n = buf.take n

namespace Extends

theorem refl (n : ℕ) (buf : List α) : Extends n buf buf := ⟨rfl, rfl⟩

theorem trans {n : ℕ} {buf₁ buf₂ buf₃ : List α} (h : Extends n buf₁ buf₂)
    (h' : Extends n buf₂ buf₃) : Extends n buf₁ buf₃ :=
  ⟨h'.length.trans h.length, h'.take.trans h.take⟩

theorem mono {m n : ℕ} {buf buf' : List α} (h : Extends n buf buf') (hmn : m ≤ n) :
    Extends m buf buf' := by
  refine ⟨h.length, ?_⟩
  have htake := congrArg (List.take m) h.take
  rwa [List.take_take, List.take_take, Nat.min_eq_left hmn] at htake

theorem write {n offset : ℕ} {buf buf' src : List α} (h : Extends n buf buf') (hn : n ≤ offset)
    (hlen : offset + src.length ≤ buf.length) : Extends n buf (write buf' offset src) := by
  have hbuf : (buf'.take offset).length = offset := by
    rw [List.length_take, h.length, Nat.min_eq_left (by omega)]
  refine ⟨(length_write (by rw [h.length]; exact hlen)).trans h.length, ?_⟩
  rw [Buffer.write, List.append_assoc, List.take_append_of_le_length (by omega), List.take_take,
    Nat.min_eq_left hn, h.take]

theorem read {n o k : ℕ} {buf buf' : List α} (h : Extends n buf buf') (ho : o + k ≤ n) :
    read buf' o k = read buf o k := by
  have hread : ∀ l : List α, Buffer.read l o k = ((l.take n).drop o).take k := by
    intro l
    rw [List.drop_take, List.take_take, Nat.min_eq_left (by omega), Buffer.read]
  rw [hread, hread, h.take]

end Extends
end Buffer
