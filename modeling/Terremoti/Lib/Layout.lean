import Terremoti.Lib.Buffer

/-!
# Fields written one after another

A field is written as its items and `pad` items of padding, and the next one starts `gap` items
behind the items. In a buffer of nothing but padding the fields then stand in sequence
(`writeFields_rightpad`), and each is found where it was written (`read_of_mem_ranges`).
-/

namespace Layout

variable {ι α : Type}

structure Field (ι α : Type) where
  label : ι
  items : List α
  pad : ℕ
  gap : ℕ

def Field.next (offset : ℕ) (f : Field ι α) : ℕ := offset + f.items.length + f.gap

def writeFields (z : α) : ℕ → List (Field ι α) → List α → List α
  | _, [], buf => buf
  | offset, f :: fs, buf =>
    writeFields z (f.next offset) fs (Buffer.write buf offset (f.items ++ List.replicate f.pad z))

/-- Where each write starts, and its length. -/
def writes : ℕ → List (Field ι α) → List (ℕ × ℕ)
  | _, [] => []
  | offset, f :: fs => (offset, f.items.length + f.pad) :: writes (f.next offset) fs

/-- Where the items of each field are. -/
def ranges : ℕ → List (Field ι α) → List (ι × ℕ × ℕ)
  | _, [] => []
  | offset, f :: fs => (f.label, offset, f.items.length) :: ranges (f.next offset) fs

def text (z : α) (fs : List (Field ι α)) : List α :=
  fs.flatMap fun f => f.items ++ List.replicate f.gap z

theorem text_cons (z : α) (f : Field ι α) (fs : List (Field ι α)) :
    text z (f :: fs) = f.items ++ (List.replicate f.gap z ++ text z fs) := by
  rw [text, List.flatMap_cons, List.append_assoc]
  rfl

/-- Where the field behind the last one would start. -/
def finish (offset : ℕ) (fs : List (Field ι α)) : ℕ := fs.foldl Field.next offset

theorem length_append_gap (z : α) (p : List α) (f : Field ι α) :
    (p ++ (f.items ++ List.replicate f.gap z)).length = f.next p.length := by
  rw [Field.next, List.length_append, List.length_append, List.length_replicate, Nat.add_assoc]

theorem length_append_text (z : α) (p : List α) (fs : List (Field ι α)) :
    (p ++ text z fs).length = finish p.length fs := by
  induction fs generalizing p with
  | nil => rw [text, List.flatMap_nil, List.append_nil]; rfl
  | cons f fs ih =>
    rw [text_cons, ← List.append_assoc f.items, ← List.append_assoc p, ih, length_append_gap]
    rfl

/-- Padding on the right of a list that ends in padding. -/
theorem rightpad_append_replicate {z : α} {p : List α} {k n : ℕ} (h : p.length + k ≤ n) :
    (p ++ List.replicate k z).rightpad n z = p.rightpad n z := by
  rw [List.rightpad, List.rightpad, List.length_append, List.length_replicate, List.append_assoc,
    List.replicate_append_replicate, show k + (n - (p.length + k)) = n - p.length by omega]

theorem write_rightpad (z : α) (p src : List α) (n : ℕ) :
    Buffer.write (p.rightpad n z) p.length src = (p ++ src).rightpad n z := by
  rw [Buffer.write, List.rightpad, List.rightpad, List.take_left, List.drop_length_add_append,
    List.drop_replicate, List.length_append, Nat.sub_sub]

theorem writeFields_rightpad {z : α} {n : ℕ} {p : List α} {fs : List (Field ι α)}
    (hwrites : ∀ x ∈ writes p.length fs, x.1 + x.2 ≤ n) (hend : (p ++ text z fs).length ≤ n) :
    writeFields z p.length fs (p.rightpad n z) = (p ++ text z fs).rightpad n z := by
  induction fs generalizing p with
  | nil => rw [text, List.flatMap_nil, List.append_nil]; rfl
  | cons f fs ih =>
    rw [writes, List.forall_mem_cons] at hwrites
    obtain ⟨hwrites₀, hwrites⟩ := hwrites
    rw [text_cons, ← List.append_assoc f.items, ← List.append_assoc p] at hend ⊢
    have hwrite : Buffer.write (p.rightpad n z) p.length (f.items ++ List.replicate f.pad z) =
        (p ++ (f.items ++ List.replicate f.gap z)).rightpad n z := by
      rw [List.length_append, List.length_append, List.length_append, List.length_replicate] at hend
      rw [write_rightpad, ← List.append_assoc, ← List.append_assoc,
        rightpad_append_replicate (by rw [List.length_append]; omega),
        rightpad_append_replicate (by rw [List.length_append]; omega)]
    rw [writeFields, hwrite, ← length_append_gap z]
    exact ih (by rw [length_append_gap]; exact hwrites) hend

theorem read_of_mem_ranges (z : α) {p : List α} {fs : List (Field ι α)} {l : ι} {o k : ℕ}
    (h : (l, o, k) ∈ ranges p.length fs) (post : List α) :
    ∃ f ∈ fs, f.label = l ∧ Buffer.read (p ++ text z fs ++ post) o k = f.items := by
  induction fs generalizing p with
  | nil => cases h
  | cons f fs ih =>
    rcases List.mem_cons.1 h with h | h
    · cases h
      refine ⟨f, List.mem_cons_self, rfl, ?_⟩
      rw [Buffer.read, List.append_assoc, List.drop_left, text_cons, List.append_assoc,
        List.take_left]
    · rw [← length_append_gap z] at h
      obtain ⟨f', hf', hlabel, hread⟩ := ih h
      refine ⟨f', List.mem_cons_of_mem _ hf', hlabel, ?_⟩
      rw [text_cons, ← List.append_assoc f.items, ← List.append_assoc p]
      exact hread

end Layout
