import Mathlib.Data.List.Pairwise
import Mathlib.Order.Basic

/-!
# A store of two generations

`put` adds an item to the current generation, `rotate` makes that the old one and drops the one
before. What is put in is there until the second rotation after it (`holds_put`); in a history whose
rotations are at least `period` apart that is for a period (`holds_of_spaced`).
-/

namespace Generations

variable {α : Type}

inductive Op (α : Type)
  | put (x : α)
  | rotate

def Op.isRotate : Op α → Bool
  | put _ => false
  | rotate => true

structure Store (α : Type) where
  current : List α
  old : List α

namespace Store

def Holds (s : Store α) (x : α) : Prop := x ∈ s.current ∨ x ∈ s.old

def step (s : Store α) : Op α → Store α
  | .put x => { s with current := s.current ++ [x] }
  | .rotate => ⟨[], s.current⟩

def replay (s : Store α) (ops : List (Op α)) : Store α := ops.foldl step s

theorem replay_cons (s : Store α) (op : Op α) (ops : List (Op α)) :
    s.replay (op :: ops) = (s.step op).replay ops := rfl

theorem replay_append (s : Store α) (ops ops' : List (Op α)) :
    s.replay (ops ++ ops') = (s.replay ops).replay ops' := List.foldl_append

theorem holds_old {s : Store α} {x : α} (h : x ∈ s.old) {ops : List (Op α)}
    (hops : ops.countP Op.isRotate = 0) : (s.replay ops).Holds x := by
  induction ops generalizing s with
  | nil => exact .inr h
  | cons op ops ih =>
    cases op with
    | put y => exact ih (s := s.step (.put y)) h hops
    | rotate => simp [Op.isRotate] at hops

theorem holds_current {s : Store α} {x : α} (h : x ∈ s.current) {ops : List (Op α)}
    (hops : ops.countP Op.isRotate ≤ 1) : (s.replay ops).Holds x := by
  induction ops generalizing s with
  | nil => exact .inl h
  | cons op ops ih =>
    cases op with
    | put y => exact ih (s := s.step (.put y)) (List.mem_append_left _ h) hops
    | rotate =>
      refine holds_old (s := s.step .rotate) h ?_
      rw [List.countP_cons_of_pos rfl] at hops
      omega

theorem holds_put (s : Store α) (pre : List (Op α)) (x : α) {post : List (Op α)}
    (hpost : post.countP Op.isRotate ≤ 1) : (s.replay (pre ++ .put x :: post)).Holds x := by
  rw [replay_append, replay_cons]
  refine holds_current ?_ hpost
  exact List.mem_append_right _ (List.mem_singleton_self x)

end Store

/-! ### Histories -/

/-- What is done, and when. -/
abbrev History (α : Type) := List (ℕ × Op α)

namespace History

def rotations (h : History α) : List ℕ := (h.filter (·.2.isRotate)).map Prod.fst

/-- What has been done by the time `now`. -/
def upTo (now : ℕ) (h : History α) : List (Op α) := (h.filter (·.1 ≤ now)).map Prod.snd

def Increasing (h : History α) : Prop := h.Pairwise fun a b => a.1 < b.1

def Spaced (period : ℕ) (h : History α) : Prop :=
  h.rotations.Pairwise fun a b => a + period ≤ b

instance (period : ℕ) (h : History α) : Decidable (h.Spaced period) :=
  inferInstanceAs (Decidable (List.Pairwise _ _))

theorem rotations_append (h h' : History α) :
    rotations (h ++ h') = h.rotations ++ h'.rotations := by
  rw [rotations, List.filter_append, List.map_append]
  rfl

theorem rotations_puts (time : α → ℕ) (xs : List α) :
    rotations (xs.map fun x => (time x, .put x)) = [] := by
  rw [rotations, List.filter_map, List.map_map,
    List.filter_eq_nil_iff.2 (fun x _ => by simp [Op.isRotate])]
  rfl

theorem length_rotations (h : History α) :
    h.rotations.length = (h.map Prod.snd).countP Op.isRotate := by
  rw [rotations, List.length_map, List.countP_map, List.countP_eq_length_filter]
  rfl

theorem holds_of_spaced {s : Store α} {h : History α} {period : ℕ} (hinc : h.Increasing)
    (hspaced : h.Spaced period) {t now : ℕ} {x : α} (hput : (t, .put x) ∈ h) (ht : t ≤ now)
    (hnow : now ≤ t + period) : (s.replay (h.upTo now)).Holds x := by
  obtain ⟨pre, post, rfl⟩ := List.append_of_mem hput
  rw [upTo, List.filter_append, List.filter_cons_of_pos (by simpa using ht), List.map_append,
    List.map_cons]
  refine Store.holds_put _ _ x ?_
  rw [← length_rotations]
  -- two rotations between `t` and `now` would be too close to each other
  have hsub : (rotations (post.filter (·.1 ≤ now))).Sublist
      (rotations (pre ++ (t, .put x) :: post)) := by
    refine (List.Sublist.filter _ ?_).map _
    exact List.filter_sublist.trans
      ((List.sublist_cons_self _ _).trans (List.sublist_append_right _ _))
  have hwithin : ∀ r ∈ rotations (post.filter (·.1 ≤ now)), t < r ∧ r ≤ now := by
    intro r hr
    obtain ⟨e, he, rfl⟩ := List.mem_map.1 hr
    obtain ⟨hpost, hle⟩ := List.mem_filter.1 (List.mem_filter.1 he).1
    have hlater := (List.pairwise_cons.1 (List.pairwise_append.1 hinc).2.1).1 e hpost
    exact ⟨hlater, by simpa using hle⟩
  have hapart := hspaced.sublist hsub
  match hrot : rotations (post.filter (·.1 ≤ now)) with
  | [] => exact Nat.zero_le 1
  | [r] => exact Nat.le_refl 1
  | r :: r' :: rs =>
    rw [hrot] at hapart hwithin
    have hgap := (List.pairwise_cons.1 hapart).1 r' List.mem_cons_self
    have hr := hwithin r List.mem_cons_self
    have hr' := hwithin r' (List.mem_cons_of_mem _ List.mem_cons_self)
    omega

end History
end Generations
