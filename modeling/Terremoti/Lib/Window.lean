import Mathlib.Data.List.Pairwise
import Mathlib.Order.Lattice
import Mathlib.Tactic.ByContra

/-!
# Windows over timed items

Something runs from a start on over items in the order of their times, until the first item that is
`late`. It is to run at least up to the time `lo`, and to be ended by the first `sample` behind `hi`
or earlier (`Covered`). It does exactly if up to its end no item at `lo` or before is late and every
sample behind `hi` is (`covered_iff`).
-/

namespace Window

variable {σ T : Type} [LinearOrder T] (time : σ → T) (sample late : σ → Prop) (lo hi : T)

/-- The first late item of a list, and what is in front of it. -/
theorem exists_first {late : σ → Prop} {xs : List σ} (h : ∃ x ∈ xs, late x) :
    ∃ run x rest, xs = run ++ x :: rest ∧ late x ∧ ∀ y ∈ run, ¬ late y := by
  induction xs with
  | nil =>
    obtain ⟨x, hx, -⟩ := h
    cases hx
  | cons a xs ih =>
    by_cases ha : late a
    · exact ⟨[], a, xs, rfl, ha, nofun⟩
    · obtain ⟨x, hx, hlate⟩ := h
      rcases List.mem_cons.1 hx with rfl | hx
      · exact absurd hlate ha
      · obtain ⟨run, y, rest, rfl, hy, hrun⟩ := ih ⟨x, hx, hlate⟩
        exact ⟨a :: run, y, rest, rfl, hy, List.forall_mem_cons.2 ⟨ha, hrun⟩⟩

structure Covered (xs : List σ) : Prop where
  kept : ∀ ys zs, xs = ys ++ zs → (∀ y ∈ ys, time y ≤ lo) → ∀ y ∈ ys, ¬ late y
  ended : ∀ ys x zs, xs = ys ++ x :: zs → sample x → hi < time x →
    ∃ run y rest, ys ++ [x] = run ++ y :: rest ∧ lo < time y ∧ late y ∧ ∀ z ∈ run, ¬ late z

/-- Of the items up to the first late one. -/
def Timely (xs : List σ) : Prop :=
  ∀ ys x zs, xs = ys ++ x :: zs → (∀ y ∈ ys, ¬ late y) →
    (time x ≤ lo → ¬ late x) ∧ (sample x → hi < time x → late x)

variable {time sample late lo hi} {xs : List σ}

theorem Covered.timely (h : Covered time sample late lo hi xs)
    (hsorted : xs.Pairwise fun x y => time x ≤ time y) : Timely time sample late lo hi xs := by
  intro ys x zs hxs hys
  constructor
  · intro hlo
    refine h.kept (ys ++ [x]) zs (by rw [hxs, List.append_cons]) (fun y hy => ?_) x
      (List.mem_append_right _ (List.mem_singleton_self x))
    rw [hxs, List.pairwise_append] at hsorted
    rcases List.mem_append.1 hy with hy | hy
    · exact (hsorted.2.2 y hy x List.mem_cons_self).trans hlo
    · rw [List.mem_singleton.1 hy]
      exact hlo
  · intro hsample hhi
    obtain ⟨run, y, rest, hrun, -, hlate, -⟩ := h.ended ys x zs hxs hsample hhi
    -- what is late can only be the last item
    have hy : y ∈ ys ++ [x] := hrun ▸ List.mem_append_right run List.mem_cons_self
    rcases List.mem_append.1 hy with hy | hy
    · exact absurd hlate (hys y hy)
    · rwa [← List.mem_singleton.1 hy]

theorem Timely.lo_lt (h : Timely time sample late lo hi xs) {run rest : List σ} {y : σ}
    (hxs : xs = run ++ y :: rest) (hlate : late y) (hrun : ∀ z ∈ run, ¬ late z) : lo < time y := by
  by_contra hle
  exact (h run y rest hxs hrun).1 (not_lt.1 hle) hlate

theorem Timely.covered (h : Timely time sample late lo hi xs) :
    Covered time sample late lo hi xs := by
  constructor
  · intro ys zs hxs hlo y hy hlate
    obtain ⟨run, x, rest, rfl, hx, hrun⟩ := exists_first ⟨y, hy, hlate⟩
    have hlt : lo < time x := h.lo_lt (by rw [hxs, List.append_assoc]; rfl) hx hrun
    exact absurd (hlo x (List.mem_append_right _ List.mem_cons_self)) hlt.not_ge
  · intro ys x zs hxs hsample hhi
    have hmem : ∃ y ∈ ys ++ [x], late y := by
      by_contra! hnone
      have hx := (h ys x zs hxs fun y hy => hnone y (List.mem_append_left _ hy)).2 hsample hhi
      exact hnone x (List.mem_append_right _ (List.mem_singleton_self x)) hx
    obtain ⟨run, y, rest, hrun, hy, hearlier⟩ := exists_first hmem
    have hsplit : xs = run ++ y :: (rest ++ zs) := by
      rw [hxs, List.append_cons, hrun, List.append_assoc]
      rfl
    exact ⟨run, y, rest, hrun, h.lo_lt hsplit hy hearlier, hy, hearlier⟩

theorem covered_iff (hsorted : xs.Pairwise fun x y => time x ≤ time y) :
    Covered time sample late lo hi xs ↔ Timely time sample late lo hi xs :=
  ⟨fun h => h.timely hsorted, Timely.covered⟩

end Window
