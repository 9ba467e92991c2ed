import Mathlib.Data.List.Basic

/-!
# Reading a queue that keeps filling

A reader polls a FIFO queue; before each poll some items arrive. `pops` is what the polls return
when every poll takes the head of the queue, `popUntil p` is the reader that stops at the first item
satisfying `p` while the rest goes on arriving. The first keeps the order of arrival
(`pops_append`); the second finds the first hit of the first (`popUntil_eq_find?`), and if there is
none they leave the same queue (`popUntil_none`).
-/

namespace Fifo

variable {α : Type}

/-- The items successive polls take, and the queue they leave; `as` lists the arrivals before each
poll. -/
def pops : List α → List (List α) → List α × List α
  | q, [] => ([], q)
  | q, a :: as =>
    match q ++ a with
    | [] => pops [] as
    | x :: q => (x :: (pops q as).1, (pops q as).2)

/-- The first item taken that satisfies `p`, if any, and the queue when all have arrived. -/
def popUntil (p : α → Bool) : List α → List (List α) → Option α × List α
  | q, [] => (none, q)
  | q, a :: as =>
    match q ++ a with
    | [] => popUntil p [] as
    | x :: q => if p x then (some x, q ++ as.flatten) else popUntil p q as

theorem pops_append (q : List α) (as : List (List α)) :
    (pops q as).1 ++ (pops q as).2 = q ++ as.flatten := by
  fun_induction pops q as with
  | case1 q => simp
  | case2 q a as h ih => simpa [List.append_eq_nil_iff.1 h] using ih
  | case3 q a as x q' h ih =>
    rw [List.cons_append, ih, List.flatten_cons, ← List.append_assoc, h, List.cons_append]

theorem popUntil_eq_find? (p : α → Bool) (q : List α) (as : List (List α)) :
    (popUntil p q as).1 = (pops q as).1.find? p := by
  fun_induction popUntil p q as with
  | case1 q => rfl
  | case2 q a as h ih => rw [pops, h]; exact ih
  | case3 q a as x q' h hp => rw [pops, h]; simp [hp]
  | case4 q a as x q' h hp ih => rw [pops, h]; simp [hp, ih]

theorem popUntil_none {p : α → Bool} {q : List α} {as : List (List α)}
    (h : (popUntil p q as).1 = none) : (popUntil p q as).2 = (pops q as).2 := by
  fun_induction popUntil p q as with
  | case1 q => rfl
  | case2 q a as hq ih => rw [pops, hq]; exact ih h
  | case3 q a as y q' hq hp => simp at h
  | case4 q a as y q' hq hp ih => rw [pops, hq]; exact ih h

end Fifo
