import Mathlib.Data.List.Basic

/-!
# Switch statements with fall-through

A `switch` is its cases in program order, each with a body that ends in `break` (or leaves the
function), or falls into the next case. A label that no case has does nothing, as under an empty
`default`.
-/

namespace Switch

inductive Flow
  | fall
  | stop

variable {σ L : Type}

/-- Run bodies from the first on, as long as they fall through. -/
def run : List (σ → σ × Flow) → σ → σ
  | [], s => s
  | body :: bodies, s =>
    match body s with
    | (s, .fall) => run bodies s
    | (s, .stop) => s

def switch [DecidableEq L] (cases : List (L × (σ → σ × Flow))) (l : L) (s : σ) : σ :=
  run ((cases.dropWhile fun c => decide (c.1 ≠ l)).map Prod.snd) s

theorem run_stop {body : σ → σ × Flow} {s : σ} (bodies : List (σ → σ × Flow))
    (h : (body s).2 = .stop) : run (body :: bodies) s = (body s).1 := by
  rw [run]
  split
  · rename_i heq; rw [heq] at h; cases h
  · rename_i heq; rw [heq]

theorem run_fall {body : σ → σ × Flow} {s : σ} (bodies : List (σ → σ × Flow))
    (h : (body s).2 = .fall) : run (body :: bodies) s = run bodies (body s).1 := by
  rw [run]
  split
  · rename_i heq; rw [heq]
  · rename_i heq; rw [heq] at h; cases h

theorem run_preserves {P : σ → Prop} {bodies : List (σ → σ × Flow)}
    (h : ∀ body ∈ bodies, ∀ s, P s → P (body s).1) {s : σ} (hs : P s) : P (run bodies s) := by
  induction bodies generalizing s with
  | nil => exact hs
  | cons body bodies ih =>
    obtain ⟨hbody, h⟩ := List.forall_mem_cons.1 h
    cases hflow : (body s).2 with
    | fall =>
      rw [run_fall bodies hflow]
      exact ih h (hbody s hs)
    | stop =>
      rw [run_stop bodies hflow]
      exact hbody s hs

variable [DecidableEq L]

theorem switch_preserves {P : σ → Prop} {cases : List (L × (σ → σ × Flow))} (l : L)
    (h : ∀ c ∈ cases, ∀ s, P s → P (c.2 s).1) {s : σ} (hs : P s) : P (switch cases l s) := by
  refine run_preserves (fun body hbody s hs => ?_) hs
  obtain ⟨c, hc, rfl⟩ := List.mem_map.1 hbody
  exact h c ((List.dropWhile_suffix _).mem hc) s hs

theorem switch_cons_ne {l l' : L} (h : l' ≠ l) (body : σ → σ × Flow)
    (cases : List (L × (σ → σ × Flow))) (s : σ) :
    switch ((l', body) :: cases) l s = switch cases l s := by
  simp [switch, h]

theorem switch_of_notMem {l : L} {cases : List (L × (σ → σ × Flow))}
    (h : l ∉ cases.map Prod.fst) (s : σ) : switch cases l s = s := by
  induction cases with
  | nil => rfl
  | cons c cases ih =>
    rw [List.map_cons, List.mem_cons, not_or] at h
    rw [switch_cons_ne (Ne.symm h.1), ih h.2]

end Switch
