import Mathlib.Data.List.Basic
import Mathlib.Order.Basic

/-!
# Retry loops

`while (!attempt());` against an environment given as a list of what each attempt meets. An attempt
succeeds, fails, or never returns; `run` is the loop on such a list, which may end before the loop
does. Over a stream, `run_waiting` is the loop as long as every attempt fails, and `run_succeeds`
ends it at the first success.
-/

namespace Retry

variable {σ α : Type}

/-- A loop under way: the state, the attempts begun, and whether one has succeeded. -/
structure Run (σ : Type) where
  state : σ
  calls : ℕ
  returned : Bool

/-- The loop; an attempt is `some` of its result, or `none` if it does not return. -/
def run (attempt : σ → α → σ × Option Bool) : List α → σ → Run σ
  | [], s => ⟨s, 0, false⟩
  | a :: as, s =>
    match attempt s a with
    | (s, some false) =>
      let r := run attempt as s
      { r with calls := r.calls + 1 }
    | (s, some true) => ⟨s, 1, true⟩
    | (s, none) => ⟨s, 1, false⟩

theorem run_preserves {P : σ → Prop} {attempt : σ → α → σ × Option Bool}
    (h : ∀ s a, P s → P (attempt s a).1) {s : σ} (hs : P s) (as : List α) :
    P (run attempt as s).state := by
  induction as generalizing s with
  | nil => exact hs
  | cons a as ih =>
    have ha := h s a hs
    rw [run]
    split
    · rename_i s' heq
      rw [heq] at ha
      exact ih ha
    · rename_i s' heq
      rw [heq] at ha
      exact ha
    · rename_i s' heq
      rw [heq] at ha
      exact ha

theorem run_preserves_of_mem {P : σ → Prop} {attempt : σ → α → σ × Option Bool} {as : List α}
    (h : ∀ s, ∀ a ∈ as, P s → P (attempt s a).1) {s : σ} (hs : P s) : P (run attempt as s).state := by
  induction as generalizing s with
  | nil => exact hs
  | cons a as ih =>
    obtain ⟨h0, h⟩ := forall_and.1 fun s => List.forall_mem_cons.1 (h s)
    have ha := h0 s hs
    rw [run]
    split
    · rename_i s' heq
      rw [heq] at ha
      exact ih h ha
    · rename_i s' heq
      rw [heq] at ha
      exact ha
    · rename_i s' heq
      rw [heq] at ha
      exact ha

/-- What a success leaves, the loop leaves that has returned. -/
theorem run_post {P : σ → Prop} {attempt : σ → α → σ × Option Bool}
    (h : ∀ s a, (attempt s a).2 = some true → P (attempt s a).1) {as : List α} {s : σ}
    (hret : (run attempt as s).returned = true) : P (run attempt as s).state := by
  induction as generalizing s with
  | nil => cases hret
  | cons a as ih =>
    have ha := h s a
    rw [run] at hret ⊢
    split at hret
    · exact ih hret
    · rename_i s' heq
      rw [heq] at ha
      exact ha rfl
    · cases hret

def first (as : ℕ → α) (n : ℕ) : List α := (List.range n).map as

variable (attempt : σ → α → σ × Option Bool) (as : ℕ → α) (s : σ)

/-- The state after the first `n` attempts. -/
def after : ℕ → σ
  | 0 => s
  | n + 1 => (attempt (after n) (as n)).1

def outcome (n : ℕ) : Option Bool := (attempt (after attempt as s n) (as n)).2

theorem first_succ (n : ℕ) : first as (n + 1) = first as n ++ [as n] := by
  rw [first, List.range_succ, List.map_append]
  rfl

theorem first_split {m n : ℕ} (h : m < n) :
    ∃ rest, first as n = first as m ++ as m :: rest := by
  obtain ⟨k, rfl⟩ := Nat.exists_eq_add_of_lt h
  refine ⟨(List.range k).map fun j => as (m + 1 + j), ?_⟩
  rw [first, Nat.add_right_comm, List.range_add, List.map_append, List.range_succ, List.map_append,
    List.append_assoc, List.map_map]
  rfl

variable {attempt as s}

theorem run_failing {n : ℕ} (h : ∀ k < n, outcome attempt as s k = some false) (rest : List α) :
    run attempt (first as n ++ rest) s =
      { run attempt rest (after attempt as s n) with
        calls := (run attempt rest (after attempt as s n)).calls + n } := by
  induction n generalizing rest with
  | zero => rfl
  | succ n ih =>
    have hn : attempt (after attempt as s n) (as n) = (after attempt as s (n + 1), some false) :=
      Prod.ext rfl (h n (Nat.lt_succ_self n))
    rw [first_succ, List.append_assoc, ih fun k hk => h k (Nat.lt_succ_of_lt hk)]
    rw [List.singleton_append, run, hn]
    dsimp only
    rw [Nat.add_assoc, Nat.add_comm 1 n]

theorem run_waiting {n : ℕ} (h : ∀ k < n, outcome attempt as s k = some false) :
    run attempt (first as n) s = ⟨after attempt as s n, n, false⟩ := by
  have hrun := run_failing h []
  rw [List.append_nil] at hrun
  rw [hrun, run, Nat.zero_add]

theorem run_succeeds {m n : ℕ} (h : ∀ k < m, outcome attempt as s k = some false)
    (hm : outcome attempt as s m = some true) (hn : m < n) :
    run attempt (first as n) s = ⟨after attempt as s (m + 1), m + 1, true⟩ := by
  obtain ⟨rest, hrest⟩ := first_split as hn
  have hlast : attempt (after attempt as s m) (as m) = (after attempt as s (m + 1), some true) :=
    Prod.ext rfl hm
  rw [hrest, run_failing h, run, hlast]
  dsimp only
  rw [Nat.add_comm 1 m]

/-! ### Lists -/

/-- An attempt with `P` comes before any with `Q`. -/
def Reaches (P Q : α → Prop) (as : List α) : Prop :=
  ∃ pre a post, as = pre ++ a :: post ∧ P a ∧ ∀ a' ∈ pre, ¬Q a'

theorem not_reaches_nil {P Q : α → Prop} : ¬Reaches P Q [] := by
  rintro ⟨pre, a, post, h, -⟩
  simp at h

theorem reaches_cons {P Q : α → Prop} {a : α} {as : List α} :
    Reaches P Q (a :: as) ↔ P a ∨ ¬Q a ∧ Reaches P Q as := by
  constructor
  · rintro ⟨_ | ⟨a', pre⟩, a'', post, h, hP, hQ⟩
    · obtain ⟨rfl, -⟩ := List.cons.inj h
      exact .inl hP
    · obtain ⟨rfl, rfl⟩ := List.cons.inj h
      exact .inr ⟨hQ a (by simp), pre, a'', post, rfl, hP, fun b hb => hQ b (by simp [hb])⟩
  · rintro (hP | ⟨hQ, pre, a', post, rfl, hP, hpre⟩)
    · exact ⟨[], a, as, rfl, hP, by simp⟩
    · refine ⟨a :: pre, a', post, rfl, hP, fun b hb => ?_⟩
      rcases List.mem_cons.1 hb with rfl | hb
      · exact hQ
      · exact hpre b hb

end Retry
