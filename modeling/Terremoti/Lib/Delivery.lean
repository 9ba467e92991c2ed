import Mathlib.Data.Multiset.Count
import Mathlib.Data.Multiset.Filter
import Mathlib.Tactic.Linarith

/-!
# Deliveries that answer

Messages in flight form a multiset; a delivery takes one out and puts its answers in. If a delivery
answers at most once, only with messages of a class `Quiet`, and quiet messages are not answered
(`Event.Bounded`), every message sent uses up a noisy one (`Run.sent_le`) and every delivery lowers
the number of messages plus the number of noisy ones (`Run.length_le`), so runs are finite.
-/

namespace Delivery

variable {M : Type}

structure Event (M : Type) where
  message : M
  out : List M

/-- Successive deliveries, from the messages in flight before to those in flight after. -/
inductive Run : Multiset M → List (Event M) → Multiset M → Prop
  | nil (f : Multiset M) : Run f [] f
  | deliver {f f' : Multiset M} {e : Event M} {log : List (Event M)} (h : Run (f + e.out) log f') :
      Run (e.message ::ₘ f) (e :: log) f'

/-- At most one answer, a quiet one, and none to a quiet message. -/
structure Event.Bounded (Quiet : M → Prop) (e : Event M) : Prop where
  one : e.out.length ≤ 1
  quiet : ∀ m ∈ e.out, Quiet m
  silent : Quiet e.message → e.out = []

open Classical in
noncomputable def noisy (Quiet : M → Prop) (f : Multiset M) : ℕ := f.countP fun m => ¬Quiet m

variable {Quiet : M → Prop}

theorem noisy_le_card (Quiet : M → Prop) (f : Multiset M) : noisy Quiet f ≤ f.card := by
  classical
  exact Multiset.countP_le_card _ _

/-- One delivery: the messages sent are paid for by the noisy message it takes. -/
theorem Event.Bounded.noisy_le {e : Event M} (h : e.Bounded Quiet) (f : Multiset M) :
    e.out.length + noisy Quiet (f + e.out) ≤ noisy Quiet (e.message ::ₘ f) := by
  classical
  have hout : noisy Quiet (e.out : Multiset M) = 0 :=
    Multiset.countP_eq_zero.2 fun m hm => not_not.2 (h.quiet m hm)
  have hadd : noisy Quiet (f + e.out) = noisy Quiet f := by
    have := Multiset.countP_add (fun m => ¬Quiet m) f (e.out : Multiset M)
    unfold noisy at hout ⊢
    omega
  rw [hadd]
  by_cases hq : Quiet e.message
  · rw [h.silent hq, noisy, noisy,
      Multiset.countP_cons_of_neg (p := fun m => ¬Quiet m) f (not_not.2 hq)]
    simp
  · rw [noisy, noisy, Multiset.countP_cons_of_pos (p := fun m => ¬Quiet m) f hq]
    have := h.one
    omega

namespace Run

variable {f f' : Multiset M} {log : List (Event M)}

theorem sent_add_noisy_le (h : Run f log f') (hb : ∀ e ∈ log, e.Bounded Quiet) :
    (log.map fun e => e.out.length).sum + noisy Quiet f' ≤ noisy Quiet f := by
  induction h with
  | nil f => simp
  | @deliver f f' e log h ih =>
    obtain ⟨he, hb⟩ := List.forall_mem_cons.1 hb
    have hrest := ih hb
    have hstep := he.noisy_le f
    rw [List.map_cons, List.sum_cons]
    omega

theorem length_add_le (h : Run f log f') (hb : ∀ e ∈ log, e.Bounded Quiet) :
    log.length + (f'.card + noisy Quiet f') ≤ f.card + noisy Quiet f := by
  induction h with
  | nil f => simp
  | @deliver f f' e log h ih =>
    obtain ⟨he, hb⟩ := List.forall_mem_cons.1 hb
    have hrest := ih hb
    have hstep := he.noisy_le f
    rw [Multiset.card_add, Multiset.coe_card] at hrest
    rw [List.length_cons, Multiset.card_cons]
    omega

/-- No more messages are sent than were in flight at first. -/
theorem sent_le (h : Run f log f') (hb : ∀ e ∈ log, e.Bounded Quiet) :
    (log.map fun e => e.out.length).sum ≤ f.card := by
  have hsent := h.sent_add_noisy_le hb
  have hcard := noisy_le_card Quiet f
  omega

/-- Twice as many deliveries as messages in flight at first end every run. -/
theorem length_le (h : Run f log f') (hb : ∀ e ∈ log, e.Bounded Quiet) :
    log.length ≤ 2 * f.card := by
  have hlen := h.length_add_le hb
  have hcard := noisy_le_card Quiet f
  omega

end Run
end Delivery
