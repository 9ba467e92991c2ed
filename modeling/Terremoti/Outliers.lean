import Terremoti.SeismoEvents

/-!
# How rare a sample is that raises an alert

However the samples come, a sample over the threshold is one that few samples of the period reach:
of `n` of them, with `sigmaIter` at `k`, fewer than one in `1 + k ^ 2`, by Cantelli's inequality
(`Period.countP_lt`). So after any run an alert takes such a sample (`alert_rank`).
-/

namespace Terremoti
open Moments

theorem Period.countP_lt {p : Period} (hsigma : 0 ≤ p.sigma) (hlen : 2 ≤ p.samples.length) {a : ℝ}
    (ha : p.limit < a) :
    p.samples.countP (fun x => decide (a ≤ x)) *
        (p.samples.length * p.sigma ^ 2 + (p.samples.length - 1)) <
      (p.samples.length * (p.samples.length - 1) : ℝ) := by
  have hn : (2 : ℝ) ≤ p.samples.length := by exact_mod_cast hlen
  have hS := sumSqDev_nonneg p.samples
  have hstddev := Real.sqrt_nonneg (sumSqDev p.samples / (p.samples.length - 1))
  have hlt : p.sigma * √(sumSqDev p.samples / (p.samples.length - 1)) < a - mean p.samples := by
    rw [Period.limit] at ha
    linarith
  have ht : 0 < a - mean p.samples := (mul_nonneg hsigma hstddev).trans_lt hlt
  have hcount := countP_mul_le ht p.samples
  rw [add_sub_cancel] at hcount
  have hsq : p.sigma ^ 2 * sumSqDev p.samples <
      (p.samples.length - 1) * (a - mean p.samples) ^ 2 := by
    have h := pow_lt_pow_left₀ hlt (mul_nonneg hsigma hstddev) two_ne_zero
    rw [mul_pow, Real.sq_sqrt (div_nonneg hS (by linarith)), ← mul_div_assoc,
      div_lt_iff₀ (by linarith)] at h
    linarith
  have hc : (0 : ℝ) ≤ p.samples.countP fun x => decide (a ≤ x) := Nat.cast_nonneg _
  generalize (p.samples.countP fun x => decide (a ≤ x) : ℝ) = c at hcount hc ⊢
  generalize (p.samples.length : ℝ) = n at hn hcount hsq ⊢
  generalize sumSqDev p.samples = S at hS hcount hsq
  generalize a - mean p.samples = t at ht hcount hsq
  rcases hc.eq_or_lt with rfl | hc
  · rw [zero_mul]
    exact mul_pos (by linarith) (by linarith)
  · have hbound : c * (n * (p.sigma ^ 2 * S) + (n - 1) * S) < n * (n - 1) * S := by
      calc c * (n * (p.sigma ^ 2 * S) + (n - 1) * S)
          < c * (n * ((n - 1) * t ^ 2) + (n - 1) * S) := by
            refine mul_lt_mul_of_pos_left (add_lt_add_left ?_ _) hc
            exact mul_lt_mul_of_pos_left hsq (by linarith)
        _ = (n - 1) * (c * (n * t ^ 2 + S)) := by ring
        _ ≤ (n - 1) * (n * S) := mul_le_mul_of_nonneg_left hcount (by linarith)
        _ = n * (n - 1) * S := by ring
    have hpull : c * (n * (p.sigma ^ 2 * S) + (n - 1) * S) = c * (n * p.sigma ^ 2 + (n - 1)) * S := by
      ring
    rw [hpull] at hbound
    exact lt_of_mul_lt_mul_right hbound hS

theorem History.threshold_eq_limit {h : History} (hlen : 2 ≤ h.current.samples.length) :
    h.threshold = h.current.limit := if_pos hlen

namespace Seismometer
variable {w : ℕ}

/-- After any run of ticks and configuration replies, a tick raises an alert only if fewer than one
in `1 + sigma ^ 2` of the samples of the period so far are as high as its own, or higher. -/
theorem alert_rank {steps : List (SeismoStep w ℝ)} (hs : (History.of steps).Short)
    (hsigma : 0 ≤ (History.of steps).current.sigma)
    (hlen : 2 ≤ (History.of steps).current.samples.length) {i : TickInput w ℝ}
    (halert : alerts ((run steps).tick i).2 ≠ []) :
    let p := (History.of steps).current
    p.samples.countP (fun x => decide (i.accel ≤ x)) *
        (p.samples.length * p.sigma ^ 2 + (p.samples.length - 1)) <
      (p.samples.length * (p.samples.length - 1) : ℝ) := by
  intro p
  have ht := run_tracks steps hs
  obtain ⟨db, hdb⟩ := List.exists_mem_of_ne_nil _ halert
  have hover := (eq_record_of_mem_alerts hdb).2
  rw [record, gt_real, ht.threshold, History.threshold_eq_limit hlen] at hover
  exact Period.countP_lt hsigma hlen (of_decide_eq_true hover)

/-- A tick all at once. -/
def tickOf (accel : ℝ) : TickInput 32 ℝ := ⟨0, accel, ⟨0, 0, 0, 0, 0⟩⟩

theorem alert_tickOf {s : Seismometer 32 ℝ} (h : s.accelero = true) (hclosed : s.inEvent = false)
    (accel : ℝ) : ((s.tick (tickOf accel)).1.inEvent = true ↔ s.quakeThreshold < accel) ∧
      (alerts (s.tick (tickOf accel)).2 ≠ [] ↔ s.quakeThreshold < accel) := by
  have hgt : (s.record (tickOf accel)).overThreshold = true ↔ s.quakeThreshold < accel := by
    rw [record, gt_real]
    exact decide_eq_true_iff
  rcases tick_event (tickOf accel) h with ⟨hopen, -⟩ | ⟨-, ⟨hover, hin, -, hsome⟩ |
    ⟨hquiet, hin, hnone⟩⟩
  · cases hopen.symm.trans hclosed
  · rw [← hgt, hover, hin, hsome]
    simp
  · rw [← hgt, hquiet, hin, hnone]
    simp

/-- A third sample as high as the first of two. -/
theorem alert_rank_third :
    let steps : List (SeismoStep 32 ℝ) := [.config (1 / 2), .tick (tickOf 0), .tick (tickOf (-2))]
    alerts ((run steps).tick (tickOf 0)).2 ≠ [] ∧
      ([0, -2].countP (fun x : ℝ => decide (0 ≤ x)) * (2 * (1 / 2) ^ 2 + (2 - 1)) : ℝ) <
        2 * (2 - 1) := by
  intro steps
  have hof : History.of steps = ⟨⟨1 / 2, [0, -2]⟩, [⟨3, []⟩]⟩ := rfl
  have hof₁ : History.of (w := 32) [.config (1 / 2), .tick (tickOf 0)] =
      ⟨⟨1 / 2, [0]⟩, [⟨3, []⟩]⟩ := rfl
  have hshort : (History.of steps).Short := by
    rw [hof]
    simp [History.Short, History.periods]
  have hshort₁ : (History.of (w := 32) [.config (1 / 2), .tick (tickOf 0)]).Short := by
    rw [hof₁]
    simp [History.Short, History.periods]
  have ht₀ := Tracks.init.config (w := 32) (1 / 2)
  have ht₁ := run_tracks _ hshort₁
  have ht := run_tracks steps hshort
  have hone : ∀ {sigma : ℝ} {xs : List ℝ}, xs.length < 2 →
      (⟨⟨sigma, xs⟩, [⟨3, []⟩]⟩ : History).threshold = 1 := by
    intro sigma xs hlen
    exact (if_neg (Nat.not_le.2 hlen)).trans (if_neg (by simp))
  -- neither sample is over the threshold, which stays at one up to the second
  have hquiet₁ : (run [.config (1 / 2), .tick (tickOf 0)] : Seismometer 32 ℝ).inEvent = false := by
    refine Bool.eq_false_iff.2 fun hin => ?_
    have h := (alert_tickOf ht₀.accelero rfl 0).1.1 hin
    rw [ht₀.threshold] at h
    exact absurd (hone (by simp) |>.symm.trans_lt h) (by norm_num)
  have hquiet : (run steps).inEvent = false := by
    refine Bool.eq_false_iff.2 fun hin => ?_
    have h := (alert_tickOf ht₁.accelero hquiet₁ (-2)).1.1 hin
    rw [ht₁.threshold, hof₁] at h
    exact absurd (hone (by simp) |>.symm.trans_lt h) (by norm_num)
  have halert : alerts ((run steps).tick (tickOf 0)).2 ≠ [] := by
    refine (alert_tickOf ht.accelero hquiet 0).2.2 ?_
    have hroot : √2 < 2 := by
      rw [Real.sqrt_lt' two_pos]
      norm_num
    have hlimit : (Period.mk (1 / 2) [0, -2]).limit = -1 + 1 / 2 * √2 := by
      simp only [Period.limit, mean, sumSqDev]
      norm_num
    rw [ht.threshold, History.threshold_eq_limit (by rw [hof]; exact le_rfl), hof, hlimit]
    linarith
  refine ⟨halert, ?_⟩
  have hrank := alert_rank hshort (by rw [hof]; norm_num) (by rw [hof]; exact le_rfl) halert
  rw [hof] at hrank
  exact_mod_cast hrank

end Seismometer
end Terremoti
