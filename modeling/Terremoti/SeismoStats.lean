import Terremoti.Lib.Moments
import Terremoti.Seismometer

/-!
# The detector's statistics over whole runs

A run is any sequence of ticks and of configuration replies (`setSigmaIter` followed by
`resetLastPeriod`). `History` is what the run means: the samples of the current period and of the
earlier ones, each with the `sigmaIter` in force, and `History.threshold` is the threshold read off
them by batch formulas. `Tracks` ties the record to the history; every step keeps it
(`Tracks.step`), so it holds after every run (`run_tracks`).
-/

namespace Terremoti
open Moments

/-- A step of the detector: a tick, or the pair of calls `Config::checkServerConfig` makes. -/
inductive SeismoStep (w : ℕ) (D : Type)
  | tick (i : TickInput w D)
  | config (sigma : D)

namespace Seismometer
variable {w : ℕ} {D : Type} [Double D]

def configure (sigma : D) (s : Seismometer w D) : Seismometer w D :=
  { s with toStatistics := (s.toStatistics.setSigmaIter sigma).resetLastPeriod }

def step (s : Seismometer w D) : SeismoStep w D → Seismometer w D
  | .tick i => (s.tick i).1
  | .config sigma => s.configure sigma

def run (steps : List (SeismoStep w D)) : Seismometer w D := steps.foldl step init

end Seismometer

/-! ### What a run means -/

/-- The samples between two resets and the `sigmaIter` in force. -/
structure Period where
  sigma : ℝ
  samples : List ℝ

noncomputable def Period.limit (p : Period) : ℝ :=
  mean p.samples + p.sigma * √(sumSqDev p.samples / (p.samples.length - 1))

/-- The limit of the most recent period with at least two samples (newest period first), `1` if
there is none. -/
noncomputable def threshold : List Period → ℝ
  | [] => 1
  | p :: earlier => if 2 ≤ p.samples.length then p.limit else threshold earlier

structure History where
  current : Period
  earlier : List Period

namespace History

def init : History := ⟨⟨3, []⟩, []⟩

def periods (h : History) : List Period := h.current :: h.earlier

noncomputable def threshold (h : History) : ℝ := Terremoti.threshold h.periods

def step {w : ℕ} (h : History) : SeismoStep w ℝ → History
  | .tick i => { h with current := { h.current with samples := h.current.samples ++ [i.accel] } }
  | .config sigma => ⟨⟨sigma, []⟩, h.periods⟩

def of {w : ℕ} (steps : List (SeismoStep w ℝ)) : History := steps.foldl step init

def Short (h : History) : Prop := ∀ p ∈ h.periods, p.samples.length < 2 ^ 32

theorem Short.of_step {w : ℕ} {h : History} {a : SeismoStep w ℝ} (hs : (h.step a).Short) :
    h.Short := by
  cases a with
  | tick i =>
    intro p hp
    rcases List.mem_cons.1 hp with rfl | hp
    · have := hs _ (List.mem_cons_self ..)
      simp only [step, List.length_append] at this
      omega
    · exact hs p (List.mem_cons_of_mem _ hp)
  | config sigma => exact fun p hp => hs p (List.mem_cons_of_mem _ hp)

end History

/-! ### One update -/

/-- The statistics are the batch statistics of `xs`. -/
structure Summarises (xs : List ℝ) (s : Statistics ℝ) : Prop where
  elements : s.elements.toNat = xs.length
  avg : s.partialAvg = mean xs
  dev : s.partialStdDev = sumSqDev xs

namespace Summarises
variable {xs : List ℝ} {s : Statistics ℝ}

theorem stddev (h : Summarises xs s) (hne : xs ≠ []) :
    s.getCurrentSTDDEV = √(sumSqDev xs / (xs.length - 1)) := by
  have hpos := List.length_pos_iff.2 hne
  have hlt := s.elements.isLt
  have hsub : (s.elements - 1).toNat = xs.length - 1 := by
    rw [← h.elements] at hpos ⊢
    bv_omega
  rw [Statistics.getCurrentSTDDEV, hsub, h.dev, sqrt_real, Nat.cast_pred hpos]

theorem one_lt_elements (h : Summarises xs s) : s.elements > 1 ↔ 2 ≤ xs.length := by
  rw [← h.elements]
  constructor <;> intro _ <;> bv_omega

/-- A sample taken in is one more in the batch. -/
theorem takes {s' : Statistics ℝ} {x : ℝ} (h : Summarises xs s) (htakes : s.Takes x s')
    (hlen : xs.length + 1 < 2 ^ 32) : Summarises (xs ++ [x]) s' := by
  have hel : s'.elements.toNat = xs.length + 1 := by
    rw [htakes.elements]
    have := h.elements
    bv_omega
  have havg : s'.partialAvg = mean (xs ++ [x]) := by
    rw [htakes.partialAvg, h.avg, hel, mean_concat]
  refine ⟨?_, havg, ?_⟩
  · rw [List.length_append, List.length_singleton, hel]
  · rw [htakes.partialStdDev, havg, h.avg, h.dev, sumSqDev_concat]

theorem accumulate (h : Summarises xs s) (x : ℝ) (hlen : xs.length + 1 < 2 ^ 32) :
    Summarises (xs ++ [x]) (s.accumulate x) := h.takes ⟨rfl, rfl, rfl⟩ hlen

theorem addValueToAvgVar (h : Summarises xs s) (x : ℝ) (hlen : xs.length + 1 < 2 ^ 32) :
    Summarises (xs ++ [x]) (s.addValueToAvgVar x) := h.takes (s.takes_addValueToAvgVar x) hlen

theorem quakeThreshold (h : Summarises xs s) (x : ℝ) (hlen : xs.length + 1 < 2 ^ 32) :
    (s.addValueToAvgVar x).quakeThreshold =
      if 2 ≤ (xs ++ [x]).length then (Period.mk s.sigmaIter (xs ++ [x])).limit
      else s.quakeThreshold := by
  have h' := h.accumulate x hlen
  unfold Statistics.addValueToAvgVar
  simp only [h'.one_lt_elements]
  split
  · show (s.accumulate x).partialAvg + (s.accumulate x).getCurrentSTDDEV * s.sigmaIter = _
    rw [h'.avg, h'.stddev (by simp), Period.limit, mul_comm]
  · rfl

end Summarises

/-! ### Whole runs -/

/-- The record says of the history what it should. -/
structure Tracks {w : ℕ} (h : History) (s : Seismometer w ℝ) : Prop where
  accelero : s.accelero = true
  sigma : s.sigmaIter = h.current.sigma
  current : Summarises h.current.samples s.toStatistics
  threshold : s.quakeThreshold = h.threshold

namespace Tracks
variable {w : ℕ} {h : History} {s : Seismometer w ℝ}

theorem init : Tracks .init (Seismometer.init : Seismometer w ℝ) where
  accelero := rfl
  sigma := by simp [Seismometer.init, Statistics.init, History.init]
  current := by constructor <;> simp [Seismometer.init, Statistics.init, History.init]
  threshold := by
    simp [Seismometer.init, Statistics.init, History.init, History.threshold, History.periods,
      Terremoti.threshold]

theorem tick (ht : Tracks h s) (i : TickInput w ℝ) (hs : (h.step (.tick i)).Short) :
    Tracks (h.step (.tick i)) (s.tick i).1 := by
  have hlen : h.current.samples.length + 1 < 2 ^ 32 := by
    simpa [History.step] using hs _ (List.mem_cons_self ..)
  have hstats := Seismometer.tick_toStatistics i ht.accelero
  refine ⟨by rw [Seismometer.tick_accelero, ht.accelero], ?_, ?_, ?_⟩
  · rw [hstats, Statistics.addValueToAvgVar_sigmaIter, ht.sigma]; rfl
  · rw [hstats]; exact ht.current.addValueToAvgVar i.accel hlen
  · rw [hstats, ht.current.quakeThreshold i.accel hlen, ht.threshold, ht.sigma]
    simp only [History.threshold, History.periods, History.step, Terremoti.threshold]
    by_cases hn : 2 ≤ (h.current.samples ++ [i.accel]).length
    · rw [if_pos hn, if_pos hn]
    · -- the first sample of a period leaves the threshold of the earlier ones in place
      have hn' : ¬ 2 ≤ h.current.samples.length := by
        rw [List.length_append] at hn
        omega
      rw [if_neg hn, if_neg hn, if_neg hn']

theorem config (ht : Tracks h s) (sigma : ℝ) :
    Tracks (h.step (.config sigma : SeismoStep w ℝ)) (s.configure sigma) where
  accelero := ht.accelero
  sigma := rfl
  current := by
    constructor <;>
      simp [Seismometer.configure, Statistics.setSigmaIter, Statistics.resetLastPeriod, History.step]
  threshold := by
    show s.quakeThreshold = _
    rw [ht.threshold]
    simp [History.threshold, History.periods, History.step, Terremoti.threshold]

theorem step (ht : Tracks h s) (a : SeismoStep w ℝ) (hs : (h.step a).Short) :
    Tracks (h.step a) (s.step a) := by
  cases a with
  | tick i => exact ht.tick i hs
  | config sigma => exact ht.config sigma

end Tracks

theorem run_tracks {w : ℕ} (steps : List (SeismoStep w ℝ)) (hs : (History.of steps).Short) :
    Tracks (History.of steps) (Seismometer.run steps) := by
  induction steps using List.reverseRecOn with
  | nil => exact Tracks.init
  | append_singleton steps a ih =>
    simp only [History.of, Seismometer.run, List.foldl_append, List.foldl_cons, List.foldl_nil] at hs ⊢
    exact (ih hs.of_step).step a hs

/-- After every run the record holds the number of samples of the current period, their mean and
their squared deviations, and a tick compares its sample against the threshold of the history
before that sample: it raises no alert but on a larger one, and does on each if no event is open. -/
theorem run_statistics {w : ℕ} (steps : List (SeismoStep w ℝ)) (hs : (History.of steps).Short) :
    let s := Seismometer.run steps
    let h := History.of steps
    s.elements.toNat = h.current.samples.length ∧
      s.partialAvg = mean h.current.samples ∧
      s.partialStdDev = sumSqDev h.current.samples ∧
      s.quakeThreshold = h.threshold ∧
      ∀ i, (s.record i).overThreshold = decide (h.threshold < i.accel) ∧
        (∀ db ∈ Seismometer.alerts (s.tick i).2, h.threshold < db.accel) ∧
        (s.inEvent = false → h.threshold < i.accel →
          Seismometer.alerts (s.tick i).2 = [s.record i]) := by
  intro s h
  have ht : Tracks h s := run_tracks steps hs
  refine ⟨ht.current.elements, ht.current.avg, ht.current.dev, ht.threshold, fun i => ?_⟩
  have hrecord : (s.record i).overThreshold = decide (h.threshold < i.accel) := by
    rw [Seismometer.record, ht.threshold, gt_real]
  refine ⟨hrecord, fun db hdb => ?_, fun hclosed hlt => ?_⟩
  · obtain ⟨rfl, hover⟩ := Seismometer.eq_record_of_mem_alerts hdb
    rw [hrecord, decide_eq_true_eq] at hover
    exact hover
  · rcases Seismometer.tick_event i ht.accelero with
      ⟨hopen, -⟩ | ⟨-, ⟨-, -, -, halerts⟩ | ⟨hunder, -⟩⟩
    · rw [hclosed] at hopen
      cases hopen
    · exact halerts
    · rw [hrecord, decide_eq_false_iff_not] at hunder
      exact absurd hlt hunder

theorem run_statistics_carried :
    let sample (x : ℝ) : SeismoStep 32 ℝ := .tick ⟨0, x, ⟨0, 0, 0, 0, 0⟩⟩
    (Seismometer.run [sample 1, sample 3, .config 5, sample 8]).quakeThreshold = 2 + 3 * √2 := by
  intro sample
  have h := (run_statistics [sample 1, sample 3, .config 5, sample 8] (by
    intro p hp
    simp only [History.of, List.foldl_cons, List.foldl_nil, History.step, History.init,
      History.periods, sample, List.mem_cons, List.not_mem_nil, or_false] at hp
    rcases hp with rfl | rfl <;> simp)).2.2.2.1
  rw [h]
  simp only [History.of, List.foldl_cons, List.foldl_nil, History.step, History.init,
    History.threshold, History.periods, sample, threshold, Period.limit, mean, sumSqDev]
  norm_num

end Terremoti
