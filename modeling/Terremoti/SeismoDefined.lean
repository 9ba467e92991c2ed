import Terremoti.SeismoStats

/-!
# Where the statistics are numbers

`Checked` is the detector with its two divisions and its root checked: a division by zero or the root
of a negative number is a fault, `none`. `getCurrentSTDDEV` divides by `elements - 1`; at the start of
a period, with `elements` zero, this has wrapped and the quotient is zero, and from the second sample
on it is positive, as is the sum of squares. With one sample it is zero. So a run has no fault if and
only if no tick and no upload comes when the current period has one sample (`run_defined_iff`), and
then it is the run of `Seismometer`.
-/

namespace Terremoti
open Moments

/-- A step of the detector, or an upload of its statistics by `HTTPClient::getConfig`. -/
inductive DetectorStep (w : ℕ)
  | tick (i : TickInput w ℝ)
  | config (sigma : ℝ)
  | getConfig

namespace DetectorStep
variable {w : ℕ}

/-- An upload leaves the detector as it is. -/
def toSeismo : DetectorStep w → Option (SeismoStep w ℝ)
  | tick i => some (.tick i)
  | config sigma => some (.config sigma)
  | getConfig => none

/-- The step calls `getCurrentSTDDEV`. -/
def Evaluates : DetectorStep w → Prop
  | tick _ => True
  | config _ => False
  | getConfig => True

end DetectorStep

def seismoSteps {w : ℕ} (steps : List (DetectorStep w)) : List (SeismoStep w ℝ) :=
  steps.filterMap DetectorStep.toSeismo

/-- The samples since the last reset. -/
def sampleCount {w : ℕ} (steps : List (DetectorStep w)) : ℕ :=
  (History.of (seismoSteps steps)).current.samples.length

theorem sumSqDev_nonneg (xs : List ℝ) : 0 ≤ sumSqDev xs := by
  refine List.sum_nonneg fun y hy => ?_
  obtain ⟨x, -, rfl⟩ := List.mem_map.1 hy
  exact sq_nonneg _

/-- No period has more samples than the run has steps. -/
theorem History.length_le {w : ℕ} (steps : List (SeismoStep w ℝ)) :
    ∀ p ∈ (History.of steps).periods, p.samples.length ≤ steps.length := by
  induction steps using List.reverseRecOn with
  | nil =>
    intro p hp
    rw [List.mem_singleton.1 hp]
    exact le_rfl
  | append_singleton steps a ih =>
    have hof : History.of (steps ++ [a]) = (History.of steps).step a := by
      rw [History.of, List.foldl_append]
      rfl
    rw [hof, List.length_append, List.length_singleton]
    intro p hp
    cases a with
    | tick i =>
      rcases List.mem_cons.1 hp with rfl | hp
      · have hcurrent := ih _ (List.mem_cons_self ..)
        simpa [History.step] using hcurrent
      · exact (ih p (List.mem_cons_of_mem _ hp)).trans (Nat.le_succ _)
    | config sigma =>
      rcases List.mem_cons.1 hp with rfl | hp
      · exact Nat.zero_le _
      · exact (ih p hp).trans (Nat.le_succ _)

theorem History.short_of_length {w : ℕ} {steps : List (SeismoStep w ℝ)}
    (h : steps.length < 2 ^ 32) : (History.of steps).Short :=
  fun p hp => (History.length_le steps p hp).trans_lt h

namespace Seismometer.Checked

noncomputable section

/-- A quotient by an `unsigned int`. -/
def div (a : ℝ) (n : BitVec 32) : Option ℝ := if n = 0 then none else some (a / (n.toNat : ℝ))

def sqrt (a : ℝ) : Option ℝ := if a < 0 then none else some √a

def getCurrentSTDDEV (s : Statistics ℝ) : Option ℝ := do
  sqrt (← div s.partialStdDev (s.elements - 1))

def accumulate (val : ℝ) (s : Statistics ℝ) : Option (Statistics ℝ) := do
  let s := { s with elements := s.elements + 1 }
  let delta := val - s.partialAvg
  let step ← div delta s.elements
  let s := { s with partialAvg := s.partialAvg + step }
  some { s with partialStdDev := s.partialStdDev + delta * (val - s.partialAvg) }

def addValueToAvgVar (val : ℝ) (s : Statistics ℝ) : Option (Statistics ℝ) := do
  let s ← accumulate val s
  if s.elements > 1 then
    let stddev ← getCurrentSTDDEV s
    some { s with quakeThreshold := s.partialAvg + stddev * s.getSigmaIter }
  else some s

/-- What `HTTPClient::getConfig` sends of the detector. -/
def upload (s : Statistics ℝ) : Option (ℝ × ℝ) := do
  let stddev ← getCurrentSTDDEV s
  some (s.getCurrentAVG, stddev)

variable {w : ℕ}

/-- `detectionStdDev`, the argument of `traceValue`, and the update. What comes of their values is in
`Seismometer.tick`. -/
def tick (i : TickInput w ℝ) (s : Seismometer w ℝ) : Option (Seismometer w ℝ × List (Effect w ℝ)) :=
  if s.accelero = false then some (s, []) else do
    let _ ← getCurrentSTDDEV s.toStatistics
    let _ ← getCurrentSTDDEV s.toStatistics
    let _ ← addValueToAvgVar i.accel s.toStatistics
    some (s.tick i)

def step (s : Seismometer w ℝ) : DetectorStep w → Option (Seismometer w ℝ)
  | .tick i => do
    let r ← tick i s
    some r.1
  | .config sigma => some (s.configure sigma)
  | .getConfig => do
    let _ ← upload s.toStatistics
    some s

def run (steps : List (DetectorStep w)) : Option (Seismometer w ℝ) :=
  steps.foldl (fun s a => s.bind (step · a)) (some .init)

end

/-! ### One evaluation -/

section Evaluation
variable {xs : List ℝ} {s : Statistics ℝ}

theorem getCurrentSTDDEV_single (h : Summarises xs s) (hone : xs.length = 1) :
    getCurrentSTDDEV s = none := by
  have hel : s.elements - 1 = 0 := by
    have helements := h.elements
    bv_omega
  rw [getCurrentSTDDEV, hel, div, if_pos rfl]
  rfl

theorem getCurrentSTDDEV_eq (h : Summarises xs s) (hne : xs.length ≠ 1) :
    getCurrentSTDDEV s = some s.getCurrentSTDDEV := by
  have hel : s.elements - 1 ≠ 0 := by
    have helements := h.elements
    bv_omega
  have hnonneg : 0 ≤ s.partialStdDev / ((s.elements - 1).toNat : ℝ) := by
    rw [h.dev]
    exact div_nonneg (sumSqDev_nonneg xs) (Nat.cast_nonneg _)
  rw [getCurrentSTDDEV, div, if_neg hel, Option.bind_eq_bind, Option.bind_some, sqrt,
    if_neg (not_lt.2 hnonneg)]
  rfl

theorem accumulate_eq (h : Summarises xs s) (hlen : xs.length + 1 < 2 ^ 32) (x : ℝ) :
    accumulate x s = some (s.accumulate x) := by
  have hel : s.elements + 1 ≠ 0 := by
    have helements := h.elements
    bv_omega
  rw [accumulate, div, if_neg hel]
  rfl

theorem addValueToAvgVar_eq (h : Summarises xs s) (hlen : xs.length + 1 < 2 ^ 32) (x : ℝ) :
    addValueToAvgVar x s = some (s.addValueToAvgVar x) := by
  have h' := h.accumulate x hlen
  rw [addValueToAvgVar, accumulate_eq h hlen, Option.bind_eq_bind, Option.bind_some,
    Statistics.addValueToAvgVar]
  split
  · rename_i hmore
    have hne : (xs ++ [x]).length ≠ 1 := by
      have htwo := h'.one_lt_elements.1 hmore
      omega
    rw [getCurrentSTDDEV_eq h' hne]
    rfl
  · rfl

end Evaluation

/-! ### One step -/

section Step
variable {w : ℕ} {h : History} {s : Seismometer w ℝ}

noncomputable def next (s : Seismometer w ℝ) (a : DetectorStep w) : Seismometer w ℝ :=
  a.toSeismo.elim s s.step

theorem step_of_single (ht : Tracks h s) (hone : h.current.samples.length = 1) {a : DetectorStep w}
    (ha : a.Evaluates) : step s a = none := by
  have hnone := getCurrentSTDDEV_single ht.current hone
  cases a with
  | tick i =>
    rw [step, tick, if_neg (by simp [ht.accelero]), hnone]
    rfl
  | config sigma => cases ha
  | getConfig =>
    rw [step, upload, hnone]
    rfl

theorem step_eq (ht : Tracks h s) {a : DetectorStep w}
    (ha : a.Evaluates → h.current.samples.length ≠ 1)
    (hshort : ∀ b ∈ a.toSeismo, (h.step b).Short) : step s a = some (next s a) := by
  cases a with
  | tick i =>
    have hlen : h.current.samples.length + 1 < 2 ^ 32 := by
      simpa [History.step] using hshort (.tick i) rfl _ (List.mem_cons_self ..)
    rw [step, tick, if_neg (by simp [ht.accelero]), getCurrentSTDDEV_eq ht.current (ha trivial),
      addValueToAvgVar_eq ht.current hlen]
    rfl
  | config sigma => rfl
  | getConfig =>
    rw [step, upload, getCurrentSTDDEV_eq ht.current (ha trivial)]
    rfl

end Step

/-! ### Whole runs -/

section Run
variable {w : ℕ}

/-- No tick and no upload comes when there is one sample. -/
def NeverSingle (steps : List (DetectorStep w)) : Prop :=
  ∀ k, (h : k < steps.length) → steps[k].Evaluates → sampleCount (steps.take k) ≠ 1

theorem neverSingle_concat {steps : List (DetectorStep w)} {a : DetectorStep w} :
    NeverSingle (steps ++ [a]) ↔
      NeverSingle steps ∧ (a.Evaluates → sampleCount steps ≠ 1) := by
  constructor
  · intro h
    refine ⟨fun k hk => ?_, ?_⟩
    · have hk' := h k (by simp; omega)
      rwa [List.getElem_append_left hk, List.take_append_of_le_length hk.le] at hk'
    · have hlast := h steps.length (by simp)
      rwa [List.getElem_concat_length rfl, List.take_left] at hlast
  · rintro ⟨hinit, hlast⟩ k hk
    rcases Nat.lt_or_ge k steps.length with hlt | hge
    · rw [List.getElem_append_left hlt, List.take_append_of_le_length hlt.le]
      exact hinit k hlt
    · have heq : k = steps.length := by
        rw [List.length_append, List.length_singleton] at hk
        omega
      subst heq
      rw [List.getElem_concat_length rfl, List.take_left]
      exact hlast

theorem seismoSteps_concat (steps : List (DetectorStep w)) (a : DetectorStep w) :
    seismoSteps (steps ++ [a]) = seismoSteps steps ++ a.toSeismo.toList := by
  rw [seismoSteps, List.filterMap_append]
  cases a <;> rfl

theorem run_concat (steps : List (DetectorStep w)) (a : DetectorStep w) :
    run (steps ++ [a]) = (run steps).bind (step · a) := by
  rw [run, List.foldl_append, List.foldl_cons, List.foldl_nil]
  rfl

theorem seismoRun_concat (steps : List (DetectorStep w)) (a : DetectorStep w) :
    Seismometer.run (seismoSteps (steps ++ [a])) =
      next (Seismometer.run (seismoSteps steps)) a := by
  rw [seismoSteps_concat, Seismometer.run, List.foldl_append]
  cases a <;> rfl

theorem short_concat {steps : List (DetectorStep w)} {a : DetectorStep w}
    (hs : (History.of (seismoSteps (steps ++ [a]))).Short) :
    (History.of (seismoSteps steps)).Short ∧
      ∀ b ∈ a.toSeismo, ((History.of (seismoSteps steps)).step b).Short := by
  rw [seismoSteps_concat, History.of, List.foldl_append] at hs
  cases a with
  | tick i =>
    have hs' : ((History.of (seismoSteps steps)).step (.tick i)).Short := hs
    refine ⟨hs'.of_step, ?_⟩
    rintro b ⟨⟩
    exact hs'
  | config sigma =>
    have hs' : ((History.of (seismoSteps steps)).step
      (.config sigma : SeismoStep w ℝ)).Short := hs
    refine ⟨hs'.of_step, ?_⟩
    rintro b ⟨⟩
    exact hs'
  | getConfig =>
    refine ⟨hs, ?_⟩
    rintro b ⟨⟩

/-- A run without a fault is the run of the detector. -/
theorem run_spec (steps : List (DetectorStep w)) (hs : (History.of (seismoSteps steps)).Short) :
    (NeverSingle steps → run steps = some (Seismometer.run (seismoSteps steps))) ∧
      (¬NeverSingle steps → run steps = none) := by
  induction steps using List.reverseRecOn with
  | nil => exact ⟨fun _ => rfl, fun h => absurd (fun k hk => absurd hk (Nat.not_lt_zero k)) h⟩
  | append_singleton steps a ih =>
    obtain ⟨hinit, hlast⟩ := short_concat hs
    obtain ⟨hsound, hfault⟩ := ih hinit
    have ht := run_tracks (seismoSteps steps) hinit
    rw [neverSingle_concat, run_concat, seismoRun_concat]
    constructor
    · rintro ⟨hnever, ha⟩
      rw [hsound hnever, Option.bind_some, step_eq ht ha hlast]
    · intro h
      by_cases hnever : NeverSingle steps
      · have ha : a.Evaluates ∧ sampleCount steps = 1 := by
          by_contra hnot
          exact h ⟨hnever, fun hev hone => hnot ⟨hev, hone⟩⟩
        rw [hsound hnever, Option.bind_some, step_of_single ht ha.2 ha.1]
      · rw [hfault hnever, Option.bind_none]

end Run

end Seismometer.Checked

/-- Every division and every root of a run is defined if and only if no tick and no upload comes when
there is one sample since the last reset; the values are then those of the detector. -/
theorem run_defined_iff {w : ℕ} (steps : List (DetectorStep w))
    (hs : (History.of (seismoSteps steps)).Short) :
    (Seismometer.Checked.run steps ≠ none ↔ Seismometer.Checked.NeverSingle steps) ∧
      ∀ s, Seismometer.Checked.run steps = some s → s = Seismometer.run (seismoSteps steps) := by
  obtain ⟨hsound, hfault⟩ := Seismometer.Checked.run_spec steps hs
  by_cases h : Seismometer.Checked.NeverSingle steps
  · rw [hsound h]
    refine ⟨iff_of_true (by simp) h, ?_⟩
    rintro s ⟨⟩
    rfl
  · rw [hfault h]
    refine ⟨iff_of_false (by simp) h, ?_⟩
    rintro s ⟨⟩

/-- A tick with the acceleration `x`. -/
def sampleStep (x : ℝ) : DetectorStep 32 := .tick ⟨0, x, ⟨0, 0, 0, 0, 0⟩⟩

/-- An upload before the first sample, and a reset after it. -/
theorem run_defined_reset :
    let steps := [.getConfig, sampleStep 9, .config 3, .getConfig]
    (History.of (seismoSteps steps)).Short ∧ Seismometer.Checked.run steps ≠ none := by
  intro steps
  have hs : (History.of (seismoSteps steps)).Short := History.short_of_length (by decide)
  refine ⟨hs, (run_defined_iff steps hs).1.2 ?_⟩
  intro k hk hev
  have hcases : k = 0 ∨ k = 1 ∨ k = 2 ∨ k = 3 := by
    have hlt : k < 4 := hk
    omega
  rcases hcases with rfl | rfl | rfl | rfl
  · exact Nat.zero_ne_one
  · exact Nat.zero_ne_one
  · cases hev
  · exact Nat.zero_ne_one

/-- The second tick, and an upload after the first: the quotient is zero by zero. -/
theorem run_undefined_single :
    (History.of (seismoSteps [sampleStep 9, sampleStep 9])).Short ∧
      Seismometer.Checked.run [sampleStep 9, sampleStep 9] = none ∧
      Seismometer.Checked.run [sampleStep 9, .getConfig] = none := by
  have hs : (History.of (seismoSteps [sampleStep 9, sampleStep 9])).Short :=
    History.short_of_length (by decide)
  have hfault : ∀ a : DetectorStep 32, a.Evaluates →
      ¬Seismometer.Checked.NeverSingle [sampleStep 9, a] :=
    fun a ha hnever => hnever 1 (by simp) ha rfl
  refine ⟨hs, (Seismometer.Checked.run_spec _ hs).2 (hfault _ trivial), ?_⟩
  exact (Seismometer.Checked.run_spec _ (History.short_of_length (by decide))).2
    (hfault _ trivial)

end Terremoti
