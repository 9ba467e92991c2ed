import Mathlib.Data.List.Chain
import Terremoti.SeismoStats

/-!
# The event state machine over whole runs

Runs on the Raspberry Pi's 32-bit `unsigned long`, against a clock whose counter showed `start` at
real time `0`: each tick carries the real times of its clock reads, and between ticks the
configuration, or any other cause, may change the threshold. `EventInv` relates the record to the
real start times of the alerts sent so far: while an event is open, `lastEventWas` is the start of
the last one and the last tick looked at the clock less than five seconds after it, so the next
difference has not wrapped.
-/

namespace Terremoti

structure Timed (D : Type) where
  ts : BitVec 32
  accel : D
  time : Reads ℕ

def Reads.map {τ τ' : Type} (f : τ → τ') (r : Reads τ) : Reads τ' :=
  ⟨f r.statTest, f r.statStamp, f r.coolTest, f r.coolTest', f r.eventStart⟩

def Timed.input {D : Type} (start : BitVec 32) (τ : Timed D) : TickInput 32 D :=
  ⟨τ.ts, τ.accel, τ.time.map (Counter.read start)⟩

/-- A tick, a configuration reply, or any other change of the threshold. -/
inductive EventStep (D : Type)
  | tick (τ : Timed D)
  | config (sigma : D)
  | threshold (q : D)

structure Observed (D : Type) where
  s : Seismometer 32 D
  starts : List ℕ

structure Reads.Ordered (r : Reads ℕ) : Prop where
  stamp : r.statTest ≤ r.statStamp
  cool : r.statStamp ≤ r.coolTest
  cool' : r.coolTest ≤ r.coolTest'
  start : r.coolTest' ≤ r.eventStart

/-- The next tick comes after the last, and its cool-down test less than `2 ^ 32 - 5000` ms after
the last one's. -/
structure Reads.Follows (r r' : Reads ℕ) : Prop where
  after : r.eventStart ≤ r'.statTest
  apart : r'.coolTest < r.coolTest + (2 ^ 32 - 5000)

def ticks {D : Type} (steps : List (EventStep D)) : List (Reads ℕ) :=
  steps.filterMap fun | .tick τ => some τ.time | _ => none

def WellTimed {D : Type} (steps : List (EventStep D)) : Prop :=
  (∀ r ∈ ticks steps, r.Ordered) ∧ (ticks steps).IsChain Reads.Follows

theorem WellTimed.of_append {D : Type} {pre post : List (EventStep D)}
    (h : WellTimed (pre ++ post)) : WellTimed pre := by
  simp only [WellTimed, ticks, List.filterMap_append] at h ⊢
  exact ⟨fun r hr => h.1 r (List.mem_append_left _ hr), (List.isChain_append.1 h.2).1⟩

theorem WellTimed.last {D : Type} {steps : List (EventStep D)} {τ : Timed D}
    (h : WellTimed (steps ++ [.tick τ])) :
    τ.time.Ordered ∧ ∀ r ∈ (ticks steps).getLast?, r.Follows τ.time := by
  simp only [WellTimed, ticks, List.filterMap_append, List.filterMap_cons, List.filterMap_nil] at h
  exact ⟨h.1 _ (by simp), fun r hr => (List.isChain_append.1 h.2).2.2 r hr _ rfl⟩

/-! ### Whole runs -/

namespace Observed
variable {D : Type} [Double D]

def init : Observed D := ⟨.init, []⟩

def step (start : BitVec 32) (o : Observed D) : EventStep D → Observed D
  | .tick τ =>
    let r := o.s.tick (τ.input start)
    ⟨r.1, o.starts ++ (Seismometer.alerts r.2).map fun _ => τ.time.eventStart⟩
  | .config sigma => { o with s := o.s.configure sigma }
  | .threshold q => { o with s := { o.s with quakeThreshold := q } }

def run (start : BitVec 32) (steps : List (EventStep D)) : Observed D :=
  steps.foldl (step start) init

theorem run_concat (start : BitVec 32) (steps : List (EventStep D)) (a : EventStep D) :
    run start (steps ++ [a]) = (run start steps).step start a := by
  simp [run, List.foldl_append]

end Observed

/-- The record against the real start times of the alerts; `last` is the last tick's reads. -/
structure EventInv {D : Type} (start : BitVec 32) (last : Option (Reads ℕ)) (o : Observed D) :
    Prop where
  accelero : o.s.accelero = true
  spaced : o.starts.Pairwise fun t t' => t + 5000 ≤ t'
  opened : o.s.inEvent = true → ∃ t₀ r, o.starts.getLast? = some t₀ ∧
    o.s.lastEventWas = Counter.read start t₀ ∧
    last = some r ∧ t₀ ≤ r.eventStart ∧ r.coolTest < t₀ + 5000
  closed : o.s.inEvent = false → ∀ t ∈ o.starts, ∃ r, last = some r ∧ t + 5000 ≤ r.eventStart

namespace EventInv
variable {D : Type} {start : BitVec 32} {last : Option (Reads ℕ)} {o : Observed D}

theorem init [Double D] : EventInv start none (Observed.init : Observed D) where
  accelero := rfl
  spaced := List.Pairwise.nil
  opened h := by simp [Observed.init, Seismometer.init] at h
  closed _ t ht := by simp [Observed.init] at ht

/-- While an event is open, the first cool-down difference is the real time since its start. -/
theorem elapsed (h : EventInv start last o) {τ : Timed D} (hord : τ.time.Ordered)
    (hlast : ∀ r ∈ last, r.Follows τ.time) {t₀ : ℕ} (ht₀ : o.starts.getLast? = some t₀)
    (he : o.s.inEvent = true) :
    ((τ.input start).clock.coolTest.setWidth 32 - o.s.lastEventWas ≥ 5000 ↔
      t₀ + 5000 ≤ τ.time.coolTest) := by
  obtain ⟨t₁, r, ht₁, hwas, hr, hle, hlt⟩ := h.opened he
  obtain rfl : t₁ = t₀ := Option.some.inj (ht₁.symm.trans ht₀)
  have hf := hlast r hr
  have hafter := hf.after
  have hapart := hf.apart
  have h1 := hord.stamp
  have h2 := hord.cool
  have hsub := Counter.toNat_read_sub_of_lt start (t := t₁) (u := τ.time.coolTest)
    (by omega) (by omega)
  have hc : (τ.input start).clock.coolTest.setWidth 32 = Counter.read start τ.time.coolTest :=
    BitVec.setWidth_eq _
  rw [hc, hwas, ge_iff_le, BitVec.le_def, hsub]
  show 5000 ≤ _ ↔ _
  omega

/-- The tick finds no event open, or closes it: all earlier alerts are five seconds old. -/
theorem starts_le (h : EventInv start last o) {τ : Timed D} (hord : τ.time.Ordered)
    (hlast : ∀ r ∈ last, r.Follows τ.time)
    (hcool : o.s.inEvent = true →
      (τ.input start).clock.coolTest.setWidth 32 - o.s.lastEventWas ≥ 5000) :
    ∀ t ∈ o.starts, t + 5000 ≤ τ.time.coolTest := by
  intro t ht
  cases he : o.s.inEvent with
  | false =>
    obtain ⟨r, hr, hle⟩ := h.closed he t ht
    have hafter := (hlast r hr).after
    have h1 := hord.stamp
    have h2 := hord.cool
    omega
  | true =>
    obtain ⟨t₀, r, ht₀, -⟩ := h.opened he
    have hge := (h.elapsed hord hlast ht₀ he).1 (hcool he)
    obtain ⟨l, hl⟩ := List.getLast?_eq_some_iff.1 ht₀
    have hsp := h.spaced
    rw [hl, List.pairwise_append] at hsp
    rw [hl, List.mem_append, List.mem_singleton] at ht
    rcases ht with ht | rfl
    · have := hsp.2.2 t ht t₀ (by simp)
      omega
    · exact hge

variable [Double D]

theorem tick (h : EventInv start last o) {τ : Timed D} (hord : τ.time.Ordered)
    (hlast : ∀ r ∈ last, r.Follows τ.time) :
    EventInv start (some τ.time) (o.step start (.tick τ)) := by
  have h1 := hord.stamp
  have h2 := hord.cool
  have h3 := hord.cool'
  have h4 := hord.start
  have hacc : (o.s.tick (τ.input start)).1.accelero = true :=
    (Seismometer.tick_accelero _ _).trans h.accelero
  rcases Seismometer.tick_event (τ.input start) h.accelero with
    ⟨he, hcool, hin, hwas, hal⟩ | ⟨hcool, ⟨-, hin, hwas, hal⟩ | ⟨-, hin, hal⟩⟩
  · -- the event stays open: its start is the last alert's, seen less than five seconds later
    have hst : (o.step start (.tick τ)).starts = o.starts := by simp [Observed.step, hal]
    obtain ⟨t₀, r, ht₀, hwas₀, hr, hle, -⟩ := h.opened he
    have hnot := mt (h.elapsed hord hlast ht₀ he).2 hcool
    have hafter := (hlast r hr).after
    refine ⟨hacc, by rw [hst]; exact h.spaced, fun _ => ?_, fun hf => ?_⟩
    · exact ⟨t₀, τ.time, by rw [hst, ht₀], hwas.trans hwas₀, rfl, by omega, by omega⟩
    · exact absurd (hin.symm.trans hf) (by simp)
  · -- a new event: it starts after the first cool-down test, which every earlier alert is old for
    have hst : (o.step start (.tick τ)).starts = o.starts ++ [τ.time.eventStart] := by
      simp [Observed.step, hal]
    have hold := h.starts_le hord hlast hcool
    refine ⟨hacc, ?_, fun _ => ?_, fun hf => ?_⟩
    · rw [hst, List.pairwise_append]
      refine ⟨h.spaced, List.pairwise_singleton _ _, fun t ht t' ht' => ?_⟩
      obtain rfl := List.mem_singleton.1 ht'
      have := hold t ht
      omega
    · refine ⟨τ.time.eventStart, τ.time, by rw [hst]; simp, ?_, rfl, Nat.le_refl _, by omega⟩
      exact hwas.trans (BitVec.setWidth_eq _)
    · exact absurd (hin.symm.trans hf) (by simp)
  · have hst : (o.step start (.tick τ)).starts = o.starts := by simp [Observed.step, hal]
    have hold := h.starts_le hord hlast hcool
    refine ⟨hacc, by rw [hst]; exact h.spaced, fun hf => ?_, fun _ t ht => ?_⟩
    · exact absurd (hin.symm.trans hf) (by simp)
    · rw [hst] at ht
      have := hold t ht
      exact ⟨τ.time, rfl, by omega⟩

theorem run {steps : List (EventStep D)} (hw : WellTimed steps) :
    EventInv start (ticks steps).getLast? (Observed.run start steps) := by
  induction steps using List.reverseRecOn with
  | nil => exact EventInv.init
  | append_singleton steps a ih =>
    have h := ih hw.of_append
    rw [Observed.run_concat]
    cases a with
    | tick τ =>
      obtain ⟨hord, hlast⟩ := hw.last
      have hl : (ticks (steps ++ [EventStep.tick τ])).getLast? = some τ.time := by simp [ticks]
      rw [hl]
      exact h.tick hord hlast
    | config sigma =>
      have hl : ticks (steps ++ [EventStep.config sigma]) = ticks steps := by simp [ticks]
      rw [hl]
      exact ⟨h.accelero, h.spaced, h.opened, h.closed⟩
    | threshold q =>
      have hl : ticks (steps ++ [EventStep.threshold q]) = ticks steps := by simp [ticks]
      rw [hl]
      exact ⟨h.accelero, h.spaced, h.opened, h.closed⟩

end EventInv

/-- The event state machine over every well-timed run: alerts are at least five seconds apart, and
a tick whose sample exceeds the threshold sends its alert when no event is open or the open one
started five seconds before the first cool-down test; no tick sends more than one alert, and each
takes its sample into the statistics once. -/
theorem events_sound {D : Type} [Double D] (start : BitVec 32) (steps : List (EventStep D))
    (hw : WellTimed steps) :
    ((Observed.run start steps).starts.Pairwise fun t t' => t + 5000 ≤ t') ∧
      ∀ pre τ post, steps = pre ++ .tick τ :: post →
        let o := Observed.run start pre
        let r := o.s.tick (τ.input start)
        (o.s.inEvent = true → ∃ t₀, o.starts.getLast? = some t₀ ∧
          o.s.lastEventWas = Counter.read start t₀) ∧
        (Double.gt τ.accel o.s.quakeThreshold = true →
          (o.s.inEvent = false ∨ ∃ t₀, o.starts.getLast? = some t₀ ∧
            t₀ + 5000 ≤ τ.time.coolTest) →
          Seismometer.alerts r.2 = [o.s.record (τ.input start)]) ∧
        (Seismometer.alerts r.2).length ≤ 1 ∧
        r.1.toStatistics = o.s.toStatistics.addValueToAvgVar τ.accel ∧
        o.s.toStatistics.Takes τ.accel r.1.toStatistics := by
  refine ⟨(EventInv.run hw).spaced, ?_⟩
  rintro pre τ post rfl o r
  have hw' : WellTimed (pre ++ [.tick τ]) := by
    rw [List.append_cons] at hw
    exact hw.of_append
  obtain ⟨hord, hlast⟩ := hw'.last
  have h : EventInv start (ticks pre).getLast? o := EventInv.run hw'.of_append
  have hev := Seismometer.tick_event (τ.input start) h.accelero
  have hstats := Seismometer.tick_toStatistics (τ.input start) h.accelero
  refine ⟨fun he => ?_, fun hover hcool => ?_, ?_, hstats, ?_⟩
  · obtain ⟨t₀, -, ht₀, hwas, -⟩ := h.opened he
    exact ⟨t₀, ht₀, hwas⟩
  · rcases hev with ⟨he, hnot, -⟩ | ⟨-, ⟨-, -, -, hal⟩ | ⟨hno, -⟩⟩
    · rcases hcool with hcool | ⟨t₀, ht₀, hge⟩
      · exact absurd (he.symm.trans hcool) (by simp)
      · exact absurd ((h.elapsed hord hlast ht₀ he).2 hge) hnot
    · exact hal
    · exact absurd (hno.symm.trans hover) (by simp)
  · rcases hev with ⟨-, -, -, -, hal⟩ | ⟨-, ⟨-, -, -, hal⟩ | ⟨-, -, hal⟩⟩ <;> simp [r, hal]
  · show o.s.toStatistics.Takes τ.accel (o.s.tick (τ.input start)).1.toStatistics
    rw [hstats]
    exact o.s.toStatistics.takes_addValueToAvgVar τ.accel

/-- Two alerts, with the wrap of the counter between them; the sample in between counts, and raises
none. -/
theorem events_sound_wrapping :
    let sample (t : ℕ) : EventStep ℝ := .tick ⟨0, 9, ⟨t, t, t, t, t⟩⟩
    let o := Observed.run (2 ^ 32 - 1000) [sample 0, sample 3000, .threshold 1, sample 5000]
    o.starts = [0, 5000] ∧ (o.starts.Pairwise fun t t' => t + 5000 ≤ t') ∧ o.s.elements = 3 := by
  intro sample
  generalize (2 ^ 32 - 1000 : BitVec 32) = start
  intro o
  have hordered : ∀ t : ℕ, Reads.Ordered ⟨t, t, t, t, t⟩ := fun t =>
    ⟨le_rfl, le_rfl, le_rfl, le_rfl⟩
  have htwo : WellTimed [sample 0, sample 3000] :=
    ⟨List.forall_mem_cons.2 ⟨hordered 0, List.forall_mem_singleton.2 (hordered 3000)⟩,
      .cons_cons ⟨by decide, by decide⟩ (.singleton _)⟩
  have hthree : WellTimed [sample 0, sample 3000, .threshold 1, sample 5000] :=
    ⟨List.forall_mem_cons.2 ⟨hordered 0,
      List.forall_mem_cons.2 ⟨hordered 3000, List.forall_mem_singleton.2 (hordered 5000)⟩⟩,
      .cons_cons ⟨by decide, by decide⟩ (.cons_cons ⟨by decide, by decide⟩ (.singleton _))⟩
  have hinit : Double.gt (9 : ℝ) ((1 : ℕ) : ℝ) = true := by
    rw [gt_real, decide_eq_true_eq]
    norm_num
  have hover : Double.gt (9 : ℝ) 1 = true := by
    rw [gt_real, decide_eq_true_eq]
    norm_num
  obtain ⟨hspaced, hticks⟩ := events_sound start _ hthree
  obtain ⟨-, hfirst, -, -, htakes⟩ := hticks [] _ _ rfl
  obtain ⟨-, -, -, -, htakes'⟩ := hticks [sample 0] _ _ rfl
  obtain ⟨-, hthird, -, -, htakes''⟩ := hticks [sample 0, sample 3000, .threshold 1] _ _ rfl
  have hstarts : (Observed.run start [sample 0]).starts = [0] :=
    congrArg (List.map fun _ => 0) (hfirst hinit (.inl rfl))
  -- an alert of the second sample would come too soon
  have hstarts' : (Observed.run start [sample 0, sample 3000]).starts = [0] := by
    have hpairs := (events_sound start _ htwo).1
    change ((Observed.run start [sample 0]).starts ++ (Seismometer.alerts _).map _).Pairwise _
      at hpairs
    show (Observed.run start [sample 0]).starts ++ (Seismometer.alerts _).map _ = [0]
    rw [hstarts] at hpairs ⊢
    rw [List.map_eq_nil_iff.2 (List.eq_nil_iff_forall_not_mem.2 fun db hdb => ?_), List.append_nil]
    have hsoon := (List.pairwise_append.1 hpairs).2.2 0 (List.mem_singleton_self 0) 3000
      (List.mem_map.2 ⟨db, hdb, rfl⟩)
    exact absurd hsoon (by decide)
  have hlast : o.starts = [0, 5000] :=
    congrArg₂ (fun starts alerts => starts ++ List.map (fun _ => 5000) alerts) hstarts'
      (hthird hover (.inr ⟨0, congrArg List.getLast? hstarts', le_rfl⟩))
  refine ⟨hlast, hspaced, ?_⟩
  calc o.s.elements = (Observed.run start [sample 0, sample 3000]).s.elements + 1 :=
        htakes''.elements
    _ = (Observed.run start [sample 0]).s.elements + 1 + 1 :=
        congrArg (· + 1) htakes'.elements
    _ = 3 := by
        rw [show (Observed.run start [sample 0]).s.elements = _ from htakes.elements]
        rfl

end Terremoti
