import Terremoti.Utils

/-!
# The detector (`Seismometer.cpp`)

`Seismometer w D` is the singleton's record, over an `unsigned long` of `w` bits and a `double` type
`D`; `Statistics D` is the part of it that the samples and the configuration write. `tick` is
`Seismometer::tick` with everything it reads from outside (the sensor, the UNIX time and the five
places at which it may read `Utils::millis`) as its input, and what it does outside (LED, log, trace
and alert) as a list of effects. `getAccelerometer` returns an object on every platform, so `init`
has one; the `NULL` branch is kept.
-/

namespace Terremoti

/-- `RECORD`, the sample handed to `HTTPClient::httpSendAlert`. -/
structure RECORD (w : ℕ) (D : Type) where
  ts : BitVec w
  accel : D
  overThreshold : Bool

structure Statistics (D : Type) where
  partialAvg : D
  partialStdDev : D
  elements : BitVec 32
  quakeThreshold : D
  sigmaIter : D

/-- The fields of `class Seismometer`; `accelero` says whether the pointer is not `NULL`. -/
structure Seismometer (w : ℕ) (D : Type) extends Statistics D where
  accelero : Bool
  inEvent : Bool
  lastEventWas : BitVec w
  statLastCounterTime : BitVec w
  statLastCounter : BitVec 32
  statProbeSpeed : BitVec 32

/-- The successive reads of the millisecond clock in one tick, in program order: the probe
statistics (test, then stamp), the two cool-down tests, and the start of a new event. -/
structure Reads (τ : Type) where
  statTest : τ
  statStamp : τ
  coolTest : τ
  coolTest' : τ
  eventStart : τ

/-- What one tick reads: `NTP::getUNIXTime()`, `accelero->getTotalVector()` and the clock. -/
structure TickInput (w : ℕ) (D : Type) where
  ts : BitVec w
  accel : D
  clock : Reads (BitVec 32)

/-- What one tick does outside the record. -/
inductive Effect (w : ℕ) (D : Type)
  | traceValue (ts : BitVec w) (val threshold avg stddev sigma : D)
  | ledRed (on : Bool)
  | logNewEvent (accel threshold sigma avg stddev : D)
  | httpSendAlert (db : RECORD w D)

namespace Statistics

variable {D : Type} [Double D]

def init : Statistics D where
  partialAvg := (0 : ℕ)
  partialStdDev := (0 : ℕ)
  elements := 0
  quakeThreshold := (1 : ℕ)
  sigmaIter := (3 : ℕ)

def getCurrentAVG (s : Statistics D) : D := s.partialAvg

/-- `elements - 1` is an `unsigned int`. -/
def getCurrentSTDDEV (s : Statistics D) : D :=
  Double.sqrt (s.partialStdDev / ((s.elements - 1).toNat : D))

def getSigmaIter (s : Statistics D) : D := s.sigmaIter

def setSigmaIter (i : D) (s : Statistics D) : Statistics D := { s with sigmaIter := i }

def resetLastPeriod (s : Statistics D) : Statistics D :=
  { s with partialAvg := (0 : ℕ), partialStdDev := (0 : ℕ), elements := 0 }

/-- The running (Welford) update: the first half of `addValueToAvgVar`. -/
def accumulate (val : D) (s : Statistics D) : Statistics D :=
  let s := { s with elements := s.elements + 1 }
  let delta := val - s.partialAvg
  let s := { s with partialAvg := s.partialAvg + delta / (s.elements.toNat : D) }
  { s with partialStdDev := s.partialStdDev + delta * (val - s.partialAvg) }

def addValueToAvgVar (val : D) (s : Statistics D) : Statistics D :=
  let s := s.accumulate val
  if s.elements > 1 then
    { s with quakeThreshold := s.partialAvg + s.getCurrentSTDDEV * s.getSigmaIter }
  else s

/-- The sample `x` has been taken in once: the number, the mean and the squared deviations. -/
structure Takes (x : D) (s s' : Statistics D) : Prop where
  elements : s'.elements = s.elements + 1
  partialAvg : s'.partialAvg = s.partialAvg + (x - s.partialAvg) / (s'.elements.toNat : D)
  partialStdDev : s'.partialStdDev =
    s.partialStdDev + (x - s.partialAvg) * (x - s'.partialAvg)

theorem takes_addValueToAvgVar (val : D) (s : Statistics D) :
    s.Takes val (s.addValueToAvgVar val) := by
  unfold addValueToAvgVar
  dsimp only
  split
  · exact ⟨rfl, rfl, rfl⟩
  · exact ⟨rfl, rfl, rfl⟩

theorem addValueToAvgVar_sigmaIter (val : D) (s : Statistics D) :
    (s.addValueToAvgVar val).sigmaIter = s.sigmaIter := by
  unfold addValueToAvgVar; dsimp only; split <;> rfl

end Statistics

namespace Seismometer

variable {w : ℕ} {D : Type}

def countProbe (c : Reads (BitVec 32)) (s : Seismometer w D) : Seismometer w D :=
  let s := { s with statLastCounter := s.statLastCounter + 1 }
  if c.statTest.setWidth w - s.statLastCounterTime > 1000 then
    { s with statProbeSpeed := s.statLastCounter, statLastCounter := 0,
             statLastCounterTime := c.statStamp.setWidth w }
  else s

@[simp] theorem countProbe_toStatistics (c : Reads (BitVec 32)) (s : Seismometer w D) :
    (s.countProbe c).toStatistics = s.toStatistics := by
  unfold countProbe; dsimp only; split <;> rfl

@[simp] theorem countProbe_accelero (c : Reads (BitVec 32)) (s : Seismometer w D) :
    (s.countProbe c).accelero = s.accelero := by
  unfold countProbe; dsimp only; split <;> rfl

@[simp] theorem countProbe_inEvent (c : Reads (BitVec 32)) (s : Seismometer w D) :
    (s.countProbe c).inEvent = s.inEvent := by
  unfold countProbe; dsimp only; split <;> rfl

@[simp] theorem countProbe_lastEventWas (c : Reads (BitVec 32)) (s : Seismometer w D) :
    (s.countProbe c).lastEventWas = s.lastEventWas := by
  unfold countProbe; dsimp only; split <;> rfl

variable [Double D]

def init : Seismometer w D where
  toStatistics := .init
  accelero := true
  inEvent := false
  lastEventWas := 0
  statLastCounterTime := 0
  statLastCounter := 0
  statProbeSpeed := 0

def record (i : TickInput w D) (s : Seismometer w D) : RECORD w D :=
  ⟨i.ts, i.accel, Double.gt i.accel s.quakeThreshold⟩

def addValueToAvgVar (val : D) (s : Seismometer w D) : Seismometer w D :=
  { s with toStatistics := s.toStatistics.addValueToAvgVar val }

/-- The end of `tick`: open a new event unless one is running. `s₀` is the detector as the tick
found it, for the averages in the log line. -/
def detect (i : TickInput w D) (s₀ s : Seismometer w D) : Seismometer w D × List (Effect w D) :=
  let db := s₀.record i
  if db.overThreshold && !s.inEvent then
    ({ s with inEvent := true, lastEventWas := i.clock.eventStart.setWidth w },
      [.logNewEvent db.accel s.quakeThreshold s.getSigmaIter s₀.getCurrentAVG s₀.getCurrentSTDDEV,
       .ledRed true, .httpSendAlert db])
  else (s, [])

def tick (i : TickInput w D) (s₀ : Seismometer w D) : Seismometer w D × List (Effect w D) :=
  if s₀.accelero = false then (s₀, []) else
  let db := s₀.record i
  let trace := Effect.traceValue db.ts db.accel s₀.quakeThreshold s₀.getCurrentAVG
    s₀.getCurrentSTDDEV s₀.getSigmaIter
  let s := (s₀.addValueToAvgVar db.accel).countProbe i.clock
  if s.inEvent ∧ i.clock.coolTest.setWidth w - s.lastEventWas ≥ 5000 then
    -- out of event
    let r := detect i s₀ { s with inEvent := false }
    (r.1, trace :: .ledRed false :: r.2)
  else if s.inEvent ∧ i.clock.coolTest'.setWidth w - s.lastEventWas < 5000 then
    -- in event: the sample has been counted, the detection is skipped
    (s, [trace])
  else
    let r := detect i s₀ s
    (r.1, trace :: r.2)

def alerts (effects : List (Effect w D)) : List (RECORD w D) :=
  effects.filterMap fun | .httpSendAlert db => some db | _ => none

/-! ### What a tick leaves alone -/

@[simp] theorem detect_toStatistics (i : TickInput w D) (s₀ s : Seismometer w D) :
    (detect i s₀ s).1.toStatistics = s.toStatistics := by
  unfold detect; dsimp only; split <;> rfl

@[simp] theorem detect_accelero (i : TickInput w D) (s₀ s : Seismometer w D) :
    (detect i s₀ s).1.accelero = s.accelero := by
  unfold detect; dsimp only; split <;> rfl

/-- Whatever branch the event logic takes, the sample is added to the statistics exactly once. -/
theorem tick_toStatistics (i : TickInput w D) {s : Seismometer w D} (h : s.accelero = true) :
    (s.tick i).1.toStatistics = s.toStatistics.addValueToAvgVar i.accel := by
  unfold tick
  rw [if_neg (by simp [h])]
  dsimp only
  split
  · simp [addValueToAvgVar, record]
  split <;> simp [addValueToAvgVar, record]

theorem tick_accelero (i : TickInput w D) (s : Seismometer w D) :
    (s.tick i).1.accelero = s.accelero := by
  unfold tick
  split
  · rfl
  dsimp only
  split
  · simp [addValueToAvgVar]
  split <;> simp [addValueToAvgVar]

/-! ### What one tick does to the event -/

theorem detect_event (i : TickInput w D) (s₀ : Seismometer w D) {s : Seismometer w D}
    (h : s.inEvent = false) :
    ((s₀.record i).overThreshold = true ∧ (detect i s₀ s).1.inEvent = true ∧
      (detect i s₀ s).1.lastEventWas = i.clock.eventStart.setWidth w ∧
      alerts (detect i s₀ s).2 = [s₀.record i]) ∨
    ((s₀.record i).overThreshold = false ∧ (detect i s₀ s).1.inEvent = false ∧
      alerts (detect i s₀ s).2 = []) := by
  cases ho : (s₀.record i).overThreshold <;> simp [detect, ho, h, alerts]

theorem detect_open (i : TickInput w D) (s₀ : Seismometer w D) {s : Seismometer w D}
    (h : s.inEvent = true) : detect i s₀ s = (s, []) := by
  simp [detect, h]

/-- A tick either leaves an open event alone, or reaches the detection with no event open: it had
none, or the first cool-down test has closed it. -/
theorem tick_event (i : TickInput w D) {s : Seismometer w D} (h : s.accelero = true) :
    (s.inEvent = true ∧ ¬ i.clock.coolTest.setWidth w - s.lastEventWas ≥ 5000 ∧
      (s.tick i).1.inEvent = true ∧ (s.tick i).1.lastEventWas = s.lastEventWas ∧
      alerts (s.tick i).2 = []) ∨
    ((s.inEvent = true → i.clock.coolTest.setWidth w - s.lastEventWas ≥ 5000) ∧
      (((s.record i).overThreshold = true ∧ (s.tick i).1.inEvent = true ∧
        (s.tick i).1.lastEventWas = i.clock.eventStart.setWidth w ∧
        alerts (s.tick i).2 = [s.record i]) ∨
      ((s.record i).overThreshold = false ∧ (s.tick i).1.inEvent = false ∧
        alerts (s.tick i).2 = []))) := by
  set s₁ := (s.addValueToAvgVar (s.record i).accel).countProbe i.clock with hs₁
  have hin : s₁.inEvent = s.inEvent := by simp [hs₁, addValueToAvgVar]
  have hlast : s₁.lastEventWas = s.lastEventWas := by simp [hs₁, addValueToAvgVar]
  unfold tick
  rw [if_neg (by simp [h])]
  dsimp only
  rw [← hs₁, hin, hlast]
  by_cases hclose : s.inEvent = true ∧ i.clock.coolTest.setWidth w - s.lastEventWas ≥ 5000
  · rw [if_pos hclose]
    exact .inr ⟨fun _ => hclose.2, detect_event i s rfl⟩
  rw [if_neg hclose]
  cases he : s.inEvent with
  | true =>
    refine .inl ⟨rfl, fun hge => hclose ⟨he, hge⟩, ?_⟩
    have hopen := detect_open i s (hin.trans he)
    split
    · exact ⟨hin.trans he, hlast, rfl⟩
    · -- the two clock reads disagree: neither branch is taken, and the event stays open
      rw [hopen]
      exact ⟨hin.trans he, hlast, rfl⟩
  | false =>
    simp only [Bool.false_eq_true, false_and, if_false]
    exact .inr ⟨False.elim, detect_event i s (hin.trans he)⟩

/-- An alert is raised with the tick's own record. -/
theorem eq_record_of_mem_alerts {i : TickInput w D} {s : Seismometer w D} {db : RECORD w D}
    (h : db ∈ alerts (s.tick i).2) : db = s.record i ∧ (s.record i).overThreshold = true := by
  cases haccelero : s.accelero with
  | false =>
    rw [tick, if_pos haccelero] at h
    cases h
  | true =>
    rcases tick_event i haccelero with
      ⟨-, -, -, -, hnone⟩ | ⟨-, ⟨hover, -, -, hone⟩ | ⟨-, -, hnone⟩⟩
    · rw [hnone] at h
      cases h
    · rw [hone] at h
      exact ⟨List.mem_singleton.1 h, hover⟩
    · rw [hnone] at h
      cases h

end Seismometer
end Terremoti
