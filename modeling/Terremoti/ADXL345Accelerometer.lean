import Terremoti.SeismoEvents
import Terremoti.SeismoStats

/-!
# The accelerometer of the Raspberry Pi (`Accelerometer.h`, `vendor/raspi`)

`getTotalVector` calls for one axis after the other, and each call reads all three from the bus and
drops two. A `BlockRead` is a read of the bus: the six bytes it gives, or none, and then the bytes
that were in the driver's buffer before are decoded. The three reads of a tick are named by the axis
they are for, C++ leaving their order open.

What a tick adds to the statistics and compares with the threshold is the length of one reading of
the sensor if and only if the three reads fit together (`SensorTick.Coherent`, `readings_real_iff`).
-/

namespace Terremoti

/-- `bytes` are the axes, low byte first, if the read succeeds; `garbage` is what the buffer of the
driver held before. -/
structure BlockRead where
  bytes : Option (Fin 6 → Byte)
  garbage : Fin 6 → Byte

/-- The result, and what is in the buffer afterwards. -/
def i2c_smbus_read_i2c_block_data (r : BlockRead) : ℤ × (Fin 6 → Byte) :=
  match r.bytes with
  | some bytes => (6, bytes)
  | none => (-1, r.garbage)

structure AxesInfos (D : Type) where
  x : D
  y : D
  z : D

namespace ADXL345Accelerometer

/-- `bytes[i] | ((int8_t)bytes[i + 1] << 8)`. -/
def axis (low high : Byte) : BitVec 32 := low.setWidth 32 ||| high.signExtend 32 <<< 8

section Driver
variable {D : Type} [Double D]

/-- An `int` as a `double`. -/
def ofInt (n : ℤ) : D :=
  if n < 0 then ((0 : ℕ) : D) - (n.natAbs : D) else (n.natAbs : D)

def SCALE_MULTIPLIER : D := ((4 : ℕ) : D) / ((1000 : ℕ) : D)
def EARTH_GRAVITY_MS2 : D := ((980665 : ℕ) : D) / ((100000 : ℕ) : D)

def AxesInfos.scale (k : D) (a : AxesInfos D) : AxesInfos D := ⟨a.x * k, a.y * k, a.z * k⟩

def getAxes (gforce : Bool) (r : BlockRead) : AxesInfos D :=
  let bytes := (i2c_smbus_read_i2c_block_data r).2
  let ret := AxesInfos.scale SCALE_MULTIPLIER
    ⟨ofInt (axis (bytes 0) (bytes 1)).toInt, ofInt (axis (bytes 2) (bytes 3)).toInt,
      ofInt (axis (bytes 4) (bytes 5)).toInt⟩
  if gforce then ret else AxesInfos.scale EARTH_GRAVITY_MS2 ret

def getXAccel (r : BlockRead) : D := (getAxes false r).x
def getYAccel (r : BlockRead) : D := (getAxes false r).y
def getZAccel (r : BlockRead) : D := (getAxes false r).z

/-- `Accelerometer::getTotalVector`; `pow(v, 2)` is `v * v`. -/
def getTotalVector (x y z : BlockRead) : D :=
  let square := fun v : D => v * v
  Double.sqrt (square (getXAccel x) + square (getYAccel y) + square (getZAccel z))

end Driver

/-! ### What the bytes mean -/

/-- Three axes in steps of 4 mg. -/
structure Triple where
  x : ℤ
  y : ℤ
  z : ℤ

namespace Triple

/-- Three 16-bit integers. -/
def ofBytes (bytes : Fin 6 → Byte) : Triple :=
  ⟨(bytes 1 ++ bytes 0).toInt, (bytes 3 ++ bytes 2).toInt, (bytes 5 ++ bytes 4).toInt⟩

def squares (a : Triple) : ℤ := a.x ^ 2 + a.y ^ 2 + a.z ^ 2

/-- The Euclidean norm of the axes, in m/s². -/
noncomputable def norm (a : Triple) : ℝ :=
  let k : ℝ := 0.004 * 9.80665
  √((k * a.x) ^ 2 + (k * a.y) ^ 2 + (k * a.z) ^ 2)

theorem norm_eq (a : Triple) : a.norm = √((0.004 * 9.80665) ^ 2 * (a.squares : ℝ)) := by
  rw [norm, squares]
  congr 1
  push_cast
  ring

theorem norm_inj {a b : Triple} : a.norm = b.norm ↔ a.squares = b.squares := by
  have hscale : (0 : ℝ) < (0.004 * 9.80665) ^ 2 := by norm_num
  have hnonneg : ∀ a : Triple, (0 : ℝ) ≤ (0.004 * 9.80665) ^ 2 * (a.squares : ℝ) := by
    intro a
    refine mul_nonneg hscale.le ?_
    rw [squares]
    push_cast
    positivity
  rw [norm_eq, norm_eq, Real.sqrt_inj (hnonneg a) (hnonneg b), mul_right_inj' hscale.ne',
    Int.cast_inj]

end Triple

theorem axis_eq (low high : Byte) : axis low high = (high ++ low : BitVec 16).signExtend 32 := by
  refine BitVec.eq_of_getLsbD_eq fun i hi => ?_
  simp only [axis, BitVec.getLsbD_or, BitVec.getLsbD_setWidth, BitVec.getLsbD_shiftLeft,
    BitVec.getLsbD_signExtend, BitVec.getLsbD_append, BitVec.msb_append]
  grind

theorem toInt_axis (low high : Byte) : (axis low high).toInt = (high ++ low : BitVec 16).toInt := by
  rw [axis_eq, BitVec.toInt_signExtend_of_le (by decide)]

theorem ofInt_real (n : ℤ) : (ofInt n : ℝ) = n := by
  unfold ofInt
  split
  · rename_i hneg
    rw [Nat.cast_natAbs, abs_of_neg hneg]
    simp
  · rename_i hnonneg
    rw [Nat.cast_natAbs, abs_of_nonneg (Int.not_lt.1 hnonneg)]

/-- The buffer after a read, as three integers. -/
def triple (r : BlockRead) : Triple := .ofBytes (i2c_smbus_read_i2c_block_data r).2

/-- The three integers a tick calculates with: one of each read. -/
def assembled (x y z : BlockRead) : Triple := ⟨(triple x).x, (triple y).y, (triple z).z⟩

theorem getTotalVector_real (x y z : BlockRead) :
    (getTotalVector x y z : ℝ) = (assembled x y z).norm := by
  have hscale : (SCALE_MULTIPLIER : ℝ) * EARTH_GRAVITY_MS2 = 0.004 * 9.80665 := by
    norm_num [SCALE_MULTIPLIER, EARTH_GRAVITY_MS2]
  have haxis : ∀ low high : Byte,
      (ofInt (axis low high).toInt : ℝ) * SCALE_MULTIPLIER * EARTH_GRAVITY_MS2 =
        0.004 * 9.80665 * ((high ++ low : BitVec 16).toInt : ℝ) := by
    intro low high
    rw [ofInt_real, toInt_axis, mul_assoc, hscale, mul_comm]
  have hx : (getXAccel x : ℝ) = 0.004 * 9.80665 * ((triple x).x : ℝ) := haxis _ _
  have hy : (getYAccel y : ℝ) = 0.004 * 9.80665 * ((triple y).y : ℝ) := haxis _ _
  have hz : (getZAccel z : ℝ) = 0.004 * 9.80665 * ((triple z).z : ℝ) := haxis _ _
  rw [getTotalVector, hx, hy, hz, sqrt_real, Triple.norm]
  simp only [assembled, sq]

end ADXL345Accelerometer

/-! ### The ticks -/

open ADXL345Accelerometer

/-- What a tick reads, the acceleration from the bus. -/
structure SensorTick (w : ℕ) where
  ts : BitVec w
  x : BlockRead
  y : BlockRead
  z : BlockRead
  clock : Reads (BitVec 32)

/-- A step of the detector with this sensor. -/
inductive SensorStep (w : ℕ)
  | tick (t : SensorTick w)
  | config (sigma : ℝ)

namespace SensorTick
variable {w : ℕ}

noncomputable def input (t : SensorTick w) : TickInput w ℝ :=
  ⟨t.ts, getTotalVector t.x t.y t.z, t.clock⟩

/-- What the successful reads of the tick have given. -/
def readings (t : SensorTick w) : List Triple :=
  ([t.x, t.y, t.z].filterMap BlockRead.bytes).map .ofBytes

/-- One of the reads succeeds, and the squares of the x of the first, the y of the second and the z
of the third have the same sum as those of its own axes. -/
def Coherent (t : SensorTick w) : Prop :=
  ∃ a ∈ t.readings, (assembled t.x t.y t.z).squares = a.squares

instance (t : SensorTick w) : Decidable t.Coherent :=
  inferInstanceAs (Decidable (∃ a ∈ t.readings, (assembled t.x t.y t.z).squares = a.squares))

/-- Three reads of a sensor that holds still. -/
def Still (t : SensorTick w) : Prop :=
  ∃ bytes, t.x.bytes = some bytes ∧ t.y.bytes = some bytes ∧ t.z.bytes = some bytes

theorem Still.coherent {t : SensorTick w} (h : t.Still) : t.Coherent := by
  obtain ⟨bytes, hx, hy, hz⟩ := h
  have htriple : ∀ r : BlockRead, r.bytes = some bytes → triple r = .ofBytes bytes := by
    intro r hr
    rw [triple, i2c_smbus_read_i2c_block_data, hr]
  refine ⟨.ofBytes bytes, ?_, ?_⟩
  · simp [readings, hx]
  · rw [assembled, htriple _ hx, htriple _ hy, htriple _ hz]

end SensorTick

noncomputable def SensorStep.toStep {w : ℕ} : SensorStep w → SeismoStep w ℝ
  | .tick t => .tick t.input
  | .config sigma => .config sigma

noncomputable def sensorRun {w : ℕ} (steps : List (SensorStep w)) : Seismometer w ℝ :=
  Seismometer.run (steps.map SensorStep.toStep)

/-- The acceleration of the tick is `v`: this is what it adds to the statistics, what it compares
with the threshold and what it sends. -/
structure Sampled {w : ℕ} (s : Seismometer w ℝ) (t : SensorTick w) (v : ℝ) : Prop where
  accel : (s.record t.input).accel = v
  added : (s.tick t.input).1.toStatistics = s.toStatistics.addValueToAvgVar v
  compared : (s.record t.input).overThreshold = decide (s.quakeThreshold < v)
  sent : ∀ db ∈ Seismometer.alerts (s.tick t.input).2, db = s.record t.input

/-- The acceleration is that of one successful read; without one the tick adds and sends nothing. -/
structure RealTick {w : ℕ} (s : Seismometer w ℝ) (t : SensorTick w) : Prop where
  sampled : t.readings ≠ [] → ∃ a ∈ t.readings, Sampled s t a.norm
  failed : t.readings = [] → (s.tick t.input).1.toStatistics = s.toStatistics ∧
    Seismometer.alerts (s.tick t.input).2 = []

section Ticks
variable {w : ℕ} {s : Seismometer w ℝ} {t : SensorTick w}

theorem sampled_iff (h : s.accelero = true) {v : ℝ} : Sampled s t v ↔ t.input.accel = v := by
  constructor
  · intro hs
    exact hs.accel
  · rintro rfl
    exact ⟨rfl, Seismometer.tick_toStatistics t.input h, rfl, fun db hdb =>
      (Seismometer.eq_record_of_mem_alerts hdb).1⟩

/-- A tick counts its sample, whatever it is. -/
theorem tick_elements (h : s.accelero = true) (i : TickInput w ℝ) :
    (s.tick i).1.elements = s.elements + 1 := by
  rw [Seismometer.tick_toStatistics i h]
  exact (s.takes_addValueToAvgVar i.accel).elements

theorem realTick_iff (h : s.accelero = true) : RealTick s t ↔ t.Coherent := by
  have hiff : (∃ a ∈ t.readings, Sampled s t a.norm) ↔ t.Coherent := by
    refine exists_congr fun a => and_congr_right fun _ => ?_
    rw [sampled_iff h, SensorTick.input, getTotalVector_real, Triple.norm_inj]
  rw [← hiff]
  constructor
  · intro hreal
    by_cases hnone : t.readings = []
    · -- the tick has added a sample all the same
      have helements := tick_elements h t.input
      rw [(hreal.failed hnone).1] at helements
      bv_omega
    · exact hreal.sampled hnone
  · intro hsampled
    refine ⟨fun _ => hsampled, fun hnone => ?_⟩
    obtain ⟨a, ha, -⟩ := hsampled
    rw [hnone] at ha
    cases ha

theorem sensorRun_accelero (steps : List (SensorStep w)) : (sensorRun steps).accelero = true := by
  induction steps using List.reverseRecOn with
  | nil => rfl
  | append_singleton steps a ih =>
    rw [sensorRun, Seismometer.run, List.map_append, List.foldl_append]
    cases a with
    | tick t => exact (Seismometer.tick_accelero t.input _).trans ih
    | config sigma => exact ih

end Ticks

/-- In a run of the detector every tick goes by one successful read of the sensor if and only if the
reads of every tick are coherent, as they are where the sensor holds still. -/
theorem readings_real_iff {w : ℕ} (steps : List (SensorStep w)) :
    ((∀ pre t post, steps = pre ++ .tick t :: post → RealTick (sensorRun pre) t) ↔
      ∀ t, SensorStep.tick t ∈ steps → t.Coherent) ∧
    ∀ t : SensorTick w, t.Still → t.Coherent := by
  refine ⟨⟨?_, ?_⟩, fun t ht => ht.coherent⟩
  · intro h t ht
    obtain ⟨pre, post, heq⟩ := List.append_of_mem ht
    exact (realTick_iff (sensorRun_accelero pre)).1 (h pre t post heq)
  · rintro h pre t post rfl
    exact (realTick_iff (sensorRun_accelero pre)).2 (h t (by simp))

/-- The sensor is turned over between the first read and the second. -/
def turned : SensorTick 32 where
  ts := 0
  x := ⟨some ![0, 1, 0, 0, 0, 0], ![0, 0, 0, 0, 0, 0]⟩
  y := ⟨some ![0, 0, 0, 0, 0, 1], ![0, 0, 0, 0, 0, 0]⟩
  z := ⟨some ![0, 0, 0, 0, 0, 1], ![0, 0, 0, 0, 0, 0]⟩
  clock := ⟨0, 0, 0, 0, 0⟩

/-- No read succeeds. -/
def unplugged : SensorTick 32 where
  ts := 0
  x := ⟨none, ![0, 1, 2, 3, 4, 5]⟩
  y := ⟨none, ![0, 1, 2, 3, 4, 5]⟩
  z := ⟨none, ![0, 1, 2, 3, 4, 5]⟩
  clock := ⟨0, 0, 0, 0, 0⟩

/-- The first is taken for a length that none of its readings has, the second for a sample. -/
theorem readings_not_real :
    ¬RealTick (sensorRun []) turned ∧ ¬RealTick (sensorRun []) unplugged := by
  constructor
  · rw [realTick_iff (sensorRun_accelero [])]
    decide
  · rw [realTick_iff (sensorRun_accelero [])]
    decide

end Terremoti
