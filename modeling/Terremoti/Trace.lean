import Terremoti.Core
import Terremoti.Lib.Window

/-!
# The trace file (`net/TraceAccumulator.cpp`)

`Tracer` is `TraceAccumulator` with the contents of its file and the files sent; but for these it is
the `TraceAccumulator` of the device (`apply_toTraceAccumulator`). It runs over its calls in the
order they come (`TraceOp`), each with the real time and with what `NTP::getUNIXTime` reads then. A
trace covers its quarter of an hour (`Tracer.Covers`) exactly if the UNIX time read keeps up with the
real time while it runs (`Tracer.covers_iff`).
-/

namespace Terremoti

/-- What `traceValue` writes of a sample: an `unsigned long` and five floats. -/
structure Record (w : ℕ) where
  ts : BitVec w
  val : BitVec 32
  threshold : BitVec 32
  avg : BitVec 32
  stddev : BitVec 32
  sigma : BitVec 32

def Record.bytes {w : ℕ} (r : Record w) : List Byte :=
  (List.range (w / 8)).map (fun k => r.ts.extractLsb' (8 * k) 8) ++ Utils.bytes32 r.val ++
    Utils.bytes32 r.threshold ++ Utils.bytes32 r.avg ++ Utils.bytes32 r.stddev ++
    Utils.bytes32 r.sigma

theorem Record.length_bytes {w : ℕ} (r : Record w) : r.bytes.length = w / 8 + 20 := by
  simp [bytes, Utils.bytes32]

/-- A reading of the UNIX time: the real time in milliseconds, and what the reading goes by. -/
structure Reading (w : ℕ) where
  time : ℕ
  ntp : NTP w
  millis : BitVec 32

def Reading.unixTime {w : ℕ} (r : Reading w) : BitVec w := r.ntp.getUNIXTime r.millis

/-- `TraceAccumulator` with what is in `TRACEACCUMULATOR_FILE` while it is open, and what has been
sent by `httpPostFile`. -/
structure Tracer (w : ℕ) extends TraceAccumulator w where
  written : List Byte
  sent : List (List Byte)

/-- A call of `setTrace(true)` or of `traceValue`, with the reading of the UNIX time in it. -/
inductive TraceOp (w : ℕ)
  | setTrace (r : Reading w)
  | traceValue (r : Reading w) (record : Record w)

/-- `setTrace(true)` or `traceValue` on the static fields alone. -/
def TraceAccumulator.apply {w : ℕ} (t : TraceAccumulator w) : TraceOp w → TraceAccumulator w
  | .setTrace r => t.start r.unixTime
  | .traceValue r _ => t.traceValue r.unixTime

namespace TraceOp
variable {w : ℕ}

def reading : TraceOp w → Reading w
  | setTrace r => r
  | traceValue r _ => r

/-- The real time of the call. -/
def time (o : TraceOp w) : ℕ := o.reading.time

def IsSample : TraceOp w → Prop
  | setTrace _ => False
  | traceValue _ _ => True

/-- The test of `traceValue` on a trace started with the reading `start`. -/
def Late (start : Reading w) : TraceOp w → Prop
  | setTrace _ => False
  | traceValue r _ => start.unixTime ≠ 0 ∧ start.unixTime < r.unixTime - BitVec.ofNat w (60 * 15)

def bytes : TraceOp w → List Byte
  | setTrace _ => []
  | traceValue _ record => record.bytes

end TraceOp

namespace Tracer
variable {w : ℕ}

def init : Tracer w := ⟨⟨false, 0⟩, [], []⟩

/-- The version, `sizeof(unsigned long)` and `sizeof(float)`. -/
def head (w : ℕ) : List Byte := [1, BitVec.ofNat 8 (w / 8), 4]

/-- `TraceAccumulator::setTrace`. -/
def setTrace (v : Bool) (unixTime : BitVec w) (t : Tracer w) : Tracer w :=
  if v = false ∧ t.traceFile = true then
    { t with traceFile := false, written := [], sent := t.sent ++ [t.written] }
  else if v = true ∧ t.traceFile = false then
    { t with traceStartedAt := unixTime, traceFile := true, written := head w }
  else t

/-- `TraceAccumulator::traceValue`. -/
def traceValue (unixTime : BitVec w) (record : Record w) (t : Tracer w) : Tracer w :=
  if t.traceStartedAt ≠ 0 ∧ t.traceStartedAt < unixTime - BitVec.ofNat w (60 * 15) then
    { t.setTrace false unixTime with traceStartedAt := 0 }
  else if t.traceFile = true then { t with written := t.written ++ record.bytes }
  else t

def apply (t : Tracer w) : TraceOp w → Tracer w
  | .setTrace r => t.setTrace true r.unixTime
  | .traceValue r record => t.traceValue r.unixTime record

def run (ops : List (TraceOp w)) (t : Tracer w) : Tracer w := ops.foldl apply t

theorem run_append (ops ops' : List (TraceOp w)) (t : Tracer w) :
    t.run (ops ++ ops') = (t.run ops).run ops' := List.foldl_append

theorem setTrace_toTraceAccumulator (unixTime : BitVec w) (t : Tracer w) :
    (t.setTrace true unixTime).toTraceAccumulator = t.toTraceAccumulator.start unixTime := by
  unfold setTrace TraceAccumulator.start
  rw [if_neg fun h => Bool.noConfusion h.1]
  split_ifs with h h' h'
  · rfl
  · exact absurd h.2 h'
  · exact absurd ⟨rfl, h'⟩ h
  · rfl

theorem traceValue_toTraceAccumulator (unixTime : BitVec w) (record : Record w) (t : Tracer w) :
    (t.traceValue unixTime record).toTraceAccumulator = t.toTraceAccumulator.traceValue unixTime := by
  unfold traceValue TraceAccumulator.traceValue
  split_ifs
  · unfold setTrace
    split_ifs with h h'
    · rfl
    · exact h'.1.elim
    · cases hfile : t.traceFile with
      | true => exact absurd ⟨rfl, hfile⟩ h
      | false => exact congrArg (TraceAccumulator.mk · 0) hfile
  · rfl
  · rfl

/-- But for the file it is the device's `TraceAccumulator`. -/
theorem run_toTraceAccumulator (ops : List (TraceOp w)) (t : Tracer w) :
    (t.run ops).toTraceAccumulator = ops.foldl TraceAccumulator.apply t.toTraceAccumulator := by
  induction ops generalizing t with
  | nil => rfl
  | cons o ops ih =>
    have happly : (t.apply o).toTraceAccumulator = t.toTraceAccumulator.apply o := by
      cases o with
      | setTrace r => exact setTrace_toTraceAccumulator r.unixTime t
      | traceValue r record => exact traceValue_toTraceAccumulator r.unixTime record t
    exact (ih _).trans (congrArg (ops.foldl TraceAccumulator.apply) happly)

/-! ### A trace -/

/-- The records of the samples, in order. -/
def records (ops : List (TraceOp w)) : List Byte := ops.flatMap TraceOp.bytes

/-- A trace that has just been started with the reading `start`, and its file. -/
def started (start : Reading w) (sent : List (List Byte)) : Tracer w :=
  ⟨⟨true, start.unixTime⟩, head w, sent⟩

/-- That trace with the records of the samples in `ops`. -/
def running (start : Reading w) (sent : List (List Byte)) (ops : List (TraceOp w)) : Tracer w :=
  ⟨⟨true, start.unixTime⟩, head w ++ records ops, sent⟩

/-- No trace, that one having been sent. -/
def stopped (sent : List (List Byte)) (ops : List (TraceOp w)) : Tracer w :=
  ⟨⟨false, 0⟩, [], sent ++ [head w ++ records ops]⟩

variable {start : Reading w} {sent : List (List Byte)} {ops : List (TraceOp w)}

theorem setTrace_closed {t : Tracer w} (h : t.traceFile = false) (start : Reading w) :
    t.apply (.setTrace start) = started start t.sent := by
  show t.setTrace true start.unixTime = _
  rw [setTrace, if_neg fun h => Bool.noConfusion h.1, if_pos ⟨rfl, h⟩]
  rfl

theorem apply_running {o : TraceOp w} (h : ¬ o.Late start) :
    (running start sent ops).apply o = running start sent (ops ++ [o]) := by
  have hrecords : records (ops ++ [o]) = records ops ++ o.bytes := by
    rw [records, List.flatMap_append, List.flatMap_singleton]
    rfl
  cases o with
  | setTrace r =>
    show (running start sent ops).setTrace true r.unixTime = _
    rw [setTrace, if_neg fun h => Bool.noConfusion h.1, if_neg fun h => Bool.noConfusion h.2,
      running, running, hrecords, TraceOp.bytes, List.append_nil]
  | traceValue r record =>
    show (running start sent ops).traceValue r.unixTime record = _
    refine ((if_neg h).trans (if_pos rfl)).trans ?_
    rw [running, running, hrecords, ← List.append_assoc]
    rfl

theorem apply_late {o : TraceOp w} (h : o.Late start) :
    (running start sent ops).apply o = stopped sent ops := by
  cases o with
  | setTrace r => cases h
  | traceValue r record =>
    show (running start sent ops).traceValue r.unixTime record = _
    refine (if_pos h).trans ?_
    rw [setTrace, if_pos ⟨rfl, rfl⟩]
    rfl

/-- Requests and samples that are not late leave a trace running. -/
theorem run_running (h : ∀ o ∈ ops, ¬ o.Late start) :
    (started start sent).run ops = running start sent ops := by
  induction ops using List.reverseRecOn with
  | nil =>
    rw [running, records, List.flatMap_nil, List.append_nil]
    rfl
  | append_singleton ops o ih =>
    rw [List.forall_mem_append, List.forall_mem_singleton] at h
    rw [run_append, ih h.1]
    exact apply_running h.2

/-- The first late sample ends it. -/
theorem run_late {o : TraceOp w} (h : ∀ o ∈ ops, ¬ o.Late start) (ho : o.Late start) :
    (started start sent).run (ops ++ [o]) = stopped sent ops := by
  rw [run_append, run_running h]
  exact apply_late ho

/-! ### Covering the window -/

/-- The trace started with the reading `start`, and then `ops`. Up to a quarter of an hour of real
time it runs on and has the record of every sample; by the first sample more than a second later it
has been stopped and sent, and not before the quarter of an hour was over. -/
structure Covers (start : Reading w) (sent : List (List Byte)) (ops : List (TraceOp w)) : Prop where
  window : ∀ ops₁ ops₂, ops = ops₁ ++ ops₂ → (∀ o ∈ ops₁, o.time ≤ start.time + 15 * 60 * 1000) →
    (started start sent).run ops₁ = running start sent ops₁
  stop : ∀ ops₁ o ops₂, ops = ops₁ ++ o :: ops₂ → o.IsSample →
    start.time + 15 * 60 * 1000 + 1000 < o.time →
      ∃ kept last rest, ops₁ ++ [o] = kept ++ last :: rest ∧
        start.time + 15 * 60 * 1000 < last.time ∧
        (started start sent).run kept = running start sent kept ∧
        (started start sent).run (kept ++ [last]) = stopped sent kept

/-- Of the samples up to the first that stops the trace, none within a quarter of an hour does, and
one more than a second later does. -/
def Timely (start : Reading w) (ops : List (TraceOp w)) : Prop :=
  Window.Timely TraceOp.time TraceOp.IsSample (TraceOp.Late start)
    (start.time + 15 * 60 * 1000) (start.time + 15 * 60 * 1000 + 1000) ops

theorem running_ne_stopped {ops' : List (TraceOp w)} :
    running start sent ops ≠ stopped sent ops' := fun h =>
  Bool.noConfusion (congrArg (fun t : Tracer w => t.traceFile) h)

/-- What stops a trace that covers its window comes after the quarter of an hour. -/
theorem Covers.lt_time (h : Covers start sent ops)
    (hsorted : ops.Pairwise fun o o' => o.time ≤ o'.time) {run rest : List (TraceOp w)}
    {o : TraceOp w} (hops : ops = run ++ o :: rest) (ho : o.Late start)
    (hrun : ∀ o ∈ run, ¬ o.Late start) : start.time + 15 * 60 * 1000 < o.time := by
  by_contra hle
  rw [hops, List.pairwise_append] at hsorted
  have hwindow := h.window (run ++ [o]) rest (by rw [hops, List.append_cons]) fun o' ho' => by
    rcases List.mem_append.1 ho' with ho' | ho'
    · exact (hsorted.2.2 o' ho' o List.mem_cons_self).trans (not_lt.1 hle)
    · rw [List.mem_singleton.1 ho']
      exact not_lt.1 hle
  rw [run_late hrun ho] at hwindow
  exact running_ne_stopped hwindow.symm

theorem covers_iff (hsorted : ops.Pairwise fun o o' => o.time ≤ o'.time) :
    Covers start sent ops ↔ Timely start ops := by
  rw [Timely, ← Window.covered_iff hsorted]
  constructor
  · intro h
    refine ⟨fun ys zs hops hys o ho hlate => ?_, fun ys x zs hops hsample htime => ?_⟩
    · obtain ⟨run, y, rest, rfl, hy, hrun⟩ := Window.exists_first ⟨o, ho, hlate⟩
      have hlt := h.lt_time hsorted (by rw [hops, List.append_assoc]; rfl) hy hrun
      exact absurd (hys y (List.mem_append_right run List.mem_cons_self)) hlt.not_ge
    · obtain ⟨kept, last, rest, hsplit, -, -, hlast⟩ := h.stop ys x zs hops hsample htime
      have hlate : ∃ o ∈ kept ++ [last], o.Late start := by
        by_contra! hnone
        rw [run_running hnone] at hlast
        exact running_ne_stopped hlast
      obtain ⟨run, y, rest', hrun, hy, hearlier⟩ := Window.exists_first hlate
      have hsplit' : ys ++ [x] = run ++ y :: (rest' ++ rest) := by
        rw [hsplit, List.append_cons, hrun, List.append_assoc]
        rfl
      have hops' : ops = run ++ y :: (rest' ++ rest ++ zs) := by
        rw [hops, List.append_cons, hsplit', List.append_assoc]
        rfl
      exact ⟨run, y, rest' ++ rest, hsplit', h.lt_time hsorted hops' hy hearlier, hy, hearlier⟩
  · intro h
    refine ⟨fun ops₁ ops₂ hops htime => run_running (h.kept ops₁ ops₂ hops htime), ?_⟩
    intro ops₁ o ops₂ hops hsample htime
    obtain ⟨run, y, rest, hsplit, hlo, hlate, hrun⟩ := h.ended ops₁ o ops₂ hops hsample htime
    exact ⟨run, y, rest, hsplit, hlo, run_running hrun, run_late hrun hlate⟩

/-! ### A steady clock -/

/-- At the reading `r` the UNIX time goes by what it went by at `start`, and the counter has advanced
by the real time since, without passing the one that is stored. -/
@[mk_iff] structure Steady (start r : Reading w) : Prop where
  le : start.time ≤ r.time
  unixTimeTS : r.ntp.unixTimeTS = start.ntp.unixTimeTS
  elapsed : (r.millis.setWidth w - r.ntp.unixTimeUpdate).toNat =
    (start.millis.setWidth w - start.ntp.unixTimeUpdate).toNat + (r.time - start.time)
  synced : NTP.coherentTime ≤ start.ntp.unixTimeTS
  fits : r.ntp.unixTimeTS + (r.millis.setWidth w - r.ntp.unixTimeUpdate).toNat / 1000 < 2 ^ w

instance (start r : Reading w) : Decidable (Steady start r) :=
  decidable_of_iff' _ (steady_iff start r)

theorem toNat_unixTime (hw : 32 ≤ w) {r : Reading w} (h : 0 ≤ r.ntp.unixTimeTS)
    (hfits : r.ntp.unixTimeTS + (r.millis.setWidth w - r.ntp.unixTimeUpdate).toNat / 1000 < 2 ^ w) :
    (r.unixTime.toNat : ℤ) =
      r.ntp.unixTimeTS + (r.millis.setWidth w - r.ntp.unixTimeUpdate).toNat / 1000 := by
  obtain ⟨n, hn⟩ := Int.eq_ofNat_of_zero_le h
  have hpow : 2 ^ 32 ≤ 2 ^ w := Nat.pow_le_pow_right (by decide) hw
  have h1000 : (1000 : BitVec w).toNat = 1000 :=
    (BitVec.toNat_ofNat 1000 w).trans (Nat.mod_eq_of_lt (by omega))
  rw [hn] at hfits ⊢
  have hlt : n + (r.millis.setWidth w - r.ntp.unixTimeUpdate).toNat / 1000 < 2 ^ w := by
    exact_mod_cast hfits
  rw [Reading.unixTime, NTP.getUNIXTime, hn, BitVec.toNat_add, BitVec.ofInt_natCast,
    BitVec.toNat_ofNat, BitVec.toNat_udiv, h1000, Nat.mod_eq_of_lt (by omega : n < 2 ^ w),
    Nat.mod_eq_of_lt hlt]
  push_cast
  rfl

/-- On numbers, when both clocks have been set. -/
theorem late_traceValue_iff (hw : 32 ≤ w) {start r : Reading w} (record : Record w)
    (hstart : 0 < start.unixTime.toNat) (hr : 900 ≤ r.unixTime.toNat) :
    (TraceOp.traceValue r record).Late start ↔
      start.unixTime.toNat < r.unixTime.toNat - 900 := by
  have hpow : 2 ^ 32 ≤ 2 ^ w := Nat.pow_le_pow_right (by decide) hw
  have h900 : (BitVec.ofNat w (60 * 15)).toNat = 900 :=
    (BitVec.toNat_ofNat _ w).trans (Nat.mod_eq_of_lt (by omega))
  have hle : BitVec.ofNat w (60 * 15) ≤ r.unixTime := by
    rw [BitVec.le_def, h900]
    exact hr
  have hne : start.unixTime ≠ 0 := by
    intro hzero
    rw [hzero, show (0 : BitVec w).toNat = 0 from BitVec.toNat_zero] at hstart
    exact lt_irrefl 0 hstart
  show start.unixTime ≠ 0 ∧ start.unixTime < r.unixTime - BitVec.ofNat w (60 * 15) ↔ _
  rw [and_iff_right hne, BitVec.lt_def, BitVec.toNat_sub_of_le hle, h900]

/-- A sample of a steady clock is late by the milliseconds since the start. -/
theorem Steady.late_iff (hw : 32 ≤ w) {start r : Reading w} (h : Steady start r)
    (record : Record w) :
    let elapsed := (start.millis.setWidth w - start.ntp.unixTimeUpdate).toNat
    (TraceOp.traceValue r record).Late start ↔
      elapsed / 1000 + 15 * 60 < (elapsed + (r.time - start.time)) / 1000 := by
  intro elapsed
  have hsynced := h.synced
  rw [NTP.coherentTime] at hsynced
  have hTS := h.unixTimeTS
  have helapsed : (r.millis.setWidth w - r.ntp.unixTimeUpdate).toNat =
      elapsed + (r.time - start.time) := h.elapsed
  have hfits := h.fits
  have hr := toNat_unixTime hw (r := r) (by omega) hfits
  rw [helapsed] at hr hfits
  have hstart := toNat_unixTime hw (r := start) (by omega) (by
    rw [← hTS]
    refine lt_of_le_of_lt ?_ hfits
    have hmono : elapsed / 1000 ≤ (elapsed + (r.time - start.time)) / 1000 :=
      Nat.div_le_div_right (Nat.le_add_right _ _)
    exact add_le_add le_rfl (by exact_mod_cast hmono))
  rw [late_traceValue_iff hw record (by omega) (by omega)]
  omega

/-- A trace covers its window if the clock is steady while it runs. -/
theorem Timely.of_steady (hw : 32 ≤ w) (h : ∀ ops₁ r record ops₂,
    ops = ops₁ ++ .traceValue r record :: ops₂ → (∀ o ∈ ops₁, ¬ o.Late start) → Steady start r) :
    Timely start ops := by
  intro ops₁ o ops₂ hops hearlier
  cases o with
  | setTrace r => exact ⟨fun _ => not_false, fun hsample => hsample.elim⟩
  | traceValue r record =>
    have hsteady := h ops₁ r record ops₂ hops hearlier
    have hle := hsteady.le
    have htime : (TraceOp.traceValue r record).time = r.time := rfl
    have hlate := hsteady.late_iff hw record
    dsimp only at hlate
    rw [hlate, htime]
    constructor
    · intro hlo
      omega
    · intro _ hhi
      omega

/-! ### A clock that is set -/

/-- A trace started on the clock of the start-up, a second or more after it, is ended by the first
sample on a clock that has been set. -/
theorem late_of_unset (hw : 32 ≤ w) {start r : Reading w} (hTS : start.ntp.unixTimeTS = 0)
    (hupdate : start.ntp.unixTimeUpdate = 0) (hsecond : 1000 ≤ start.millis.toNat)
    (hset : NTP.coherentTime ≤ r.ntp.unixTimeTS)
    (hfits : r.ntp.unixTimeTS + (r.millis.setWidth w - r.ntp.unixTimeUpdate).toNat / 1000 < 2 ^ w)
    (record : Record w) : (TraceOp.traceValue r record).Late start := by
  rw [NTP.coherentTime] at hset
  have hpow : 2 ^ 32 ≤ 2 ^ w := Nat.pow_le_pow_right (by decide) hw
  have hmillis : start.millis.toNat < 2 ^ 32 := start.millis.isLt
  have helapsed : (start.millis.setWidth w - start.ntp.unixTimeUpdate).toNat =
      start.millis.toNat := by
    rw [hupdate, sub_zero, BitVec.toNat_setWidth, Nat.mod_eq_of_lt (by omega)]
  have hr := toNat_unixTime hw (r := r) (by omega) hfits
  have hstart : (start.unixTime.toNat : ℤ) = 0 + ↑(start.millis.toNat / 1000) := by
    have h := toNat_unixTime hw (r := start) (by omega)
    rw [hTS, helapsed] at h
    exact_mod_cast h (by omega)
  exact (late_traceValue_iff hw record (by omega) (by omega)).2 (by omega)

end Tracer
end Terremoti
