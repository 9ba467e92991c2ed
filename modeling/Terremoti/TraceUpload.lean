import Terremoti.HttpSent
import Terremoti.Lib.Records
import Terremoti.Lives
import Terremoti.Trace

/-!
# Traces as a server reads them (`TraceAccumulator::setTrace`)

`Recorder` says what the traces are for: the samples from a request to the first sample that comes too
late. The `TraceAccumulator` is a recorder whose records are bytes in a file (`run_eq_tracer`), and
from the files it posts the server gets the recordings, by the sizes in their headers, but for those
it has no connection for (`uploads_read`).
-/

namespace Terremoti
open Message

variable {w : ℕ}

/-! ### The recordings -/

/-- The recordings that have ended, and the one that has not, with the reading it was started with. -/
structure Recorder (w : ℕ) where
  done : List (List (Record w))
  current : Option (Reading w × List (Record w))

instance (start : Reading w) : ∀ o : TraceOp w, Decidable (o.Late start)
  | .setTrace _ => inferInstanceAs (Decidable False)
  | .traceValue _ _ => inferInstanceAs (Decidable (_ ∧ _))

namespace Recorder

def apply (m : Recorder w) : TraceOp w → Recorder w
  | .setTrace r =>
    match m.current with
    | none => { m with current := some (r, []) }
    | some _ => m
  | .traceValue r record =>
    match m.current with
    | none => m
    | some (start, records) =>
      if (TraceOp.traceValue r record).Late start then ⟨m.done ++ [records], none⟩
      else { m with current := some (start, records ++ [record]) }

def run (ops : List (TraceOp w)) : Recorder w := ops.foldl apply ⟨[], none⟩

theorem run_concat (ops : List (TraceOp w)) (o : TraceOp w) :
    run (ops ++ [o]) = (run ops).apply o := List.foldl_concat apply _ o ops

/-! ### Their files -/

def file (records : List (Record w)) : List Byte := Tracer.head w ++ records.flatMap Record.bytes

/-- The `TraceAccumulator` that has these recordings. -/
def tracer (m : Recorder w) : Tracer w :=
  match m.current with
  | none => ⟨⟨false, 0⟩, [], m.done.map file⟩
  | some (start, records) => ⟨⟨true, start.unixTime⟩, file records, m.done.map file⟩

theorem apply_tracer (m : Recorder w) (o : TraceOp w) : m.tracer.apply o = (m.apply o).tracer := by
  obtain ⟨done, current⟩ := m
  cases o with
  | setTrace r =>
    cases current with
    | none =>
      have hopen := Tracer.setTrace_closed (t := (⟨done, none⟩ : Recorder w).tracer) rfl r
      rw [hopen]
      exact congrArg (fun b => Tracer.mk _ b _) (List.append_nil _).symm
    | some c => rfl
  | traceValue r record =>
    cases current with
    | none =>
      have hoff : ¬((0 : BitVec w) ≠ 0 ∧ (0 : BitVec w) < r.unixTime - BitVec.ofNat w (60 * 15)) :=
        fun h => h.1 rfl
      show Tracer.traceValue r.unixTime record ⟨⟨false, 0⟩, [], done.map file⟩ = _
      rw [Tracer.traceValue, if_neg hoff, if_neg Bool.false_ne_true]
      rfl
    | some c =>
      obtain ⟨start, records⟩ := c
      show Tracer.traceValue r.unixTime record ⟨⟨true, start.unixTime⟩, file records,
        done.map file⟩ = _
      by_cases hlate : (TraceOp.traceValue r record).Late start
      · have hdone : (done ++ [records]).map file = done.map file ++ [file records] :=
          List.map_append
        have htest : start.unixTime ≠ 0 ∧ start.unixTime < r.unixTime - BitVec.ofNat w (60 * 15) :=
          hlate
        rw [Tracer.traceValue, if_pos htest, Tracer.setTrace, if_pos ⟨rfl, rfl⟩, apply]
        dsimp only
        rw [if_pos hlate, tracer, hdone]
      · have hfile : file (records ++ [record]) = file records ++ record.bytes := by
          rw [file, file, List.flatMap_append, List.flatMap_singleton, List.append_assoc]
        have htest : ¬(start.unixTime ≠ 0 ∧
            start.unixTime < r.unixTime - BitVec.ofNat w (60 * 15)) := hlate
        rw [Tracer.traceValue, if_neg htest, if_pos rfl, apply]
        dsimp only
        rw [if_neg hlate, ← hfile]
        rfl

theorem run_eq_tracer (ops : List (TraceOp w)) : Tracer.init.run ops = (run ops).tracer := by
  induction ops using List.reverseRecOn with
  | nil => rfl
  | append_singleton ops o ih =>
    rw [Tracer.run_append, ih, run_concat]
    exact apply_tracer (run ops) o

/-- The records in a recording that has not ended. -/
def pending (m : Recorder w) : List (Record w) := (m.current.map Prod.snd).getD []

theorem apply_length {m : Recorder w} {n : ℕ} (hdone : ∀ records ∈ m.done, records.length ≤ n)
    (hpending : m.pending.length ≤ n) (o : TraceOp w) :
    (∀ records ∈ (m.apply o).done, records.length ≤ n + 1) ∧ (m.apply o).pending.length ≤ n + 1 := by
  have hkept : ∀ records ∈ m.done, records.length ≤ n + 1 := fun records h =>
    (hdone records h).trans (Nat.le_succ n)
  obtain ⟨done, current⟩ := m
  cases o with
  | setTrace r =>
    cases current with
    | none => exact ⟨hkept, Nat.zero_le _⟩
    | some c => exact ⟨hkept, hpending.trans (Nat.le_succ n)⟩
  | traceValue r record =>
    cases current with
    | none => exact ⟨hkept, Nat.zero_le _⟩
    | some c =>
      obtain ⟨start, records⟩ := c
      rw [apply]
      dsimp only
      split_ifs
      · refine ⟨fun l hl => ?_, Nat.zero_le _⟩
        rcases List.mem_append.1 hl with hl | hl
        · exact hkept l hl
        · exact (List.mem_singleton.1 hl) ▸ hpending.trans (Nat.le_succ n)
      · have hlen : (records ++ [record]).length = records.length + 1 := List.length_append
        exact ⟨hkept, hlen.trans_le (Nat.succ_le_succ hpending)⟩

/-- A recording has no more records than there have been calls. -/
theorem length_le (ops : List (TraceOp w)) :
    (∀ records ∈ (run ops).done, records.length ≤ ops.length) ∧
      (run ops).pending.length ≤ ops.length := by
  induction ops using List.reverseRecOn with
  | nil => exact ⟨List.forall_mem_nil _, le_rfl⟩
  | append_singleton ops o ih =>
    rw [run_concat, List.length_append, List.length_singleton]
    exact apply_length ih.1 ih.2 o

end Recorder

/-! ### What the server gets -/

/-- A sample as it is read from a file. -/
structure Sample where
  ts : ℕ
  val : BitVec 32
  threshold : BitVec 32
  avg : BitVec 32
  stddev : BitVec 32
  sigma : BitVec 32
  deriving DecidableEq

def Record.sample (r : Record w) : Sample :=
  ⟨r.ts.toNat, r.val, r.threshold, r.avg, r.stddev, r.sigma⟩

/-- A sample whose time has `size` bytes. -/
def Sample.ofBytes (size : ℕ) (s : List Byte) : Sample :=
  let float := fun k => Utils.load32 (s.drop (size + 4 * k))
  ⟨Nat.ofDigits 256 ((s.take size).map BitVec.toNat), float 0, float 1, float 2, float 3, float 4⟩

/-- A trace file, by its version and the two sizes in its header. -/
def readTrace : List Byte → Option (List Sample)
  | version :: long :: float :: s =>
    if version = 1 ∧ float = 4 then
      Records.readAll (long.toNat + 20) (Sample.ofBytes long.toNat) s
    else none
  | _ => none

theorem ofDigits_le_bytes (hw : 8 ∣ w) (ts : BitVec w) :
    Nat.ofDigits 256 (((List.range (w / 8)).map fun k => ts.extractLsb' (8 * k) 8).map
      BitVec.toNat) = ts.toNat := by
  have hdigits : ((List.range (w / 8)).map fun k => ts.extractLsb' (8 * k) 8).map BitVec.toNat =
      Records.littleEndian (w / 8) ts.toNat := by
    rw [Records.littleEndian, List.map_map]
    refine List.map_congr_left fun k _ => ?_
    show (ts.extractLsb' (8 * k) 8).toNat = _
    rw [BitVec.extractLsb'_toNat, Nat.shiftRight_eq_div_pow, pow_mul]
    rfl
  have hpow : 256 ^ (w / 8) = 2 ^ w := by
    rw [show 256 = 2 ^ 8 from rfl, ← pow_mul, Nat.mul_div_cancel' hw]
  rw [hdigits, Records.ofDigits_littleEndian, hpow, Nat.mod_eq_of_lt ts.isLt]

theorem Sample.ofBytes_bytes (hw : 8 ∣ w) (r : Record w) :
    Sample.ofBytes (w / 8) r.bytes = r.sample := by
  have hts := ofDigits_le_bytes hw r.ts
  have hlen : ((List.range (w / 8)).map fun k => r.ts.extractLsb' (8 * k) 8).length = w / 8 := by
    simp
  rw [Record.bytes]
  generalize (List.range (w / 8)).map (fun k => r.ts.extractLsb' (8 * k) 8) = time at hts hlen
  simp only [List.append_assoc]
  have hfloat : ∀ k rest, Utils.load32 ((time ++ rest).drop (w / 8 + 4 * k)) =
      Utils.load32 (rest.drop (4 * k)) := by
    intro k rest
    rw [← List.drop_drop, List.drop_left' hlen]
  rw [ofBytes, List.take_left' hlen, hts]
  simp only [hfloat]
  exact Sample.mk.injEq .. ▸ ⟨rfl, Utils.load32_bytes32 r.val _, Utils.load32_bytes32 r.threshold _,
    Utils.load32_bytes32 r.avg _, Utils.load32_bytes32 r.stddev _, Utils.load32_bytes32 r.sigma []⟩

theorem readTrace_file (hw : 8 ∣ w) (hw' : w < 2048) (records : List (Record w)) :
    readTrace (Recorder.file records) = some (records.map Record.sample) := by
  have hlong : (BitVec.ofNat 8 (w / 8)).toNat = w / 8 := by
    rw [BitVec.toNat_ofNat]
    omega
  show readTrace (1 :: BitVec.ofNat 8 (w / 8) :: 4 :: records.flatMap Record.bytes) = _
  rw [readTrace, if_pos ⟨rfl, rfl⟩, hlong,
    Records.readAll_flatMap (Nat.succ_pos _) Record.length_bytes]
  exact congrArg some (List.map_congr_left fun r _ => Sample.ofBytes_bytes hw r)

/-- The page on the server, and the samples of a trace posted to it. -/
def readUpload (s : List Byte) : Option (List Byte × List Sample) :=
  match parse s with
  | some (m, []) => (readTrace m.body).map fun samples => (m.target, samples)
  | _ => none

/-- What of `setTrace(false)` reaches the server from a device with the id `macAddress`. The file is
removed also if `connectTo` fails. -/
def traceUpload (w : ℕ) (macAddress : List Byte) (connected : Bool) (file : List Byte) :
    List Byte :=
  if connected then
    Tcp.written (HTTPClient.postFile w
      (str "http://www.seismocloud.com/trace/push.php?deviceid=" ++ macAddress) file)
  else []

/-- The page for the traces of a device. -/
def tracePage (macAddress : List Byte) : List Byte :=
  str "/trace/push.php?deviceid=" ++ macAddress

/-- The id can stand in a start line, and there is room for it. -/
structure HasTracePage (macAddress : List Byte) : Prop where
  blank : 32 ∉ macAddress
  cr : 13 ∉ macAddress
  nul : 0 ∉ macAddress
  length : macAddress.length ≤ 984

/-- As the address of an interface can. -/
theorem hasTracePage_getInterfaceMAC (hw : Fin 6 → Byte) :
    HasTracePage (Utils.getInterfaceMAC (some hw)) := by
  have hchars : ∀ c ∈ [(32 : Byte), 13, 0], c ∉ Utils.getInterfaceMAC (some hw) := by
    intro c hc hmem
    obtain ⟨d, hd, rfl⟩ := mem_getInterfaceMAC hmem
    exact absurd hc (by interval_cases d <;> decide)
  refine ⟨hchars 32 (by decide), hchars 13 (by decide), hchars 0 (by decide), ?_⟩
  rw [length_getInterfaceMAC]
  omega

section
variable {macAddress : List Byte}

theorem fits_traceHost : (str "www.seismocloud.com").length ≤ 99 := by decide

theorem bare_traceHost : ∀ c ∈ str "www.seismocloud.com", c ≠ 47 ∧ c ≠ 58 ∧ c ≠ 0 := by decide

theorem legible_traceHost :
    13 ∉ str "www.seismocloud.com" ∧ (str "www.seismocloud.com").head? ≠ some 32 := by decide

def traceURL (h : HasTracePage macAddress) : URL where
  host := str "www.seismocloud.com"
  port := none
  path := tracePage macAddress
  named := List.cons_ne_nil _ _
  fits := fits_traceHost
  bare := bare_traceHost
  slash := .inr rfl
  path_nul := by
    rw [tracePage, List.mem_append, not_or]
    exact ⟨by decide, h.nul⟩

theorem legible_traceURL (h : HasTracePage macAddress) : (traceURL h).Legible := by
  refine ⟨legible_traceHost, ?_, ?_⟩
  · show 32 ∉ tracePage macAddress
    rw [tracePage, List.mem_append, not_or]
    exact ⟨by decide, h.blank⟩
  · show 13 ∉ tracePage macAddress
    rw [tracePage, List.mem_append, not_or]
    exact ⟨by decide, h.cr⟩

theorem readUpload_traceUpload (hw : w = 32 ∨ w = 64) (h : HasTracePage macAddress)
    (connected : Bool) {records : List (Record w)}
    (hsize : (Recorder.file records).length ≤ 0x7ffff000) :
    readUpload (traceUpload w macAddress connected (Recorder.file records)) =
      if connected then some (tracePage macAddress, records.map Record.sample) else none := by
  cases connected with
  | false => rfl
  | true =>
    have hw32 : 32 ≤ w := by omega
    have hfits : HTTPClient.Fits (traceURL h) := by
      refine ⟨List.cons_ne_nil _ _, ?_⟩
      show (tracePage macAddress).length ≤ 1009
      rw [tracePage, List.length_append]
      have hpage : (str "/trace/push.php?deviceid=").length = 25 := by decide
      have hlen := h.length
      omega
    have hread := HTTPClient.parse_postFile_whole hw32 (legible_traceURL h) hfits hsize []
    have hsamples := readTrace_file (show 8 ∣ w by omega) (by omega) records
    rw [List.append_nil] at hread
    have hupload : parse (traceUpload w macAddress true (Recorder.file records)) = _ := hread
    rw [readUpload, hupload]
    dsimp only [HTTPClient.fileTo]
    rw [hsamples]
    rfl

/-- Over any run of calls the server gets the recordings there is a connection for, and nothing
else. -/
theorem uploads_read (hw : w = 32 ∨ w = 64) (h : HasTracePage macAddress) {ops : List (TraceOp w)}
    (hsize : 3 + ops.length * (w / 8 + 20) ≤ 0x7ffff000) (connected : ℕ → Bool) :
    (Tracer.init.run ops).sent.mapIdx
        (fun k file => readUpload (traceUpload w macAddress (connected k) file)) =
      (Recorder.run ops).done.mapIdx fun k records =>
        if connected k then some (tracePage macAddress, records.map Record.sample) else none := by
  have hsent : (Tracer.init.run ops).sent = (Recorder.run ops).done.map Recorder.file := by
    rw [Recorder.run_eq_tracer, Recorder.tracer]
    cases (Recorder.run ops).current <;> rfl
  rw [hsent]
  refine List.ext_getElem (by simp) fun k _ hk => ?_
  rw [List.length_mapIdx] at hk
  rw [List.getElem_mapIdx, List.getElem_mapIdx, List.getElem_map]
  have hcount := (Recorder.length_le ops).1 _ (List.getElem_mem hk)
  have hhead : (Tracer.head w).length = 3 := rfl
  have hlen : (Recorder.file (Recorder.run ops).done[k]).length ≤
      3 + ops.length * (w / 8 + 20) := by
    rw [Recorder.file, List.length_append, Records.length_flatMap Record.length_bytes, hhead]
    exact Nat.add_le_add_left (Nat.mul_le_mul_right _ hcount) 3
  exact readUpload_traceUpload hw h (connected k) (hlen.trans hsize)

end

/-- A reading `k` seconds after the start. -/
def secondsIn (k : ℕ) : Reading 32 :=
  ⟨k * 1000, { NTP.init with unixTimeTS := 1000 }, BitVec.ofNat 32 (k * 1000)⟩

/-- A sample in the trace, one that ends it and one after it. -/
theorem uploads_read_one :
    let hw : Fin 6 → Byte := ![2, 4, 6, 8, 10, 12]
    let record : Record 32 := ⟨1010, 1, 2, 3, 4, 5⟩
    let late : Record 32 := ⟨2000, 1, 2, 3, 4, 5⟩
    let ops := [.setTrace (secondsIn 0), .traceValue (secondsIn 10) record,
      .traceValue (secondsIn 901) late, .traceValue (secondsIn 902) late]
    (Tracer.init.run ops).sent.mapIdx (fun _ file =>
      readUpload (traceUpload 32 (Utils.getInterfaceMAC (some hw)) true file)) =
      [some (tracePage (Utils.getInterfaceMAC (some hw)), [⟨1010, 1, 2, 3, 4, 5⟩])] := by
  intro hw record late ops
  have hdone : (Recorder.run ops).done = [[record]] := rfl
  have hread := uploads_read (.inl rfl) (hasTracePage_getInterfaceMAC hw)
    (show 3 + ops.length * (32 / 8 + 20) ≤ 0x7ffff000 by decide) fun _ => true
  rw [hdone] at hread
  exact hread

end Terremoti
