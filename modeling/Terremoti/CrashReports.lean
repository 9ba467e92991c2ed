import Terremoti.BaseUrl
import Terremoti.Lib.Spool
import Terremoti.TraceUpload

/-!
# Crash reports (`Watchdog::storeCrashInfos`, `HTTPClient::sendCrashReportDoWork`)

In the `DEBUG` build the watchdog process leaves a report of every reboot in a directory, in a file
named by the second, and after the next start a thread of the program posts what it finds there and
removes what has been answered with 200. A report is kept until the server has it whole, unless an
upload of it was begun while it was written (`crash_report_kept`).
-/

namespace Terremoti
open Message

/-- What the watchdog knows when it reboots the device: the clock, the memory, whether the program
was running and its heartbeat was there, what `crashHandler` has left, with a zero behind it in the
buffer it is read to, and a core dump. -/
structure CrashInfos where
  time : ℕ
  freeram : ℕ
  uptime : ℕ
  platform : List Byte
  buildversion : List Byte
  sketchPidRunning : Bool
  heartbeat : Bool
  stacktrace : Option (List Byte)
  core : Option (List Byte)
  reboots : sketchPidRunning = false ∨ heartbeat = false
  platform_lf : 10 ∉ platform
  buildversion_lf : 10 ∉ buildversion
  short : ∀ s ∈ stacktrace, s.length < 1024

def Utils.toStringNat (n : ℕ) : List Byte := (Digits.natural 10 n).map ascii

namespace CrashInfos

/-- The reason `Watchdog::launch` gives. -/
def reason (i : CrashInfos) : List Byte :=
  let reason := if i.heartbeat then [] else str "Heartbeat missed;"
  if i.sketchPidRunning then reason ++ str "Sketch is not running" else reason

/-- `Watchdog::storeCrashInfos`, as what it writes to the file. The watchdog process has been forked
before the configuration is loaded. -/
def storeCrashInfos (i : CrashInfos) : List Byte :=
  let reason := str "reason:" ++ i.reason ++ str "\n"
  let macstr := str "mac:" ++ (Config.boot : Config ℚ).macAddress ++ str "\n"
  let unixtime := str "time:" ++ Utils.toStringNat i.time ++ str "\n"
  let freemem := str "freeram:" ++ Utils.toStringNat i.freeram ++ str "\n"
  let uptime := str "uptime:" ++ Utils.toStringNat i.uptime ++ str "\n"
  let platform := str "platform:" ++ i.platform ++ str "\n"
  let buildversion := str "buildversion:" ++ i.buildversion ++ str "\n"
  let softwareversion := str "softwareversion:" ++ SOFTWARE_VERSION ++ str "\n"
  macstr ++ unixtime ++ freemem ++ uptime ++ platform ++ buildversion ++ softwareversion ++ reason ++
    (match i.stacktrace with
      | some buf => str "Crash infos:\n" ++ cstr buf
      | none => []) ++
    match i.core with
    | some buf => str "Core dump:\n" ++ buf
    | none => []

/-! ### What the server reads of it -/

/-- The values in a report. -/
def fields (i : CrashInfos) : List (List Byte × List Byte) :=
  [(str "mac", []), (str "time", Utils.toStringNat i.time),
    (str "freeram", Utils.toStringNat i.freeram), (str "uptime", Utils.toStringNat i.uptime),
    (str "platform", i.platform), (str "buildversion", i.buildversion),
    (str "softwareversion", SOFTWARE_VERSION), (str "reason", i.reason)]

/-- The first eight lines, split at the first colon. -/
def readFields (report : List Byte) : List (Option (List Byte × List Byte)) :=
  ((report.splitOn 10).take 8).map (Pairs.parse 58)

/-- What is behind the lines. -/
def attachments (i : CrashInfos) : List Byte :=
  (match i.stacktrace with
    | some buf => str "Crash infos:\n" ++ cstr buf
    | none => []) ++
  match i.core with
  | some buf => str "Core dump:\n" ++ buf
  | none => []

theorem storeCrashInfos_eq (i : CrashInfos) :
    i.storeCrashInfos = Pairs.text 10 58 i.fields ++ 10 :: i.attachments := by
  have hmac : str "mac:" = str "mac" ++ [58] := rfl
  have htime : str "time:" = str "time" ++ [58] := rfl
  have hfreeram : str "freeram:" = str "freeram" ++ [58] := rfl
  have huptime : str "uptime:" = str "uptime" ++ [58] := rfl
  have hplatform : str "platform:" = str "platform" ++ [58] := rfl
  have hbuild : str "buildversion:" = str "buildversion" ++ [58] := rfl
  have hsoftware : str "softwareversion:" = str "softwareversion" ++ [58] := rfl
  have hreason : str "reason:" = str "reason" ++ [58] := rfl
  have hlf : str "\n" = [10] := rfl
  rw [storeCrashInfos, attachments, hmac, htime, hfreeram, huptime, hplatform, hbuild, hsoftware,
    hreason, hlf]
  simp only [Pairs.text, fields, Pairs.render, List.map_cons, List.map_nil, List.intercalate,
    List.intersperse, List.flatten_cons, List.flatten_nil, List.append_assoc, List.cons_append,
    List.nil_append, List.append_nil, Config.boot]

theorem lf_notMem_toStringNat (n : ℕ) : (10 : Byte) ∉ Utils.toStringNat n :=
  notMem_ascii (fun _ hd => Digits.lt_of_mem_natural (by decide) hd) rfl

theorem lf_notMem_reason (i : CrashInfos) : 10 ∉ i.reason := by
  unfold reason
  cases i.heartbeat <;> cases i.sketchPidRunning <;> decide

theorem reason_suffix_iff (i : CrashInfos) :
    str "Sketch is not running" <:+ i.reason ↔ i.sketchPidRunning = true := by
  unfold reason
  cases i.heartbeat <;> cases i.sketchPidRunning <;> decide

theorem readFields_storeCrashInfos (i : CrashInfos) :
    readFields i.storeCrashInfos = i.fields.map some := by
  have hne : i.fields ≠ [] := List.cons_ne_nil _ _
  have hmid : ∀ p ∈ i.fields, (58 : Byte) ∉ p.1 := by
    simp only [fields, List.forall_mem_cons]
    exact ⟨by decide, by decide, by decide, by decide, by decide, by decide, by decide, by decide,
      List.forall_mem_nil _⟩
  have hkey : ∀ p ∈ i.fields, (10 : Byte) ∉ p.1 := by
    simp only [fields, List.forall_mem_cons]
    exact ⟨by decide, by decide, by decide, by decide, by decide, by decide, by decide, by decide,
      List.forall_mem_nil _⟩
  have hvalue : ∀ p ∈ i.fields, (10 : Byte) ∉ p.2 := by
    simp only [fields, List.forall_mem_cons]
    exact ⟨List.not_mem_nil, lf_notMem_toStringNat _, lf_notMem_toStringNat _,
      lf_notMem_toStringNat _, i.platform_lf, i.buildversion_lf, by decide, i.lf_notMem_reason,
      List.forall_mem_nil _⟩
  have hlines := Pairs.splitOn_text (show (10 : Byte) ≠ 58 by decide) hne hkey hvalue
  have hparse := Pairs.parse_splitOn_text (show (10 : Byte) ≠ 58 by decide) hne hmid hkey hvalue
  have hlen : ((Pairs.text 10 58 i.fields).splitOn 10).length = 8 := by
    rw [hlines, List.length_map]
    rfl
  rw [readFields, storeCrashInfos_eq, List.splitOn_append_cons_self, List.take_left' hlen, hparse]

end CrashInfos

/-! ### What is sent -/

/-- The page for the crash reports of a device. -/
def crashPage (hw : Fin 6 → Byte) : List Byte :=
  str "/seismocloud/crashreport.php?deviceid=" ++ Utils.getInterfaceMAC (some hw)

/-- What of a file reaches the server by `sendCrashReportDoWork` over a connection, before another
base URL has been configured. -/
def crashUpload (w : ℕ) (debugServer : Bool) (hw : Fin 6 → Byte) (file : List Byte) : List Byte :=
  Tcp.written (HTTPClient.postFile w (HTTPClient.baseUrl debugServer ++
    str "crashreport.php?deviceid=" ++ Utils.getInterfaceMAC (some hw)) file)

def crashURL (debugServer : Bool) (hw : Fin 6 → Byte) : URL :=
  { HTTPClient.baseURL debugServer with
    path := crashPage hw
    slash := .inr rfl
    path_nul := by
      rw [crashPage, List.mem_append, not_or]
      exact ⟨by decide, (hasTracePage_getInterfaceMAC hw).nul⟩ }

theorem legible_crashURL (debugServer : Bool) (hw : Fin 6 → Byte) :
    (crashURL debugServer hw).Legible := by
  have hhost : 13 ∉ (HTTPClient.baseURL debugServer).host ∧
      (HTTPClient.baseURL debugServer).host.head? ≠ some 32 := by
    cases debugServer <;> exact ⟨by decide, by decide⟩
  have hid := hasTracePage_getInterfaceMAC hw
  refine ⟨hhost, ?_, ?_⟩
  · show 32 ∉ crashPage hw
    rw [crashPage, List.mem_append, not_or]
    exact ⟨by decide, hid.blank⟩
  · show 13 ∉ crashPage hw
    rw [crashPage, List.mem_append, not_or]
    exact ⟨by decide, hid.cr⟩

theorem parse_crashUpload {w : ℕ} (hw32 : 32 ≤ w) (debugServer : Bool) (hw : Fin 6 → Byte)
    {file : List Byte} (hsize : file.length ≤ 0x7ffff000) (rest : List Byte) :
    parse (crashUpload w debugServer hw file ++ rest) =
      some (HTTPClient.fileTo (crashURL debugServer hw) file, rest) := by
  have hfits : HTTPClient.Fits (crashURL debugServer hw) := by
    refine ⟨List.cons_ne_nil _ _, ?_⟩
    show (crashPage hw).length ≤ 1009
    rw [crashPage, List.length_append]
    have hpage : (str "/seismocloud/crashreport.php?deviceid=").length = 38 := by decide
    have hlen := length_getInterfaceMAC hw
    omega
  have hurl : HTTPClient.baseUrl debugServer ++ str "crashreport.php?deviceid=" ++
      Utils.getInterfaceMAC (some hw) = (crashURL debugServer hw).bytes := by
    cases debugServer <;> rfl
  rw [crashUpload, hurl]
  exact HTTPClient.parse_postFile_whole hw32 (legible_crashURL debugServer hw) hfits hsize rest

/-! ### Over all orders -/

/-- What the watchdog process and the thread do to the directory: the report of a crash is written
step by step, a file is sent and its response comes; or both processes end. -/
inductive CrashOp
  | fopen (i : CrashInfos)
  | fflush (n : ℕ)
  | fclose
  | send (time : ℕ)
  | response (resp : HTTPResponse)
  | restart

namespace CrashOp

/-- `storeCrashInfos` and `sendCrashReportDoWork`, as operations on the files of the seconds. -/
def op : CrashOp → Spool.Op ℕ Byte
  | fopen i => .fopen i.time i.storeCrashInfos
  | fflush n => .fflush n
  | fclose => .fclose
  | send time => .send time
  | response resp => .reply (decide (resp.error = .HTTP_OK ∧ resp.responseCode = 200))
  | restart => .restart

def run (ops : List CrashOp) : Spool.State ℕ Byte := Spool.run Spool.empty (ops.map op)

def Opens (time : ℕ) (o : CrashOp) : Prop := ∃ i, o = fopen i ∧ i.time = time

theorem not_opens_of_map {time : ℕ} {ops : List CrashOp} (h : ∀ o ∈ ops, ¬ o.Opens time) :
    ∀ o ∈ ops.map op, ¬ o.Opens time := by
  intro o ho
  obtain ⟨o, hmem, rfl⟩ := List.mem_map.1 ho
  rintro ⟨text, htext⟩
  cases o with
  | fopen i => exact h _ hmem ⟨i, rfl, (Spool.Op.fopen.inj htext).1⟩
  | _ => cases htext

end CrashOp

/-- A report written to its end, in a second in which no other is written, is in the directory or has
been answered with 200, in any order of what the two processes do and of restarts, exactly if the
uploads of it that have been answered with 200 were whole. A whole one the server reads as the id and
the values of the report; the reason names a stopped program exactly if the program was running. -/
theorem crash_report_kept {w : ℕ} (hw32 : 32 ≤ w) (debugServer : Bool) (hw : Fin 6 → Byte)
    (i : CrashInfos) (hsize : i.storeCrashInfos.length ≤ 0x7ffff000) {pre post : List CrashOp}
    (hpre : ∀ o ∈ pre, ¬ o.Opens i.time) (hpost : ∀ o ∈ post, ¬ o.Opens i.time) :
    let report := i.storeCrashInfos
    let s := CrashOp.run (pre ++ .fopen i :: post)
    ((i.time, report) ∈ s.stored →
      ((s.files i.time = some report ∨ (i.time, report) ∈ s.accepted) ↔
        ∀ sent, (i.time, sent) ∈ s.accepted → sent = report)) ∧
    (∀ rest, ∃ m, parse (crashUpload w debugServer hw report ++ rest) = some (m, rest) ∧
      m.method = str "POST" ∧ m.target = crashPage hw ∧
      CrashInfos.readFields m.body = i.fields.map some) ∧
    (str "Sketch is not running" <:+ i.reason ↔ i.sketchPidRunning = true) := by
  intro report s
  refine ⟨?_, fun rest => ?_, i.reason_suffix_iff⟩
  · have hrun : s = Spool.run Spool.empty (pre.map CrashOp.op ++
        .fopen i.time report :: post.map CrashOp.op) := by
      simp only [s, CrashOp.run, List.map_append, List.map_cons, CrashOp.op, report]
    rw [hrun]
    exact Spool.kept_iff (CrashOp.not_opens_of_map hpre) (CrashOp.not_opens_of_map hpost)
  · exact ⟨_, parse_crashUpload hw32 debugServer hw hsize rest, rfl, rfl,
      i.readFields_storeCrashInfos⟩

/-- The report of a program that hangs. -/
def hung : CrashInfos where
  time := 1500000000
  freeram := 123456
  uptime := 4000
  platform := str "galileo2"
  buildversion := str "unknown"
  sketchPidRunning := true
  heartbeat := false
  stacktrace := none
  core := none
  reboots := .inr rfl
  platform_lf := by decide
  buildversion_lf := by decide
  short := by simp

/-- The first time the upload begins after a restart, the second time while the report is written. -/
theorem crash_report_kept_hung :
    let report := hung.storeCrashInfos
    let ok : HTTPResponse := TraceRun.reply ""
    let late := CrashOp.run [.fopen hung, .fflush 3, .fclose, .restart, .send hung.time, .response ok]
    let early := CrashOp.run [.fopen hung, .fflush 3, .send hung.time, .fclose, .response ok]
    (late.files hung.time = some report ∨ (hung.time, report) ∈ late.accepted) ∧
      ¬ (early.files hung.time = some report ∨ (hung.time, report) ∈ early.accepted) := by
  intro report ok late early
  have hsize : report.length ≤ 0x7ffff000 := by decide +kernel
  have hshort : report.take 3 ≠ report := by decide +kernel
  have hpost : ∀ o ∈ [CrashOp.fflush 3, .fclose, .restart, .send hung.time, .response ok],
      ¬ o.Opens hung.time := by
    simp [CrashOp.Opens]
  have hpost' : ∀ o ∈ [CrashOp.fflush 3, .send hung.time, .fclose, .response ok],
      ¬ o.Opens hung.time := by
    simp [CrashOp.Opens]
  have hlate := (crash_report_kept (w := 32) le_rfl false (fun _ => 0) hung hsize
    (List.forall_mem_nil _) hpost).1
  have hearly := (crash_report_kept (w := 32) le_rfl false (fun _ => 0) hung hsize
    (List.forall_mem_nil _) hpost').1
  have hlate_accepted : late.accepted = [(hung.time, report)] := rfl
  have hearly_accepted : early.accepted = [(hung.time, report.take 3)] := rfl
  refine ⟨(hlate List.mem_cons_self).2 fun sent hsent => ?_, fun h => hshort ?_⟩
  · have hwhole : (hung.time, sent) ∈ late.accepted := hsent
    rw [hlate_accepted, List.mem_singleton] at hwhole
    exact (Prod.mk.inj hwhole).2
  · have hpart : (hung.time, report.take 3) ∈ early.accepted := by
      rw [hearly_accepted]
      exact List.mem_singleton_self _
    exact (hearly List.mem_cons_self).1 h _ hpart

end Terremoti
