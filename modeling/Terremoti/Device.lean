import Mathlib.Data.List.Basic
import Terremoti.Config
import Terremoti.NTP
import Terremoti.Seismometer

/-!
# The state of a device

`Device` gathers the static fields and singletons of the program's classes as far as a command, a
server reply or a turn of the main loop reads or writes them, with the small functions that set them
(`Log`, `HTTPClient`, `TraceAccumulator`, `Config`). What depends on the build is in `Build` and
`Platform` (`vendor/`).
-/

namespace Terremoti

/-! ### Builds -/

/-- The directories of `vendor/`, the Galileo in its two generations. -/
inductive Platform
  | raspi
  | galileo1
  | galileo2
  | linux_x86
  | mac_osx
  deriving DecidableEq

namespace Platform

def tag : Platform → List Byte
  | raspi => str "raspi"
  | galileo1 => str "galileo1"
  | galileo2 => str "galileo2"
  | linux_x86 => str "linux-x86"
  | mac_osx => str "mac-osx"

def getPlatformName : Platform → List Byte
  | raspi => str "RaspberryPI"
  | galileo1 => str "Intel Galileo Gen1"
  | galileo2 => str "Intel Galileo Gen2"
  | linux_x86 => str "Linux Generic"
  | mac_osx => str "OSX Generic"

def getAccelerometerName : Platform → List Byte
  | raspi => str "ADXL345"
  | galileo1 | galileo2 => str "MMA7361"
  | linux_x86 | mac_osx => str "Dummy"

/-- `platformUpgrade` returns: the generic platforms only log the hint. -/
def upgradeReturns : Platform → Bool
  | raspi | galileo1 | galileo2 => false
  | linux_x86 | mac_osx => true

end Platform

/-- A build; `debug` says whether `DEBUG` is defined. -/
structure Build where
  platform : Platform
  debug : Bool

/-- The `Makefile` defines `NOWATCHDOG` for the Raspberry Pi. That it can be asked to for other
platforms is not modelled. -/
def Build.watchdog (b : Build) : Bool := decide (b.platform ≠ .raspi)

def SOFTWARE_VERSION : List Byte := str "2.15"

/-! ### The parts of a device -/

structure Log where
  syslogServer : IPaddr
  syslogEnabled : Bool
  deriving DecidableEq

def Log.setSyslogServer (server : IPaddr) (l : Log) : Log :=
  if server = 0 then { l with syslogEnabled := false } else ⟨server, true⟩

/-- `class TraceAccumulator`; `traceFile` says whether the pointer is not `NULL`. -/
structure TraceAccumulator (w : ℕ) where
  traceFile : Bool
  traceStartedAt : BitVec w
  deriving DecidableEq

def TraceAccumulator.start {w : ℕ} (now : BitVec w) (t : TraceAccumulator w) : TraceAccumulator w :=
  if t.traceFile = false then ⟨true, now⟩ else t

/-- `platformReboot` and, on the boards, `platformUpgrade` do not return; a `blocked` program is in a
ping or in an HTTP request that does not return. -/
inductive Status
  | running
  | rebooting
  | upgrading
  | blocked
  deriving DecidableEq

/-- The state of a device: `file` is the saved configuration, `writable` says whether it can be
opened for writing. -/
structure Device (w : ℕ) (D : Type) where
  config : Config D
  file : Option (List Byte)
  writable : Bool
  log : Log
  ntp : NTP w
  baseUrl : List Byte
  trace : TraceAccumulator w
  seismometer : Seismometer w D
  status : Status

namespace Device

variable {w : ℕ} {D : Type}

def init [Double D] : Device w D where
  config := ⟨[], (0 : ℕ), (0 : ℕ)⟩
  file := none
  writable := true
  log := ⟨0, false⟩
  ntp := NTP.init
  baseUrl := str "http://www.sapienzaapps.it/seismocloud/"
  trace := ⟨false, 0⟩
  seismometer := Seismometer.init
  status := .running

def platformReboot (d : Device w D) : Device w D := { d with status := .rebooting }

def block (d : Device w D) : Device w D := { d with status := .blocked }

def unlinkConfig (d : Device w D) : Device w D := { d with file := none }

/-- `TraceAccumulator::setTrace(true)`; `now` is the value of `Utils::millis`. -/
def startTrace (now : BitVec 32) (d : Device w D) : Device w D :=
  { d with trace := d.trace.start (d.ntp.getUNIXTime now) }

def setBaseURL (baseUrl : List Byte) (d : Device w D) : Device w D :=
  { d with baseUrl := if baseUrl.getLast? = some 47 then baseUrl else baseUrl ++ [47] }

def setNTPServer (ntpserver : List Byte) (d : Device w D) : Device w D :=
  { d with ntp := d.ntp.setNTPServer ntpserver }

def setSigmaIter [Double D] (i : D) (d : Device w D) : Device w D :=
  { d with seismometer := { d.seismometer with
      toStatistics := d.seismometer.toStatistics.setSigmaIter i } }

def resetLastPeriod [Double D] (d : Device w D) : Device w D :=
  { d with seismometer := { d.seismometer with
      toStatistics := d.seismometer.toStatistics.resetLastPeriod } }

variable [DoubleText D]

def save (d : Device w D) : Device w D :=
  if d.writable then { d with file := some d.config.save } else d

def setLatitude (lat : D) (d : Device w D) : Device w D :=
  save { d with config := { d.config with lat := lat } }

def setLongitude (lon : D) (d : Device w D) : Device w D :=
  save { d with config := { d.config with lon := lon } }

@[simp] theorem save_config (d : Device w D) : d.save.config = d.config := by
  unfold save; split <;> rfl

@[simp] theorem save_ntp (d : Device w D) : d.save.ntp = d.ntp := by
  unfold save; split <;> rfl

@[simp] theorem save_log (d : Device w D) : d.save.log = d.log := by
  unfold save; split <;> rfl

@[simp] theorem save_trace (d : Device w D) : d.save.trace = d.trace := by
  unfold save; split <;> rfl

@[simp] theorem save_seismometer (d : Device w D) : d.save.seismometer = d.seismometer := by
  unfold save; split <;> rfl

@[simp] theorem save_status (d : Device w D) : d.save.status = d.status := by
  unfold save; split <;> rfl

end Device
end Terremoti
