import Terremoti.CDouble
import Terremoti.CmdPosition
import Terremoti.Lib.Rewrite

/-!
# A position set while the power fails (`Config::setLongitude`, `Config::setLatitude`)

`SENDGPS` sets the longitude and then the latitude, and each setter rewrites the whole file in
place. `sendGpsOps` are the file operations of the two (`run_sendGpsOps`: together they do to the
file what the command does), and `leaves_sendGpsOps` says what may be on the disk in between: an
empty file, or one with the new longitude and the old latitude. `sendGps_leaves_iff` adds what the
next boot reads there.
-/

namespace Terremoti
open Rewrite

/-! ### The file operations -/

namespace Config
variable {D : Type}

/-- The static initialisers of `class Config`. -/
def boot [NatCast D] : Config D := ⟨[], (0 : ℕ), (0 : ℕ)⟩

variable [DoubleText D]

/-- What the three `fwrite` of `Config::save` write. -/
def saved (c : Config D) : List (List Byte) :=
  [snprintf 200 (str "deviceid:" ++ cstr c.macAddress ++ [10]),
    snprintf 200 (str "lat:" ++ DoubleText.printf c.lat ++ [10]),
    snprintf 200 (str "lon:" ++ DoubleText.printf c.lon ++ [10])]

theorem flatten_saved (c : Config D) : c.saved.flatten = c.save := by
  simp [saved, save]

/-- The configuration as the file keeps it: of each coordinate the first 8 characters. -/
def stored (c : Config D) : Config D :=
  { c with
    lat := Utils.atofn (DoubleText.printf c.lat) 8
    lon := Utils.atofn (DoubleText.printf c.lon) 8 }

end Config

namespace Device
variable {w : ℕ} {D : Type} [DoubleText D]

def disk (d : Device w D) : Disk Byte := { file := d.file }

def saveOps (d : Device w D) : List (Op Byte) :=
  if d.writable then rewrite d.config.saved else []

def setLatitudeOps (lat : D) (d : Device w D) : List (Op Byte) :=
  saveOps { d with config := { d.config with lat := lat } }

def setLongitudeOps (lon : D) (d : Device w D) : List (Op Byte) :=
  saveOps { d with config := { d.config with lon := lon } }

/-- The file operations of `SENDGPS`, once the address is the device's own. -/
def sendGpsOps (lat lon : D) (d : Device w D) : List (Op Byte) :=
  d.setLongitudeOps lon ++ (d.setLongitude lon).setLatitudeOps lat

theorem run_saveOps (d : Device w D) : d.disk.run d.saveOps = d.save.disk := by
  unfold saveOps save
  split
  · rw [run_rewrite, Config.flatten_saved]; rfl
  · rfl

theorem leaves_saveOps (d : Device w D) (file : Option (List Byte)) :
    Leaves d.saveOps d.disk file ↔
      file = d.file ∨ d.writable = true ∧ (file = some [] ∨ file = some d.config.save) := by
  unfold saveOps
  split
  · rename_i hw
    rw [leaves_rewrite, Config.flatten_saved]
    simp [hw, disk]
  · rename_i hw
    rw [leaves_nil]
    simp [hw, disk]

theorem run_setLongitudeOps (lon : D) (d : Device w D) :
    d.disk.run (d.setLongitudeOps lon) = (d.setLongitude lon).disk :=
  run_saveOps { d with config := { d.config with lon := lon } }

theorem run_sendGpsOps (lat lon : D) (d : Device w D) :
    d.disk.run (d.sendGpsOps lat lon) = ((d.setLongitude lon).setLatitude lat).disk := by
  rw [sendGpsOps, Disk.run_append, run_setLongitudeOps]
  exact run_saveOps { d.setLongitude lon with
    config := { (d.setLongitude lon).config with lat := lat } }

theorem leaves_sendGpsOps (lat lon : D) (d : Device w D) (file : Option (List Byte)) :
    Leaves (d.sendGpsOps lat lon) d.disk file ↔
      file = d.file ∨ d.writable = true ∧ (file = some [] ∨
        file = some { d.config with lon := lon }.save ∨
        file = some { d.config with lat := lat, lon := lon }.save) := by
  have hlon : Leaves (d.setLongitudeOps lon) d.disk file ↔ _ :=
    leaves_saveOps { d with config := { d.config with lon := lon } } file
  have hlat : Leaves ((d.setLongitude lon).setLatitudeOps lat) (d.setLongitude lon).disk file ↔ _ :=
    leaves_saveOps { d.setLongitude lon with
      config := { (d.setLongitude lon).config with lat := lat } } file
  rw [sendGpsOps, leaves_append, hlon, run_setLongitudeOps, hlat]
  -- between the two setters the file is the one the first has written
  cases hw : d.writable with
  | false => simp [setLongitude, save, hw]
  | true =>
    simp only [setLongitude, save, hw, if_true, true_and]
    constructor
    · rintro ((h | h | h) | h | h | h) <;> simp [h]
    · rintro (h | h | h | h) <;> simp [h]

end Device

/-! ### The next boot -/

variable {w : ℕ} {τ : Type}

theorem boot_readConfigFile_save {c : Config CDouble} (hid : Storable c.macAddress)
    (h12 : 12 ≤ c.macAddress.length) {j k : ℕ} (hlat : c.lat.Below (10 ^ j)) (hj : j ≤ 80)
    (hlon : c.lon.Below (10 ^ k)) (hk : k ≤ 80) :
    Config.boot.readConfigFile (some c.save) = some (true, c.stored) :=
  readConfigFile_save c _ hid h12 (CDouble.storable_printf hlat hj)
    (CDouble.storable_printf hlon hk)

/-- What a power loss in the middle of an accepted `SENDGPS` may leave on the disk: the old file, an
empty one, one with the new longitude and the old latitude, or the new one; all of them, if the file
can be written. Of the empty one the next boot reads nothing, of the two others what they say, if
the file can hold the device id and the old latitude. The coordinates are any `float`s. -/
theorem sendGps_leaves_iff (b : Build) (i : CommandInput w) {d : Device w CDouble}
    {m : Datagram τ} (hm : IsPacket m .SENDGPS) (hmac : d.config.getMacAddressAsByte = macField m) :
    let new := d.config.withPosition (some m)
    let mixed := { d.config with lon := new.lon }
    let ops := d.sendGpsOps new.lat new.lon
    (d.disk.run ops).file = (checkCommandPacket b i d [m]).1.file ∧
      (∀ file, Leaves ops d.disk file ↔ file = d.file ∨
        d.writable = true ∧ (file = some [] ∨ file = some mixed.save ∨ file = some new.save)) ∧
      Config.boot.readConfigFile (some []) = some (true, (Config.boot : Config CDouble)) ∧
      (Storable d.config.macAddress → 12 ≤ d.config.macAddress.length →
        Config.boot.readConfigFile (some new.save) = some (true, new.stored) ∧
          (d.config.lat.Below (10 ^ 80) →
            Config.boot.readConfigFile (some mixed.save) = some (true, mixed.stored))) := by
  intro new mixed ops
  have hfloat : ∀ bits, (DoubleText.ofFloat bits : CDouble).Below (10 ^ 39) :=
    CDouble.below_ofFloat
  refine ⟨?_, fun file => Device.leaves_sendGpsOps new.lat new.lon d file, rfl,
    fun hid h12 => ⟨?_, fun hlat => ?_⟩⟩
  · obtain ⟨pkt, htype, hdec, hcheck⟩ := checkCommandPacket_of_isPacket b i d hm
    rw [hcheck, handlePacket_sendGps b i d htype (hmac.trans (hdec.mac htype).symm),
      Device.run_sendGpsOps, hdec.latitude htype, hdec.longitude htype]
    rfl
  · exact boot_readConfigFile_save hid h12 (hfloat _) (by decide) (hfloat _) (by decide)
  · exact boot_readConfigFile_save hid h12 hlat le_rfl (hfloat _) (by decide)

def placed {D : Type} (lat lon : D) : Config D := ⟨str "020406080a0c", lat, lon⟩

def placedDevice {D : Type} [NatCast D] [DoubleText D] (lat lon : D) : Device 32 D where
  config := placed lat lon
  file := some (placed lat lon).save
  writable := true
  log := ⟨0, false⟩
  ntp := NTP.init
  baseUrl := []
  trace := ⟨false, 0⟩
  seismometer :=
    ⟨⟨(0 : ℕ), (0 : ℕ), 0, (1 : ℕ), (3 : ℕ)⟩, true, false, 0, 0, 0, 0⟩
  status := .running

/-- Half of `n`, as a coordinate. -/
def half (n : ℕ) : CDouble := ⟨false, .number (n / (2 : ℕ))⟩

theorem below_half {n : ℕ} (h : n < 2 * 10 ^ 3) : (half n).Below (10 ^ 3) := by
  rintro q ⟨⟩
  have hn : (n : ℚ) < 2 * 10 ^ 3 := by exact_mod_cast h
  push_cast
  linarith

theorem boot_readConfigFile_half {m n : ℕ} (hm : m < 2 * 10 ^ 3) (hn : n < 2 * 10 ^ 3)
    (hm8 : Utils.atofn (half m).printf 8 = half m) (hn8 : Utils.atofn (half n).printf 8 = half n) :
    Config.boot.readConfigFile (some (placed (half m) (half n)).save) =
      some (true, placed (half m) (half n)) := by
  have hstored : (placed (half m) (half n)).stored = placed (half m) (half n) :=
    congrArg₂ (Config.mk _) hm8 hn8
  have hread := boot_readConfigFile_save (c := placed (half m) (half n)) storable_id
    (show 12 ≤ (str "020406080a0c").length by decide) (below_half hm) (by decide) (below_half hn)
    (by decide)
  rw [hread, hstored]

def gps : Datagram Unit := gpsPacket ![2, 4, 6, 8, 10, 12]

theorem withPosition_gps (lat lon : CDouble) :
    (placed lat lon).withPosition (some gps) = placed (half 83) (half 25) := by
  have hlat : (DoubleText.ofFloat (Utils.singleAt gps.data 12) : CDouble) = half 83 := by
    decide +kernel
  have hlon : (DoubleText.ofFloat (Utils.singleAt gps.data 16) : CDouble) = half 25 := by
    decide +kernel
  exact congrArg₂ (Config.mk _) hlat hlon

/-- The position is moved from 1.5, 2.5 to 41.5, 12.5. A power loss on the way can leave a device
without its id, or one at 1.5, 12.5. -/
theorem sendGps_halfway :
    let d := placedDevice (half 3) (half 5)
    let new := d.config.withPosition (some gps)
    let ops := d.sendGpsOps new.lat new.lon
    let boot : Config CDouble := Config.boot
    boot.readConfigFile d.file = some (true, placed (half 3) (half 5)) ∧
      boot.readConfigFile (d.disk.run ops).file = some (true, placed (half 83) (half 25)) ∧
      (∃ file, Leaves ops d.disk file ∧
        boot.readConfigFile file = some (true, ⟨[], (0 : ℕ), (0 : ℕ)⟩)) ∧
      (∃ file, Leaves ops d.disk file ∧
        boot.readConfigFile file = some (true, placed (half 3) (half 25))) ∧
      ¬∀ file, Leaves ops d.disk file → boot.readConfigFile file = boot.readConfigFile d.file ∨
        boot.readConfigFile file = boot.readConfigFile (d.disk.run ops).file := by
  intro d new ops boot
  have hnew : new = placed (half 83) (half 25) := withPosition_gps _ _
  have hold : boot.readConfigFile d.file = some (true, placed (half 3) (half 5)) :=
    boot_readConfigFile_half (by decide) (by decide) (by decide +kernel) (by decide +kernel)
  have hmixed : boot.readConfigFile (some (placed (half 3) (half 25)).save) = _ :=
    boot_readConfigFile_half (by decide) (by decide) (by decide +kernel) (by decide +kernel)
  have hdone : boot.readConfigFile (d.disk.run ops).file =
      some (true, placed (half 83) (half 25)) := by
    rw [Device.run_sendGpsOps, hnew]
    exact boot_readConfigFile_half (by decide) (by decide) (by decide +kernel) (by decide +kernel)
  have hempty : Leaves ops d.disk (some []) :=
    (Device.leaves_sendGpsOps new.lat new.lon d _).2 (.inr ⟨rfl, .inl rfl⟩)
  have hhalf : Leaves ops d.disk (some (placed (half 3) (half 25)).save) := by
    refine (Device.leaves_sendGpsOps new.lat new.lon d _).2 (.inr ⟨rfl, .inr (.inl ?_)⟩)
    rw [hnew]
    rfl
  refine ⟨hold, hdone, ⟨_, hempty, rfl⟩, ⟨_, hhalf, hmixed⟩, fun h => ?_⟩
  have hboth := h _ hhalf
  rw [hmixed, hold, hdone] at hboth
  simp only [placed, Option.some.injEq, Prod.mk.injEq, Config.mk.injEq, true_and] at hboth
  revert hboth
  decide +kernel

/-- `sendGps_leaves_iff` on this device, for the latitude `-inf`. -/
theorem sendGps_leaves_iff_placed :
    let d := placedDevice (half 3) (half 5)
    let m : Datagram Unit := { gps with
      data := gps.data.take 12 ++ [0xFF, 0x80, 0, 0] ++ gps.data.drop 16 }
    let new := d.config.withPosition (some m)
    new.lat = ⟨true, .infinity⟩ ∧
      ∀ file, Leaves (d.sendGpsOps new.lat new.lon) d.disk file ↔ file = d.file ∨
        d.writable = true ∧ (file = some [] ∨
          file = some (Config.save { d.config with lon := new.lon }) ∨ file = some new.save) := by
  intro d m new
  have hm : IsPacket m .SENDGPS := ⟨by decide +kernel, rfl, rfl⟩
  exact ⟨by decide +kernel,
    (sendGps_leaves_iff ⟨.linux_x86, false⟩ calmInput (d := d) hm (by decide)).2.1⟩

end Terremoti
