import Terremoti.ConfigStored
import Terremoti.Setup

/-!
# The saved configuration over the lives of a device

A device is switched on with nothing saved, and then goes through any number of starts, calls of
`loop`, reboots and power cuts, also in the middle of a rewrite of its file (`Life`), which can always
be opened. Whatever it receives, no position but numbers, once it has an id this is the one of its
interface, and a start finds the position it has now, cut to what the file keeps (`life_config`).
-/

namespace Terremoti
open Rewrite

variable {w : ℕ} {τ : Type}

/-- The coordinates in a position are numbers. -/
structure FiniteGps (m : Datagram τ) : Prop where
  lat : FiniteSingle (Utils.singleAt m.data 12)
  lon : FiniteSingle (Utils.singleAt m.data 16)

/-- So are those in all positions for the device that arrive. -/
def LoopInput.FiniteGps {D : Type} (hw : Fin 6 → Byte) (i : LoopInput w D τ) : Prop :=
  ∀ m ∈ i.arrived, isPositionFor hw m = true → Terremoti.FiniteGps m

/-- The interface has the address `hw` whenever it is up, and while `setup` waits for a position no
other than numbers come. -/
structure SetupInput.Of {D : Type} (hw : Fin 6 → Byte) (x : SetupInput w D τ) : Prop where
  interfaces : ∀ m ∈ x.interfaces, m = none ∨ m = some hw
  defaultInterface : x.defaultInterface = none ∨ x.defaultInterface = some hw
  waits : ∀ i ∈ x.waits, i.FiniteGps hw

/-- A device that starts, with a configuration to save: the address of the interface is put into what
it has loaded. -/
noncomputable def naming (hw : Fin 6 → Byte) (config : Config ℝ) (file : Option (List Byte)) :
    Device w ℝ :=
  { Device.init with config := config.named (Utils.getInterfaceMAC (some hw)), file := file }

/-- The states a program with the interface `hw` can be in, over all its starts. -/
inductive Life (b : Build) (tw : ℕ) (hw : Fin 6 → Byte) : Setup w ℝ τ → Prop
  | start (x : SetupInput w ℝ τ) (hx : x.Of hw) :
      Life b tw hw ((Core.powerOn none).setup b tw x)
  | loop {s : Setup w ℝ τ} (h : Life b tw hw s) (hreturned : s.returned = true)
      (hrunning : s.core.device.status = .running) (i : LoopInput w ℝ τ) (hi : i.FiniteGps hw)
      (attempts : List (List (Round τ))) :
      Life b tw hw ⟨(s.core.loop b tw i attempts).core, (s.core.loop b tw i attempts).returned⟩
  | restart {s : Setup w ℝ τ} (h : Life b tw hw s) (x : SetupInput w ℝ τ) (hx : x.Of hw) :
      Life b tw hw ((Core.powerOn s.core.device.file).setup b tw x)
  /-- The power is cut while the position of `m` is saved. -/
  | cutPosition {s : Setup w ℝ τ} (h : Life b tw hw s)
      (hnamed : s.core.device.config.hasMACAddress = true) (m : Datagram τ) (hm : FiniteGps m)
      {file : Option (List Byte)}
      (hfile : let new := s.core.device.config.withPosition (some m)
        Leaves (s.core.device.sendGpsOps new.lat new.lon) s.core.device.disk file)
      (x : SetupInput w ℝ τ) (hx : x.Of hw) : Life b tw hw ((Core.powerOn file).setup b tw x)
  /-- The power is cut while a start saves the address of the interface. -/
  | cutName {s : Setup w ℝ τ} (h : Life b tw hw s) {mac_address : Option (Fin 6 → Byte)}
      (hmac : mac_address = none ∨ mac_address = some hw) {config : Config ℝ}
      (hconfig : Config.boot.init mac_address s.core.device.file = some config)
      {file : Option (List Byte)}
      (hfile : Leaves (naming (w := w) hw config s.core.device.file).saveOps
        (naming (w := w) hw config s.core.device.file).disk file)
      (x : SetupInput w ℝ τ) (hx : x.Of hw) : Life b tw hw ((Core.powerOn file).setup b tw x)

/-! ### What a start reads -/

/-- A start on `file` has the configuration `c`. -/
inductive Boots (hw : Fin 6 → Byte) : Option (List Byte) → Config ℝ → Prop
  | none : Boots hw none (Config.loadDefault (some hw))
  | empty : Boots hw (some []) (Config.loadDefault (some hw))
  | saved {c : Config ℝ} (h : Saveable c) (hid : c.macAddress = Utils.getInterfaceMAC (some hw)) :
      Boots hw (some c.save) c.stored

/-- A device with its id, and with a file of which a start reads the position it has. In the `DEBUG`
build the file may be gone. -/
structure Settled (b : Build) (hw : Fin 6 → Byte) (d : Device w ℝ) : Prop where
  writable : d.writable = true
  saveable : Saveable d.config
  id : d.config.macAddress = Utils.getInterfaceMAC (some hw)
  boots : Boots hw d.file d.config.stored ∨ b.debug = true ∧ d.file = none

section Boots
variable {b : Build} {hw : Fin 6 → Byte}

theorem mem_getInterfaceMAC {c : Byte} (h : c ∈ Utils.getInterfaceMAC (some hw)) :
    ∃ d < 16, c = ascii d := by
  obtain ⟨byte, -, hc⟩ := List.mem_flatMap.1 h
  obtain ⟨d, hd, rfl⟩ := List.mem_map.1 hc
  exact ⟨d, Digits.lt_of_mem_fixed (by decide) hd, rfl⟩

theorem storable_getInterfaceMAC (hw : Fin 6 → Byte) :
    Storable (Utils.getInterfaceMAC (some hw)) := by
  have hmem : ∀ c ∈ [(0 : Byte), 10, 13, 32], c ∉ Utils.getInterfaceMAC (some hw) := by
    intro c hc h
    obtain ⟨d, hd, rfl⟩ := mem_getInterfaceMAC h
    exact absurd hc (by interval_cases d <;> decide)
  exact {
    ne := getInterfaceMAC_ne_nil hw
    blank := fun h => hmem 32 (by decide) (List.mem_of_head? h)
    lf := hmem 10 (by decide)
    cr := hmem 13 (by decide)
    nul := hmem 0 (by decide)
    length := by rw [length_getInterfaceMAC]; omega }

theorem saveable_default (hw : Fin 6 → Byte) : Saveable (Config.loadDefault (some hw)) where
  id := storable_getInterfaceMAC hw
  id12 := (length_getInterfaceMAC hw).ge
  lat := .zero
  lon := .zero

theorem stored_default (hw : Fin 6 → Byte) :
    (Config.loadDefault (some hw) : Config ℝ).stored = Config.loadDefault (some hw) := by
  have hzero : restored 0 = 0 := by decide +kernel
  have hback : (Utils.atofn (DoubleText.printf (((0 : ℕ) : ℝ))) 8 : ℝ) = ((0 : ℕ) : ℝ) := by
    have h := Coordinate.atofn_printf 0
    rw [hzero] at h
    simpa using h
  rw [Config.stored, Config.loadDefault, hback]

theorem Boots.saveable {file : Option (List Byte)} {c : Config ℝ} (h : Boots hw file c) :
    Saveable c ∧ c.macAddress = Utils.getInterfaceMAC (some hw) ∧ c.stored = c := by
  cases h with
  | none => exact ⟨saveable_default hw, rfl, stored_default hw⟩
  | empty => exact ⟨saveable_default hw, rfl, stored_default hw⟩
  | saved h hid => exact ⟨h.stored, hid, h.stored_stored⟩

/-- A start saves the address of the interface if nothing with an id has been loaded. -/
theorem loadConfig_file {mac_address : Option (Fin 6 → Byte)} (macAddress : List Byte)
    {c : Core w ℝ τ} (hwritable : c.device.writable = true) {config : Config ℝ}
    (h : c.device.config.init mac_address c.device.file = some config) :
    let r := c.loadConfig mac_address macAddress
    r.returned = true ∧ r.core.device.writable = true ∧
      r.core.device.config = config.named macAddress ∧
      r.core.device.file =
        if config.hasMACAddress then c.device.file else some (config.named macAddress).save := by
  rw [Core.loadConfig, h]
  dsimp only
  by_cases hmac : config.hasMACAddress = true
  · simp only [if_pos hmac, Config.named]
    exact ⟨trivial, hwritable, trivial, trivial⟩
  · simp only [if_neg hmac, Config.named, Device.setMacAddress, Device.save, hwritable, if_true]
    exact ⟨trivial, trivial, trivial, trivial⟩

/-- Nothing else is touched. -/
theorem loadConfig_core (mac_address : Option (Fin 6 → Byte)) (macAddress : List Byte)
    (c : Core w ℝ τ) : ∃ config file, (c.loadConfig mac_address macAddress).core =
      { c with device := { c.device with config := config, file := file } } := by
  unfold Core.loadConfig
  split
  · exact ⟨c.device.config, c.device.file, rfl⟩
  · rename_i config _
    dsimp only
    split
    · exact ⟨config, c.device.file, rfl⟩
    · unfold Device.setMacAddress Device.save
      split
      · exact ⟨_, _, rfl⟩
      · exact ⟨_, _, rfl⟩

theorem named_default (mac_address : Option (Fin 6 → Byte))
    (hmac : mac_address = none ∨ mac_address = some hw) :
    ((Config.loadDefault mac_address : Config ℝ).named (Utils.getInterfaceMAC (some hw))) =
      Config.loadDefault (some hw) := by
  unfold Config.named
  rcases hmac with rfl | rfl
  · rw [if_neg (by simp [Config.hasMACAddress, Config.loadDefault, Utils.getInterfaceMAC])]
    rfl
  · rw [if_pos (by simpa [Config.hasMACAddress, Config.loadDefault] using getInterfaceMAC_ne_nil hw)]

/-- What a start on `file` reads. -/
theorem Boots.init {file : Option (List Byte)} {c : Config ℝ} (h : Boots hw file c)
    {mac_address : Option (Fin 6 → Byte)} (hmac : mac_address = .none ∨ mac_address = some hw) :
    ∃ config, Config.boot.init mac_address file = some config ∧
      config.named (Utils.getInterfaceMAC (some hw)) = c := by
  cases h with
  | none => exact ⟨Config.loadDefault mac_address, rfl, named_default mac_address hmac⟩
  | empty => exact ⟨Config.boot, rfl, named_default .none (.inl rfl)⟩
  | @saved c h hid =>
    have hread : Config.boot.init mac_address (some c.save) = some c.stored := by
      rw [Config.init, h.readConfigFile]
      rfl
    have hnamed : c.stored.hasMACAddress = true := by
      rw [Config.hasMACAddress, decide_eq_true_eq]
      exact fun hnil => getInterfaceMAC_ne_nil hw (hid.symm.trans hnil)
    exact ⟨c.stored, hread, if_pos hnamed⟩

/-- What a start on `file` comes to when it has loaded its configuration. -/
theorem Boots.loadConfig (b : Build) {c : Core w ℝ τ} (hboot : c.device.config = Config.boot)
    (hwritable : c.device.writable = true) {config : Config ℝ}
    (h : Boots hw c.device.file config) {mac_address : Option (Fin 6 → Byte)}
    (hmac : mac_address = .none ∨ mac_address = some hw) :
    let r := c.loadConfig mac_address (Utils.getInterfaceMAC (some hw))
    r.returned = true ∧ Settled b hw r.core.device ∧ r.core.device.config = config := by
  obtain ⟨loaded, hinit, hnamed⟩ := h.init hmac
  rw [← hboot] at hinit
  obtain ⟨hreturned, hwritable', hconfig, hfile⟩ :=
    loadConfig_file (Utils.getInterfaceMAC (some hw)) hwritable hinit
  rw [hnamed] at hconfig hfile
  obtain ⟨hsaveable, hid, hstored⟩ := h.saveable
  refine ⟨hreturned, ⟨hwritable', ?_, ?_, .inl ?_⟩, hconfig⟩
  · rw [hconfig]
    exact hsaveable
  · rw [hconfig]
    exact hid
  · rw [hconfig, hfile]
    split
    · rw [hstored]
      exact h
    · exact .saved hsaveable hid

end Boots

/-! ### What a running program keeps -/

/-- Only a position and, in the `DEBUG` build, a reset are written to the file. -/
theorem handlePacket_saved (b : Build) (i : CommandInput w) (d : Device w ℝ) {pkt : PACKET}
    (h : pkt.type ≠ .SENDGPS) :
    let d' := (handlePacket b i d pkt).device
    d'.config = d.config ∧ d'.writable = d.writable ∧
      (d'.file = d.file ∨ b.debug = true ∧ d'.file = none) := by
  cases htype : pkt.type
  case SENDGPS => exact absurd htype h
  case GETINFO =>
    by_cases hping : ∃ echo, i.Returns echo
    swap
    · rw [handlePacket_getInfo_stops b i d htype hping]
      exact ⟨rfl, rfl, .inl rfl⟩
    · obtain ⟨echo, hecho⟩ := hping
      rw [handlePacket_getInfo b i d htype hecho]
      cases hdebug : b.debug with
      | false => exact ⟨rfl, rfl, .inl rfl⟩
      | true => exact ⟨rfl, rfl, .inr ⟨rfl, rfl⟩⟩
  case RESET =>
    rw [handlePacket_reset b i d htype]
    cases hdebug : b.debug with
    | false => exact ⟨rfl, rfl, .inl rfl⟩
    | true => exact ⟨rfl, rfl, .inr ⟨rfl, rfl⟩⟩
  all_goals
    rw [handlePacket, htype, Cmd.cases]
    cases b.debug <;> exact ⟨rfl, rfl, .inl rfl⟩

namespace Settled
variable {b : Build} {hw : Fin 6 → Byte} {d d' : Device w ℝ}

theorem congr (h : Settled b hw d) (hconfig : d'.config = d.config)
    (hwritable : d'.writable = d.writable)
    (hfile : d'.file = d.file ∨ b.debug = true ∧ d'.file = none) : Settled b hw d' := by
  refine ⟨hwritable.trans h.writable, hconfig ▸ h.saveable, hconfig ▸ h.id, ?_⟩
  rcases hfile with hfile | hfile
  · rw [hfile, hconfig]
    exact h.boots
  · exact .inr hfile

theorem position (h : Settled b hw d) (lat lon : BitVec 32) :
    Settled b hw ((d.setLongitude (DoubleText.ofFloat lon)).setLatitude (DoubleText.ofFloat lat)) := by
  have hsaveable : Saveable { d.config with
      lat := DoubleText.ofFloat lat, lon := DoubleText.ofFloat lon } :=
    ⟨h.saveable.id, h.saveable.id12, .ofFloat lat, .ofFloat lon⟩
  simp only [Device.setLatitude, Device.setLongitude, Device.save, h.writable, if_true]
  exact ⟨rfl, hsaveable, h.id, .inl (.saved hsaveable h.id)⟩

theorem handlePacket (h : Settled b hw d) (i : CommandInput w) (pkt : PACKET) :
    Settled b hw (handlePacket b i d pkt).device := by
  by_cases htype : pkt.type = .SENDGPS
  · rw [handlePacket_sendGps_eq b i d htype, Cmd.sendGps]
    split
    · exact h
    · exact h.position _ _
  · obtain ⟨hconfig, hwritable, hfile⟩ := handlePacket_saved b i d htype
    exact h.congr hconfig hwritable hfile

theorem checkCommandPacket (h : Settled b hw d) (i : CommandInput w) (queue : List (Datagram τ)) :
    Settled b hw (checkCommandPacket b i d queue).1 :=
  checkCommandPacket_preserves b i d (h.handlePacket i) h queue

theorem status (h : Settled b hw d) (s : Status) : Settled b hw { d with status := s } :=
  h.congr rfl rfl (.inl rfl)

theorem checkServerConfig (h : Settled b hw d) (now : BitVec 32) (resp : HTTPResponse) :
    Settled b hw (checkServerConfig b now resp d).2 := by
  refine checkServerConfig_preserves ?_ (h.congr rfl rfl (.inl rfl)) h
  exact configured_preserves (fun _ _ h => h.congr rfl rfl (.inl rfl))
    (fun _ _ h => h.congr rfl rfl (.inl rfl)) (fun _ _ h => h.congr rfl rfl (.inl rfl))
    (fun _ h => h.congr rfl rfl (.inl rfl)) (fun _ h => h.congr rfl rfl (.inl rfl)) _ h

theorem hear {c : Core w ℝ τ} (h : Settled b hw c.device) (i : LoopInput w ℝ τ) :
    Settled b hw (c.hear b i).device :=
  Core.andThen_preserves (P := fun c' => Settled b hw c'.device)
    (fun h => h.checkCommandPacket i.command _)
    (Core.heartBeat_device b i (fun s h => h.status s) h)

theorem loop {c : Core w ℝ τ} (h : Settled b hw c.device) (tw : ℕ) (i : LoopInput w ℝ τ)
    (attempts : List (List (Round τ))) : Settled b hw (c.loop b tw i attempts).core.device := by
  refine Core.loop_device (fun _ _ h => h.congr rfl rfl (.inl rfl))
    (fun _ _ _ h => h.congr rfl rfl (.inl rfl)) (fun _ s h => h.status s) attempts ?_
  exact Core.beforeSync_device (fun _ s h => h.status s)
    (fun _ queue h => h.checkCommandPacket i.command queue)
    (fun _ h => h.checkServerConfig i.traceStart i.resp) h

/-- Every file a start can find is one it can read. -/
theorem exists_boots (h : Settled b hw d) : ∃ c, Boots hw d.file c := by
  rcases h.boots with hboots | ⟨-, hfile⟩
  · exact ⟨_, hboots⟩
  · rw [hfile]
    exact ⟨_, .none⟩

/-- Also when the power is cut while a position is saved. -/
theorem exists_boots_of_position (h : Settled b hw d) (lat lon : BitVec 32)
    {file : Option (List Byte)} (hfile : Leaves (d.sendGpsOps (DoubleText.ofFloat lat)
      (DoubleText.ofFloat lon)) d.disk file) : ∃ c, Boots hw file c := by
  rcases (d.leaves_sendGpsOps _ _ file).1 hfile with rfl | ⟨-, rfl | rfl | rfl⟩
  · exact h.exists_boots
  · exact ⟨_, .empty⟩
  · exact ⟨_, .saved ⟨h.saveable.id, h.saveable.id12, h.saveable.lat, .ofFloat lon⟩ h.id⟩
  · exact ⟨_, .saved ⟨h.saveable.id, h.saveable.id12, .ofFloat lat, .ofFloat lon⟩ h.id⟩

end Settled

/-- And while a start saves the address of the interface. -/
theorem Boots.exists_boots_of_name {hw : Fin 6 → Byte} {file file' : Option (List Byte)}
    {config c : Config ℝ} (h : Boots hw file c) {mac_address : Option (Fin 6 → Byte)}
    (hmac : mac_address = .none ∨ mac_address = some hw)
    (hconfig : Config.boot.init mac_address file = some config)
    (hfile : Leaves (naming (w := w) hw config file).saveOps (naming (w := w) hw config file).disk
      file') : ∃ c, Boots hw file' c := by
  obtain ⟨loaded, hinit, hnamed⟩ := h.init hmac
  obtain rfl : loaded = config := Option.some.inj (hinit.symm.trans hconfig)
  rcases (Device.leaves_saveOps _ file').1 hfile with rfl | ⟨-, rfl | rfl⟩
  · exact ⟨_, h⟩
  · exact ⟨_, .empty⟩
  · have hc : (naming (w := w) hw loaded file).config = c := hnamed
    rw [hc]
    exact ⟨_, .saved h.saveable.1 h.saveable.2.1⟩

/-! ### Over all starts -/

section Life
variable {b : Build} {tw : ℕ} {hw : Fin 6 → Byte}

theorem Setup.andThen_preserves {D : Type} {P : Core w D τ → Prop} {s : Setup w D τ}
    {f : Core w D τ → Setup w D τ} (hs : P s.core) (hf : ∀ c, P c → P (f c).core) :
    P (s.andThen f).core := by
  unfold Setup.andThen
  split
  · exact hf _ hs
  · exact hs

/-- The program has not come to its configuration, and there is one to load. -/
structure Unloaded (hw : Fin 6 → Byte) (s : Setup w ℝ τ) : Prop where
  returned : s.returned = false
  config : s.core.device.config = Config.boot
  boots : ∃ c, Boots hw s.core.device.file c

theorem setup_settled {file : Option (List Byte)} {config : Config ℝ}
    (hboots : Boots hw file config) {x : SetupInput w ℝ τ} (hx : x.Of hw) :
    Unloaded hw ((Core.powerOn file).setup b tw x) ∨
      Settled b hw ((Core.powerOn file).setup b tw x).core.device := by
  unfold Core.setup
  dsimp only
  cases hsearch : searchInterface 0 x.interfaces with
  | searching => exact .inl ⟨rfl, rfl, config, hboots⟩
  | reboot => exact .inl ⟨rfl, rfl, config, hboots⟩
  | found macAddress =>
    obtain ⟨k, hw', rest, hinterfaces, -, rfl⟩ := searchInterface_eq_found_iff.1 hsearch
    have hw_eq : hw' = hw := by
      rcases hx.interfaces (some hw') (by simp [hinterfaces]) with h | h
      · cases h
      · exact Option.some.inj h
    rw [hw_eq]
    have hloaded := (hboots.loadConfig b (c := ({ Core.powerOn file with
      logRotationMs := x.start.setWidth w } : Core w ℝ τ)) rfl rfl hx.defaultInterface).2.1
    let P := fun c : Core w ℝ τ => Settled b hw c.device
    right
    refine Setup.andThen_preserves (P := P) (Setup.andThen_preserves (P := P)
      (Setup.andThen_preserves (P := P) hloaded fun c h => ?_) fun c h => ?_) fun c h => ?_
    · exact Retry.run_preserves (P := P) (fun c r h => h.checkServerConfig r.now r.resp) h x.checks
    · exact h.congr rfl rfl (.inl rfl)
    · unfold Core.locate
      split
      · exact h
      · exact Retry.run_preserves (P := P) (fun c i h => h.hear i) h x.waits

theorem Life.settled {s : Setup w ℝ τ} (h : Life b tw hw s) :
    Unloaded hw s ∨ Settled b hw s.core.device := by
  induction h with
  | start x hx => exact setup_settled .none hx
  | loop h hreturned hrunning i hi attempts ih =>
    rcases ih with ih | ih
    · rw [ih.returned] at hreturned
      cases hreturned
    · right
      dsimp only
      exact ih.loop tw i attempts
  | @restart s h x hx ih =>
    obtain ⟨c, hc⟩ : ∃ c, Boots hw s.core.device.file c := ih.elim (·.boots) (·.exists_boots)
    exact setup_settled hc hx
  | @cutPosition s h hnamed m hm file hfile x hx ih =>
    rcases ih with ih | ih
    · rw [ih.config] at hnamed
      simp [Config.hasMACAddress, Config.boot] at hnamed
    · obtain ⟨c, hc⟩ := ih.exists_boots_of_position _ _ hfile
      exact setup_settled hc hx
  | @cutName s h mac_address hmac config hconfig file hfile x hx ih =>
    obtain ⟨c, hc⟩ : ∃ c, Boots hw s.core.device.file c := ih.elim (·.boots) (·.exists_boots)
    obtain ⟨c', hc'⟩ := hc.exists_boots_of_name hmac hconfig hfile
    exact setup_settled hc' hx

end Life
end Terremoti
