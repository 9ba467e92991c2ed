import Terremoti.PowerLoss
import Terremoti.Syslog
import Terremoti.TraceRuns

/-!
# Starting the sketch (`setup`, `Config::init`)

`setup` looks for a network interface, loads the saved configuration or its defaults, asks the server
for its configuration until it gets one, synchronises the clock once, and waits for a position if it
has none. Each part may never return, or still be at it where what is known of its environment ends.
`setup_returned_iff` says what the environment has to offer for `setup` to return.
-/

namespace Terremoti

namespace Config
variable {D : Type}

def hasMACAddress (c : Config D) : Bool := decide (c.macAddress ≠ [])

def hasPosition [DoubleText D] (c : Config D) : Bool :=
  DoubleText.nonzero c.lat && DoubleText.nonzero c.lon

variable [NatCast D]

/-- `Config::loadDefault`; `mac_address` is what the lookup of the interface finds. -/
def loadDefault (mac_address : Option (Fin 6 → Byte)) : Config D :=
  ⟨Utils.getInterfaceMAC mac_address, (0 : ℕ), (0 : ℕ)⟩

/-- `Config::init`; `none` when `readConfigFile` throws. -/
def init [DoubleText D] (mac_address : Option (Fin 6 → Byte)) (file : Option (List Byte))
    (c : Config D) : Option (Config D) := do
  let (cfgOk, c) ← c.readConfigFile file
  return if cfgOk then c else loadDefault mac_address

end Config

def Device.setMacAddress {w : ℕ} {D : Type} [DoubleText D] (macAddress : List Byte)
    (d : Device w D) : Device w D :=
  Device.save { d with config := { d.config with macAddress := macAddress } }

/-! ### The parts of `setup` -/

/-- What the first loop of `setup` has come to. -/
inductive Search
  | found (macAddress : List Byte)
  | reboot
  | searching

/-- The first loop of `setup`, when `i` lookups have failed. The count is tested behind the lookup, so
the one after the twentieth failure is made in vain. -/
def searchInterface (i : ℕ) : List (Option (Fin 6 → Byte)) → Search
  | [] => .searching
  | mac_address :: rest =>
    let macAddress := Utils.getInterfaceMAC mac_address
    if i ≥ 20 then .reboot
    else if macAddress = [] then searchInterface (i + 1) rest
    else .found macAddress

/-- What `setup` reads: the clock, what the lookups of the interface find in the first loop and in
`loadDefault`, the replies of the configuration server, what `NTP::sync` meets, and the turns of the
wait for a position, of which only the heartbeat and the command count. -/
structure SetupInput (w : ℕ) (D τ : Type) where
  start : BitVec 32
  interfaces : List (Option (Fin 6 → Byte))
  defaultInterface : Option (Fin 6 → Byte)
  checks : List Check
  rounds : List (Round τ)
  waits : List (LoopInput w D τ)

/-- `setup` under way, and whether the part it has come to has returned. -/
structure Setup (w : ℕ) (D τ : Type) where
  core : Core w D τ
  returned : Bool

variable {w : ℕ} {D τ : Type}

namespace Setup

def andThen (s : Setup w D τ) (f : Core w D τ → Setup w D τ) : Setup w D τ :=
  if s.returned = true then f s.core else s

def ofRun (r : Retry.Run (Core w D τ)) : Setup w D τ := ⟨r.state, r.returned⟩

theorem andThen_ofRun {r : Retry.Run (Core w D τ)} (h : r.returned = true)
    (f : Core w D τ → Setup w D τ) : (ofRun r).andThen f = f r.state := if_pos h

theorem andThen_returned {s : Setup w D τ} {f : Core w D τ → Setup w D τ} :
    (s.andThen f).returned = true ↔ s.returned = true ∧ (f s.core).returned = true := by
  unfold andThen
  split
  · rename_i h
    exact ⟨fun hf => ⟨h, hf⟩, fun hf => hf.2⟩
  · rename_i h
    exact ⟨fun hs => absurd hs h, fun hs => absurd hs.1 h⟩

end Setup

namespace Core

def sync1 (tw : ℕ) (rounds : List (Round τ)) (c : Core w D τ) : Setup w D τ :=
  ⟨(c.sync tw rounds).1, (c.sync tw rounds).2.isSome⟩

variable [Double D] [DoubleText D]

/-- `Config::init`, and the address the first loop has found if it has given none. -/
def loadConfig (mac_address : Option (Fin 6 → Byte)) (macAddress : List Byte) (c : Core w D τ) :
    Setup w D τ :=
  match c.device.config.init mac_address c.device.file with
  | none => ⟨c, false⟩
  | some config =>
    let d := { c.device with config := config }
    ⟨{ c with device := if config.hasMACAddress then d else d.setMacAddress macAddress }, true⟩

def tryConfig (b : Build) (c : Core w D τ) (x : Check) : Core w D τ × Option Bool :=
  let r := checkServerConfig b x.now x.resp c.device
  ({ c with device := r.2 }, r.1)

def updateLog (c : Core w D τ) : Core w D τ :=
  { c with device := { c.device with log := ⟨0, false⟩ } }

/-- A turn of the wait for a position. -/
def awaitPosition (b : Build) (c : Core w D τ) (i : LoopInput w D τ) :
    Core w D τ × Option Bool :=
  let c := c.hear b i
  (c, if c.device.status = .running then some c.device.config.hasPosition else none)

def locate (b : Build) (waits : List (LoopInput w D τ)) (c : Core w D τ) :
    Setup w D τ :=
  if c.device.config.hasPosition then ⟨c, true⟩
  else .ofRun (Retry.run (awaitPosition b) waits c)

/-- The variables of a program that starts, with what is saved. -/
def powerOn (file : Option (List Byte)) : Core w D τ where
  device := { Device.init with file := file }
  commands := []
  replies := []
  lastBeat := 0
  netLastMs := 0
  cfgLastMs := 0
  ntpLastMs := 0
  seismoLastMs := 0
  logRotationMs := 0

/-- `setup`, on what `main` has before it. -/
def setup (b : Build) (tw : ℕ) (x : SetupInput w D τ) (c : Core w D τ) :
    Setup w D τ :=
  let c := { c with logRotationMs := x.start.setWidth w }
  match searchInterface 0 x.interfaces with
  | .searching => ⟨c, false⟩
  | .reboot => ⟨c.platformReboot, false⟩
  | .found macAddress =>
    (((c.loadConfig x.defaultInterface macAddress).andThen fun c =>
      .ofRun (Retry.run (tryConfig b) x.checks c)).andThen fun c =>
      c.updateLog.sync1 tw x.rounds).andThen (locate b x.waits)

end Core

/-! ### The interface -/

theorem length_getInterfaceMAC (hw : Fin 6 → Byte) :
    (Utils.getInterfaceMAC (some hw)).length = 12 := by
  simp [Utils.getInterfaceMAC, List.ofFn_succ, hex02_eq]

theorem getInterfaceMAC_ne_nil (hw : Fin 6 → Byte) : Utils.getInterfaceMAC (some hw) ≠ [] :=
  List.ne_nil_of_length_pos (by rw [length_getInterfaceMAC]; omega)

/-- The loop ends with the first address found in the first twenty lookups. -/
theorem searchInterface_eq_found_iff {i : ℕ} {macs : List (Option (Fin 6 → Byte))}
    {macAddress : List Byte} : searchInterface i macs = .found macAddress ↔
      ∃ k hw rest, macs = List.replicate k none ++ some hw :: rest ∧ i + k < 20 ∧
        macAddress = Utils.getInterfaceMAC (some hw) := by
  induction macs generalizing i with
  | nil => simp [searchInterface]
  | cons m macs ih =>
    rw [searchInterface]
    by_cases hi : i ≥ 20
    · rw [if_pos hi]
      refine iff_of_false Search.noConfusion ?_
      rintro ⟨k, hw, rest, -, hk, -⟩
      omega
    rw [if_neg hi]
    cases m with
    | none =>
      rw [if_pos (show Utils.getInterfaceMAC none = [] from rfl), ih]
      constructor
      · rintro ⟨k, hw, rest, rfl, hk, hmac⟩
        exact ⟨k + 1, hw, rest, rfl, by omega, hmac⟩
      · rintro ⟨_ | k, hw, rest, hmacs, hk, hmac⟩
        · cases (List.cons.inj hmacs).1
        · exact ⟨k, hw, rest, (List.cons.inj hmacs).2, by omega, hmac⟩
    | some hw =>
      rw [if_neg (getInterfaceMAC_ne_nil hw), Search.found.injEq]
      constructor
      · rintro rfl
        exact ⟨0, hw, macs, rfl, by omega, rfl⟩
      · rintro ⟨_ | k, hw', rest, hmacs, hk, hmac⟩
        · cases Option.some.inj (List.cons.inj hmacs).1
          exact hmac.symm
        · cases (List.cons.inj hmacs).1

/-! ### The configuration -/

/-- The reply has no parameter, and `checkServerConfig` returns `false`. -/
def refuses (resp : HTTPResponse) : Prop :=
  getConfig resp = [] ∨ (replyParams resp).isEmpty = true

section Config
variable [Double D] [DoubleText D]

theorem checkServerConfig_of_refuses (b : Build) (now : BitVec 32) {resp : HTTPResponse}
    (d : Device w D) (h : refuses resp) : checkServerConfig b now resp d = (some false, d) := by
  rw [checkServerConfig]
  rcases h with h | h
  · rw [if_pos h]
  · split
    · rfl
    · exact if_pos h

theorem checkServerConfig_of_upgrades {b : Build} (now : BitVec 32) {resp : HTTPResponse}
    (d : Device w D) (haccepts : ¬accepts b resp = true) (hrefuses : ¬refuses resp) :
    (checkServerConfig b now resp d).1 = none := by
  rcases checkServerConfig_of_not_accepts now d (Bool.eq_false_iff.2 haccepts) with h | h
  · rw [refuses, not_or] at hrefuses
    rw [checkServerConfig, if_neg hrefuses.1] at h
    dsimp only at h
    rw [if_neg hrefuses.2] at h
    split at h
    · cases h
    · cases h
  · rw [h]

/-- The checks go on as long as there is no parameter in the reply, and end with the first one that is
accepted. -/
theorem run_tryConfig {b : Build} {pre : List Check} (hpre : ∀ r ∈ pre, refuses r.resp) {x : Check}
    (hx : accepts b x.resp = true) (post : List Check) (c : Core w D τ) :
    let r := Retry.run (Core.tryConfig b) (pre ++ x :: post) c
    r.returned = true ∧
      r.state = { c with device := configured x.now (replyParams x.resp) c.device } := by
  induction pre with
  | nil =>
    have hcheck : Core.tryConfig b c x =
        ({ c with device := configured x.now (replyParams x.resp) c.device }, some true) := by
      rw [Core.tryConfig, checkServerConfig_of_accepts _ _ hx]
    rw [List.nil_append, Retry.run, hcheck]
    exact ⟨rfl, rfl⟩
  | cons y pre ih =>
    obtain ⟨hy, hpre⟩ := List.forall_mem_cons.1 hpre
    have hcheck : Core.tryConfig b c y = (c, some false) := by
      rw [Core.tryConfig, checkServerConfig_of_refuses b _ _ hy]
    rw [List.cons_append, Retry.run, hcheck]
    exact ih hpre

theorem exists_accepts_of_run_tryConfig {b : Build} {checks : List Check} {c : Core w D τ}
    (h : (Retry.run (Core.tryConfig b) checks c).returned = true) :
    ∃ pre x post, checks = pre ++ x :: post ∧ (∀ r ∈ pre, refuses r.resp) ∧
      accepts b x.resp = true := by
  induction checks with
  | nil => cases h
  | cons x checks ih =>
    by_cases haccepts : accepts b x.resp = true
    · exact ⟨[], x, checks, rfl, by simp, haccepts⟩
    by_cases hrefuses : refuses x.resp
    · have hcheck : Core.tryConfig b c x = (c, some false) := by
        rw [Core.tryConfig, checkServerConfig_of_refuses b _ _ hrefuses]
      rw [Retry.run, hcheck] at h
      obtain ⟨pre, y, post, rfl, hpre, hy⟩ := ih h
      exact ⟨x :: pre, y, post, rfl, List.forall_mem_cons.2 ⟨hrefuses, hpre⟩, hy⟩
    · have hnone : (Core.tryConfig b c x).2 = none :=
        checkServerConfig_of_upgrades x.now c.device haccepts hrefuses
      rw [Retry.run] at h
      split at h
      · rename_i hcheck
        rw [hcheck] at hnone
        cases hnone
      · rename_i hcheck
        rw [hcheck] at hnone
        cases hnone
      · cases h

end Config

/-! ### The wait for a position -/

/-- A packet after which the device reboots, or waits for a ping that does not return. -/
inductive Stops (b : Build) (e : Received w τ) : Prop
  | reboot (h : IsPacket e.datagram .REBOOT)
  | reset (h : IsPacket e.datagram .RESET) (hdebug : b.debug = true)
  | getInfo (h : IsPacket e.datagram .GETINFO)
    (hstop : b.debug = true ∨ ¬∃ echo, e.input.Returns echo)

theorem IsPacket.unique {m : Datagram τ} {t t' : PacketType} (h : IsPacket m t)
    (h' : IsPacket m t') : t = t' := h.type.symm.trans h'.type

section Wait
variable [DoubleText D]

theorem checkCommandPacket_status_iff (b : Build) {d : Device w D} (hrunning : d.status = .running)
    (e : Received w τ) :
    (checkCommandPacket b e.input d [e.datagram]).1.status = .running ↔ ¬Stops b e := by
  by_cases hm : ∃ t, IsPacket e.datagram t
  swap
  · rw [checkCommandPacket_of_not_isPacket b e.input d (not_exists.1 hm)]
    refine iff_of_true hrunning ?_
    rintro (h | h | h)
    all_goals exact hm ⟨_, h⟩
  obtain ⟨t, ht⟩ := hm
  obtain ⟨pkt, htype, -, hcheck⟩ := checkCommandPacket_of_isPacket b e.input d ht
  rw [hcheck]
  have hother : t ∉ [PacketType.REBOOT, .RESET, .GETINFO] → ¬Stops b e := by
    rintro hne (h | h | h)
    all_goals exact hne (by simp [ht.unique h])
  cases t
  case REBOOT =>
    rw [handlePacket_reboot b e.input d htype]
    exact iff_of_false Status.noConfusion (not_not.2 (.reboot ht))
  case RESET =>
    rw [handlePacket_reset b e.input d htype]
    cases hdebug : b.debug with
    | true => exact iff_of_false Status.noConfusion (not_not.2 (.reset ht hdebug))
    | false =>
      refine iff_of_true hrunning ?_
      rintro (h | ⟨-, h⟩ | h)
      · cases ht.unique h
      · rw [hdebug] at h; cases h
      · cases ht.unique h
  case GETINFO =>
    by_cases hping : ∃ echo, e.input.Returns echo
    swap
    · rw [handlePacket_getInfo_stops b e.input d htype hping]
      exact iff_of_false e.input.stopped_ne_running (not_not.2 (.getInfo ht (.inr hping)))
    · obtain ⟨echo, hecho⟩ := hping
      rw [handlePacket_getInfo b e.input d htype hecho]
      cases hdebug : b.debug with
      | true => exact iff_of_false Status.noConfusion (not_not.2 (.getInfo ht (.inl hdebug)))
      | false =>
        refine iff_of_true hrunning ?_
        rintro (h | h | ⟨-, h | h⟩)
        · cases ht.unique h
        · cases ht.unique h
        · rw [hdebug] at h; cases h
        · exact h ⟨echo, hecho⟩
  case SENDGPS =>
    rw [handlePacket_sendGps_eq b e.input d htype, Cmd.sendGps]
    refine iff_of_true ?_ (hother (by decide))
    split
    · exact hrunning
    · simpa [Cmd.reply, Device.setLatitude, Device.setLongitude] using hrunning
  case SETSYSLOG =>
    rw [handlePacket_setSyslog b e.input d htype]
    exact iff_of_true hrunning (hother (by decide))
  case TRACE =>
    rw [handlePacket_startTrace b e.input d htype]
    refine iff_of_true ?_ (hother (by decide))
    cases b.debug <;> exact hrunning
  case DISCOVERY =>
    rw [handlePacket_discovery b e.input d htype]
    exact iff_of_true hrunning (hother (by decide))
  case PING =>
    rw [handlePacket_ping b e.input d htype]
    exact iff_of_true hrunning (hother (by decide))
  all_goals
    rw [handlePacket_ignored b e.input d (by simp [htype])]
    exact iff_of_true hrunning (hother (by simp))

theorem getMacAddressAsByte_withPosition (c : Config D) (o : Option (Datagram τ)) :
    (c.withPosition o).getMacAddressAsByte = c.getMacAddressAsByte := by
  funext k
  rw [Config.getMacAddressAsByte, withPosition_macAddress]
  rfl

namespace Core

/-- The datagrams read in the turns of the wait, one in a turn. -/
def heard (queue : List (Datagram τ)) : List (LoopInput w D τ) → List (Received w τ)
  | [] => []
  | i :: waits =>
    (queue ++ i.arrived).head?.toList.map (fun m => ⟨i.command, m⟩) ++
      heard (queue ++ i.arrived).tail waits

/-- The device in a turn of the wait. -/
theorem hear_eq {b : Build} {i : LoopInput w D τ}
    (hfile : b.watchdog = true → i.watchdogFile = true) {c : Core w D τ}
    (hrunning : c.device.status = .running) :
    (c.commands ++ i.arrived = [] ∧ (c.hear b i).device = c.device ∧ (c.hear b i).commands = []) ∨
      ∃ m queue, c.commands ++ i.arrived = m :: queue ∧
        (c.hear b i).device = (checkCommandPacket b i.command c.device [m]).1 ∧
        (c.hear b i).commands = queue := by
  obtain ⟨t, hbeat⟩ : ∃ t, c.heartBeat b i = { c with lastBeat := t } := by
    unfold heartBeat
    split
    · rename_i hdue
      exact ⟨_, if_neg (by simp [hfile hdue.1])⟩
    · exact ⟨c.lastBeat, rfl⟩
  rw [hear, hbeat, andThen, if_pos hrunning, checkCommand]
  dsimp only
  cases hqueue : c.commands ++ i.arrived with
  | nil => exact .inl ⟨rfl, rfl, rfl⟩
  | cons m queue =>
    rw [checkCommandPacket_cons]
    exact .inr ⟨m, queue, rfl, rfl, rfl⟩

theorem hear_macAddress (b : Build) (i : LoopInput w D τ) (c : Core w D τ) :
    (c.hear b i).device.config.macAddress = c.device.config.macAddress := by
  let P := fun d : Device w D => d.config.macAddress = c.device.config.macAddress
  refine andThen_preserves (P := fun c' => P c'.device) (fun h => ?_)
    (heartBeat_device (P := P) b i (fun _ h => h) rfl)
  exact (checkCommandPacket_macAddress b i.command _ _).trans h

end Core

/-- A position for the device that `hasPosition` takes for one: neither coordinate is zero. -/
structure Places (D : Type) [DoubleText D] (hw : Fin 6 → Byte) (m : Datagram τ) : Prop where
  addressed : isPositionFor hw m = true
  lat : DoubleText.nonzero (DoubleText.ofFloat (Utils.singleAt m.data 12) : D) = true
  lon : DoubleText.nonzero (DoubleText.ofFloat (Utils.singleAt m.data 16) : D) = true

theorem hasPosition_withPosition {c : Config D} {hw : Fin 6 → Byte} {m : Datagram τ}
    (hnone : c.hasPosition = false) :
    (c.withPosition (if isPositionFor hw m then some m else none)).hasPosition = true ↔
      Places D hw m := by
  by_cases haddressed : isPositionFor hw m = true
  · rw [if_pos haddressed, Config.hasPosition, Bool.and_eq_true]
    exact ⟨fun h => ⟨haddressed, h.1, h.2⟩, fun h => ⟨h.lat, h.lon⟩⟩
  · rw [if_neg haddressed]
    exact iff_of_false (by rw [Config.withPosition, hnone]; exact Bool.false_ne_true)
      fun h => haddressed h.addressed

/-- A position is no packet to reboot at. -/
theorem Places.not_stops {b : Build} {hw : Fin 6 → Byte} {e : Received w τ}
    (h : Places D hw e.datagram) : ¬Stops b e := by
  have hgps := ((isPositionFor_iff hw _).1 h.addressed).1
  rintro (h' | h' | h')
  all_goals cases hgps.unique h'

namespace Core

/-- The device waits for a position. -/
structure Lost (hw : Fin 6 → Byte) (c : Core w D τ) : Prop where
  running : c.device.status = .running
  mac : c.device.config.getMacAddressAsByte = hw
  position : c.device.config.hasPosition = false

/-- The wait ends with the first datagram that is a position for the device, if none before it makes
the device reboot. -/
theorem awaitPosition_returned_iff (b : Build) {hw : Fin 6 → Byte} {waits : List (LoopInput w D τ)}
    (hfile : ∀ i ∈ waits, b.watchdog = true → i.watchdogFile = true) {c : Core w D τ}
    (hlost : c.Lost hw) :
    (Retry.run (awaitPosition b) waits c).returned = true ↔
      Retry.Reaches (fun e : Received w τ => Places D hw e.datagram) (Stops b)
        (heard c.commands waits) := by
  induction waits generalizing c with
  | nil => exact iff_of_false Bool.false_ne_true Retry.not_reaches_nil
  | cons i waits ih =>
    obtain ⟨hfile0, hfile⟩ := List.forall_mem_cons.1 hfile
    rw [heard, Retry.run, awaitPosition]
    rcases hear_eq hfile0 hlost.running with
      ⟨hqueue, hdevice, hcommands⟩ | ⟨m, queue, hqueue, hdevice, hcommands⟩
    · have hlost' : (c.hear b i).Lost hw := by
        constructor
        · rw [hdevice]; exact hlost.running
        · rw [hdevice]; exact hlost.mac
        · rw [hdevice]; exact hlost.position
      rw [if_pos hlost'.running, hlost'.position, hqueue]
      have hrest := ih hfile hlost'
      rw [hcommands] at hrest
      exact hrest
    · have hstatus := checkCommandPacket_status_iff b hlost.running ⟨i.command, m⟩
      have hconfig := checkCommandPacket_config b i.command hlost.mac m
      have hposition : _ ↔ Places D hw m := hasPosition_withPosition hlost.position
      rw [← hdevice] at hstatus hconfig
      rw [← hconfig] at hposition
      rw [hqueue, List.head?_cons, Option.toList_some, List.map_singleton, List.singleton_append,
        List.tail_cons, Retry.reaches_cons]
      by_cases hstops : Stops b (⟨i.command, m⟩ : Received w τ)
      · rw [if_neg fun h => hstatus.1 h hstops]
        refine iff_of_false Bool.false_ne_true ?_
        rintro (hplaces | hgo)
        · exact hplaces.not_stops hstops
        · exact hgo.1 hstops
      rw [if_pos (hstatus.2 hstops)]
      cases hknown : (c.hear b i).device.config.hasPosition with
      | true => exact iff_of_true rfl (.inl (hposition.1 hknown))
      | false =>
        have hlost' : (c.hear b i).Lost hw := by
          refine ⟨hstatus.2 hstops, ?_, hknown⟩
          rw [hconfig, getMacAddressAsByte_withPosition]
          exact hlost.mac
        have hplaces : ¬Places D hw m := fun h => by rw [hposition.2 h] at hknown; cases hknown
        have hrest := ih hfile hlost'
        rw [hcommands] at hrest
        exact hrest.trans ⟨fun h => .inr ⟨hstops, h⟩, fun h => (h.resolve_left hplaces).2⟩

theorem awaitPosition_post (b : Build) {waits : List (LoopInput w D τ)} {c : Core w D τ}
    (h : (Retry.run (awaitPosition b) waits c).returned = true) :
    let d := (Retry.run (awaitPosition b) waits c).state.device
    d.status = .running ∧ d.config.hasPosition = true ∧
      d.config.macAddress = c.device.config.macAddress := by
  have hmac : (Retry.run (awaitPosition b) waits c).state.device.config.macAddress =
      c.device.config.macAddress :=
    Retry.run_preserves
      (P := fun c' : Core w D τ => c'.device.config.macAddress = c.device.config.macAddress)
      (fun c' i h => (hear_macAddress b i c').trans h) rfl waits
  have hlast := Retry.run_post (P := fun c' : Core w D τ =>
    c'.device.status = .running ∧ c'.device.config.hasPosition = true) (fun c' i h => ?_) h
  · exact ⟨hlast.1, hlast.2, hmac⟩
  · unfold awaitPosition at h ⊢
    dsimp only at h ⊢
    split at h
    · rename_i hrunning
      exact ⟨hrunning, Option.some.inj h⟩
    · cases h

end Core
end Wait

/-! ### The whole -/

/-- With the address the first loop has found, if it has none. -/
def Config.named (macAddress : List Byte) (c : Config D) : Config D :=
  if c.hasMACAddress then c else { c with macAddress := macAddress }

theorem Config.named_hasMACAddress {macAddress : List Byte} (h : macAddress ≠ []) (c : Config D) :
    (c.named macAddress).hasMACAddress = true := by
  unfold named
  split
  · assumption
  · exact decide_eq_true h

theorem Config.named_hasPosition [DoubleText D] (macAddress : List Byte)
    (c : Config D) : (c.named macAddress).hasPosition = c.hasPosition := by
  unfold named
  split <;> rfl

section Whole
variable [Double D] [DoubleText D]

theorem configured_ntp (now : BitVec 32) (params : Params) (d : Device w D) :
    (configured now params d).ntp = d.ntp.setNTPServer (params.getD (str "ntpserver") []) := by
  simp only [configured]
  split <;> split <;> split <;> rfl

theorem configured_status (now : BitVec 32) (params : Params) (d : Device w D) :
    (configured now params d).status = d.status :=
  configured_preserves (P := fun d' => d'.status = d.status) (fun _ _ h => h) (fun _ _ h => h)
    (fun _ _ h => h) (fun _ h => h) (fun _ h => h) params rfl

namespace Core

/-- The core with another configuration, what it has saved and its clock of the log apart. -/
structure Loaded (config : Config D) (c c' : Core w D τ) : Prop where
  config : c'.device.config = config
  status : c'.device.status = c.device.status
  ntp : c'.device.ntp = c.device.ntp
  replies : c'.replies = c.replies
  commands : c'.commands = c.commands

theorem loadConfig_eq {mac_address : Option (Fin 6 → Byte)} (macAddress : List Byte)
    {c : Core w D τ} {config : Config D}
    (h : c.device.config.init mac_address c.device.file = some config) :
    ∃ c', Loaded (config.named macAddress) c c' ∧
      c.loadConfig mac_address macAddress = ⟨c', true⟩ := by
  rw [loadConfig, h]
  dsimp only
  by_cases hmac : config.hasMACAddress = true
  · rw [if_pos hmac, Config.named, if_pos hmac]
    refine ⟨_, ?_, rfl⟩
    exact ⟨rfl, rfl, rfl, rfl, rfl⟩
  · rw [if_neg hmac, Config.named, if_neg hmac]
    refine ⟨_, ?_, rfl⟩
    refine ⟨?_, ?_, ?_, rfl, rfl⟩
    · rw [Device.setMacAddress, Device.save_config]
    · rw [Device.setMacAddress, Device.save_status]
    · rw [Device.setMacAddress, Device.save_ntp]

end Core

/-- What lets `setup` return: an interface with the address `hw` in the first twenty lookups, a file
that can be read, a configuration the server gives before it asks for an upgrade, a call of `sync`
that returns, and a position, from the file or from the datagrams read while the device waits. -/
structure Provides (b : Build) (tw : ℕ) (x : SetupInput w D τ) (c : Core w D τ)
    (hw : Fin 6 → Byte) (config : Config D) (server : Check) : Prop where
  interface : ∃ k rest, x.interfaces = List.replicate k none ++ some hw :: rest ∧ k < 20
  loaded : c.device.config.init x.defaultInterface c.device.file = some config
  accepted : ∃ pre post, x.checks = pre ++ server :: post ∧ (∀ r ∈ pre, refuses r.resp) ∧
    accepts b server.resp = true
  synced : (NTP.sync tw (c.device.ntp.setNTPServer
    ((replyParams server.resp).getD (str "ntpserver") [])) c.replies x.rounds).result.isSome = true
  placed : config.hasPosition = true ∨
    Retry.Reaches (fun e : Received w τ =>
      Places D (config.named (Utils.getInterfaceMAC (some hw))).getMacAddressAsByte e.datagram)
      (Stops b) (Core.heard c.commands x.waits)

namespace Core

omit [Double D] in
theorem locate_returned_iff (b : Build) {waits : List (LoopInput w D τ)}
    (hfile : ∀ i ∈ waits, b.watchdog = true → i.watchdogFile = true) {c : Core w D τ}
    (hrunning : c.device.status = .running) :
    (c.locate b waits).returned = true ↔ c.device.config.hasPosition = true ∨
      Retry.Reaches (fun e : Received w τ =>
        Places D c.device.config.getMacAddressAsByte e.datagram) (Stops b)
        (heard c.commands waits) := by
  unfold locate
  split
  · rename_i hposition
    exact iff_of_true rfl (.inl hposition)
  · rename_i hposition
    have hlost : c.Lost c.device.config.getMacAddressAsByte :=
      ⟨hrunning, rfl, Bool.eq_false_iff.2 hposition⟩
    refine (awaitPosition_returned_iff b hfile hlost).trans ⟨.inr, fun h => ?_⟩
    exact h.resolve_left hposition

/-- `setup` up to the wait for a position. -/
theorem setup_eq_locate {b : Build} (tw : ℕ) {x : SetupInput w D τ} {c : Core w D τ}
    {hw : Fin 6 → Byte} {config : Config D} {server : Check} (hrunning : c.device.status = .running)
    (hinterface : ∃ k rest, x.interfaces = List.replicate k none ++ some hw :: rest ∧ k < 20)
    (hloaded : c.device.config.init x.defaultInterface c.device.file = some config)
    (haccepted : ∃ pre post, x.checks = pre ++ server :: post ∧ (∀ r ∈ pre, refuses r.resp) ∧
      accepts b server.resp = true) :
    ∃ c₁ : Core w D τ, c₁.device.status = .running ∧
      c₁.device.config = config.named (Utils.getInterfaceMAC (some hw)) ∧
      c₁.commands = c.commands ∧ c.setup b tw x =
        (⟨c₁, (NTP.sync tw (c.device.ntp.setNTPServer
          ((replyParams server.resp).getD (str "ntpserver") [])) c.replies
          x.rounds).result.isSome⟩ : Setup w D τ).andThen (locate b x.waits) := by
  obtain ⟨k, rest, hinterfaces, hk⟩ := hinterface
  have hsearch : searchInterface 0 x.interfaces = .found (Utils.getInterfaceMAC (some hw)) :=
    searchInterface_eq_found_iff.2 ⟨k, hw, rest, hinterfaces, by omega, rfl⟩
  obtain ⟨pre, post, hchecks, hpre, hserver⟩ := haccepted
  obtain ⟨c', hc', hload⟩ := loadConfig_eq (c := { c with logRotationMs := x.start.setWidth w })
    (Utils.getInterfaceMAC (some hw)) hloaded
  obtain ⟨hreturned, hstate⟩ := run_tryConfig (b := b) hpre hserver post c'
  rw [← hchecks] at hreturned hstate
  have hsetup : c.setup b tw x = ((Setup.ofRun (Retry.run (tryConfig b) x.checks c')).andThen
      fun c => c.updateLog.sync1 tw x.rounds).andThen (locate b x.waits) := by
    unfold setup
    dsimp only
    rw [hsearch]
    dsimp only
    rw [hload]
    rfl
  let c'' : Core w D τ :=
    { c' with device := configured server.now (replyParams server.resp) c'.device }
  have hsynced : (c''.updateLog.sync1 tw x.rounds).returned = (NTP.sync tw
      (c.device.ntp.setNTPServer ((replyParams server.resp).getD (str "ntpserver") []))
      c.replies x.rounds).result.isSome := by
    have hntp : c''.device.ntp = _ := configured_ntp server.now (replyParams server.resp) c'.device
    rw [sync1, sync]
    dsimp only [updateLog]
    rw [hntp, hc'.ntp, hc'.replies]
  refine ⟨(c''.updateLog.sync1 tw x.rounds).core, ?_, ?_, hc'.commands, ?_⟩
  · exact (configured_status _ _ _).trans (hc'.status.trans hrunning)
  · exact (configured_config _ _ _).trans hc'.config
  · rw [hsetup, Setup.andThen_ofRun hreturned, hstate, ← hsynced]

/-- What has let `setup` come to the wait for a position. -/
theorem exists_of_setup {b : Build} {tw : ℕ} {x : SetupInput w D τ} {c : Core w D τ}
    (h : (c.setup b tw x).returned = true) :
    ∃ hw config server,
      (∃ k rest, x.interfaces = List.replicate k none ++ some hw :: rest ∧ k < 20) ∧
      c.device.config.init x.defaultInterface c.device.file = some config ∧
      ∃ pre post, x.checks = pre ++ server :: post ∧ (∀ r ∈ pre, refuses r.resp) ∧
        accepts b server.resp = true := by
  unfold setup at h
  dsimp only at h
  cases hsearch : searchInterface 0 x.interfaces with
  | searching =>
    rw [hsearch] at h
    cases h
  | reboot =>
    rw [hsearch] at h
    cases h
  | found macAddress =>
    rw [hsearch] at h
    obtain ⟨k, hw, rest, hinterfaces, hk, rfl⟩ := searchInterface_eq_found_iff.1 hsearch
    have hparts := Setup.andThen_returned.1 (Setup.andThen_returned.1 h).1
    have hchecks := Setup.andThen_returned.1 hparts.1
    cases hload : c.device.config.init x.defaultInterface c.device.file with
    | none =>
      have hthrown := hchecks.1
      simp only [loadConfig, hload] at hthrown
      cases hthrown
    | some config =>
      obtain ⟨pre, server, post, hserver⟩ := exists_accepts_of_run_tryConfig hchecks.2
      exact ⟨hw, config, server, ⟨k, rest, hinterfaces, by omega⟩, rfl, pre, post, hserver⟩

omit [Double D] in
theorem locate_post {b : Build} {waits : List (LoopInput w D τ)} {c : Core w D τ}
    (hrunning : c.device.status = .running) (hmac : c.device.config.hasMACAddress = true)
    (h : (c.locate b waits).returned = true) :
    let d := (c.locate b waits).core.device
    d.status = .running ∧ d.config.hasMACAddress = true ∧ d.config.hasPosition = true := by
  unfold locate at h ⊢
  split at h
  · rename_i hposition
    rw [if_pos hposition]
    exact ⟨hrunning, hmac, hposition⟩
  · rename_i hposition
    rw [if_neg hposition]
    obtain ⟨hstatus, hknown, hid⟩ := awaitPosition_post b h
    refine ⟨hstatus, ?_, hknown⟩
    rw [Config.hasMACAddress, decide_eq_true_eq] at hmac ⊢
    exact fun hnil => hmac (hid.symm.trans hnil)

theorem provides_returned {b : Build} {tw : ℕ} {x : SetupInput w D τ} {c : Core w D τ}
    {hw : Fin 6 → Byte} {config : Config D} {server : Check} (h : Provides b tw x c hw config server)
    (hrunning : c.device.status = .running)
    (hfile : ∀ i ∈ x.waits, b.watchdog = true → i.watchdogFile = true) :
    (c.setup b tw x).returned = true := by
  obtain ⟨c₁, hrunning₁, hconfig, hcommands, hsetup⟩ :=
    setup_eq_locate tw hrunning h.interface h.loaded h.accepted
  rw [hsetup, Setup.andThen_returned]
  refine ⟨h.synced, (locate_returned_iff b hfile hrunning₁).2 ?_⟩
  rw [hconfig, hcommands, Config.named_hasPosition]
  exact h.placed

theorem setup_post {b : Build} {tw : ℕ} {x : SetupInput w D τ} {c : Core w D τ}
    (hrunning : c.device.status = .running) (h : (c.setup b tw x).returned = true) :
    let d := (c.setup b tw x).core.device
    d.status = .running ∧ d.config.hasMACAddress = true ∧ d.config.hasPosition = true := by
  obtain ⟨hw, config, server, hinterface, hloaded, haccepted⟩ := exists_of_setup h
  obtain ⟨c₁, hrunning₁, hconfig, -, hsetup⟩ :=
    setup_eq_locate tw hrunning hinterface hloaded haccepted
  rw [hsetup] at h ⊢
  have hparts := Setup.andThen_returned.1 h
  have hmac : c₁.device.config.hasMACAddress = true := by
    rw [hconfig]
    exact Config.named_hasMACAddress (getInterfaceMAC_ne_nil hw) config
  rw [Setup.andThen, if_pos hparts.1]
  exact locate_post hrunning₁ hmac hparts.2

end Core
end Whole

theorem ofFloatRat_gps : ofFloatRat (Utils.singleAt gps.data 12) = 83 / 2 ∧
    ofFloatRat (Utils.singleAt gps.data 16) = 25 / 2 := by decide +kernel

theorem places_gps : Places ℝ ![2, 4, 6, 8, 10, 12] gps := by
  obtain ⟨hlat, hlon⟩ := ofFloatRat_gps
  refine ⟨by decide +kernel, ?_, ?_⟩
  · show decide (((ofFloatRat (Utils.singleAt gps.data 12) : ℚ) : ℝ) ≠ 0) = true
    rw [hlat, decide_eq_true_eq]
    norm_num
  · show decide (((ofFloatRat (Utils.singleAt gps.data 16) : ℚ) : ℝ) ≠ 0) = true
    rw [hlon, decide_eq_true_eq]
    norm_num

end Terremoti
