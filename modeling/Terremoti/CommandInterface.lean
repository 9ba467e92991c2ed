import Terremoti.Device
import Terremoti.Lib.Buffer
import Terremoti.Lib.Switch
import Terremoti.NetworkManager

/-!
# The command interface (`CommandInterface.cpp`)

`readPacket` decodes a datagram, `sendPacket` encodes a packet, `checkCommandPacket` is the switch
between them: `cases` lists its cases in program order, with what each does and whether it ends in
`break`, returns, never returns (`platformReboot`, or a ping that waits on), or falls into the next
one. After the release build's `GETINFO` comes the `break` in front of `default`; in the `DEBUG` build
it is followed by `RESET`. A line of the log is no part of the traffic modelled here: it goes to port
514 of the log host, from a socket of its own.
-/

namespace Terremoti

def CMD_INTERFACE_PORT : BitVec 16 := 62001
def PACKET_SIZE : ℕ := 252

/-- `PacketType`; a byte that is no enumerator is `other`. -/
inductive PacketType
  | DISCOVERY
  | DISCOVERY_REPLY
  | PING
  | PONG
  | START
  | STOP
  | SENDGPS
  | OK
  | SETSYSLOG
  | REBOOT
  | GETINFO
  | GETINFO_REPLY
  | RESET
  | TRACE
  | other (b : Byte)
  deriving DecidableEq

namespace PacketType

def ofByte : Byte → PacketType
  | 1#8 => DISCOVERY
  | 2#8 => DISCOVERY_REPLY
  | 3#8 => PING
  | 4#8 => PONG
  | 5#8 => START
  | 6#8 => STOP
  | 7#8 => SENDGPS
  | 8#8 => OK
  | 9#8 => SETSYSLOG
  | 10#8 => REBOOT
  | 11#8 => GETINFO
  | 12#8 => GETINFO_REPLY
  | 13#8 => RESET
  | 14#8 => TRACE
  | b => other b

def toByte : PacketType → Byte
  | DISCOVERY => 1
  | DISCOVERY_REPLY => 2
  | PING => 3
  | PONG => 4
  | START => 5
  | STOP => 6
  | SENDGPS => 7
  | OK => 8
  | SETSYSLOG => 9
  | REBOOT => 10
  | GETINFO => 11
  | GETINFO_REPLY => 12
  | RESET => 13
  | TRACE => 14
  | other b => b

end PacketType

/-- `PACKET`; a `float` is its bits. -/
structure PACKET where
  type : PacketType
  source : IPaddr
  syslogServer : IPaddr
  latitude : BitVec 32
  longitude : BitVec 32
  mac : Fin 6 → Byte
  threshold : BitVec 32
  uptime : BitVec 32
  unixts : BitVec 32
  softwareVersion : List Byte
  freeRam : BitVec 32
  latency : BitVec 32
  ntpServer : IPaddr
  httpBaseAddress : List Byte
  platformName : List Byte
  accelerometerName : List Byte
  statProbeSpeed : BitVec 32

/-- What a command reads besides the datagram and the device: the contents of the uninitialised
`pkt`, the clock, the system's uptime and free memory, and what `NetworkManager::latency` meets: its
pings, and the clock before each of them and behind them. -/
structure CommandInput (w : ℕ) where
  pkt : PACKET
  now : BitVec 32
  uptime : BitVec 32
  freeRam : BitVec w
  pings : NetworkManager.Pings
  startms : BitVec 32
  restartms : BitVec 32
  stopms : BitVec 32

/-- `NetworkManager::latency`, whatever descriptors are open. -/
def CommandInput.latency {w : ℕ} (i : CommandInput w) : Option (Option (BitVec w)) :=
  (NetworkManager.latency w i.pings.first i.pings.second i.startms i.restartms i.stopms ∅).1

/-- `NetworkManager::latency` returns `echo`. -/
structure CommandInput.Returns {w : ℕ} (i : CommandInput w) (echo : Option (BitVec w)) : Prop where
  known : i.pings.reboots w = false
  latency : i.latency = some echo

/-- What becomes of the program if it does not. -/
def CommandInput.stopped {w : ℕ} (i : CommandInput w) : Status :=
  if i.pings.reboots w then .rebooting else .blocked

theorem CommandInput.stopped_ne_running {w : ℕ} (i : CommandInput w) : i.stopped ≠ .running := by
  unfold stopped
  split <;> exact Status.noConfusion

def magic : List Byte := str "INGV" ++ [0]

/-- `CommandInterface::readPacket` on the datagram received, of which at most `PACKET_SIZE` bytes
are left; the fields it does not set stay as they are in `pkt`. -/
def readPacket {τ : Type} (pkt : PACKET) (m : Datagram τ) : Option PACKET :=
  let pktBuffer := m.data
  if pktBuffer.length = PACKET_SIZE ∧ pktBuffer.take 5 = magic then
    let pkt := { pkt with type := .ofByte (pktBuffer.getD 5 0), source := m.src }
    if pkt.type = .SENDGPS then
      some { pkt with
        mac := fun i => pktBuffer.getD (6 + i) 0
        latitude := Utils.reverseFloat (Utils.load32 (pktBuffer.drop 12))
        longitude := Utils.reverseFloat (Utils.load32 (pktBuffer.drop 16)) }
    else if pkt.type = .SETSYSLOG then
      some { pkt with syslogServer := Utils.load32 (pktBuffer.drop 6) }
    else some pkt
  else none

def strncpy (buf : List Byte) (offset : ℕ) (s : List Byte) (n : ℕ) : List Byte :=
  Buffer.write buf offset (((cstr s).take n).rightpad n 0)

def writeInfo (pktbuf : List Byte) (pkt : PACKET) : List Byte :=
  let offset := 6
  let pktbuf := Buffer.write pktbuf offset (List.ofFn pkt.mac)
  let offset := offset + 6
  let pktbuf := Buffer.write pktbuf offset (Utils.bytes32 pkt.syslogServer)
  let offset := offset + 4
  let pktbuf := Buffer.write pktbuf offset (Utils.bytes32 pkt.threshold)
  let offset := offset + 4
  let pktbuf := Buffer.write pktbuf offset (Utils.bytes32 pkt.uptime)
  let offset := offset + 4
  let pktbuf := Buffer.write pktbuf offset (Utils.bytes32 pkt.unixts)
  let offset := offset + 4
  let pktbuf := Buffer.write pktbuf offset (pkt.softwareVersion.take 4)
  let offset := offset + 4
  let pktbuf := Buffer.write pktbuf offset (Utils.bytes32 pkt.freeRam)
  let offset := offset + 4
  let pktbuf := Buffer.write pktbuf offset (Utils.bytes32 pkt.latency)
  let offset := offset + 4
  let pktbuf := Buffer.write pktbuf offset (Utils.bytes32 pkt.ntpServer)
  let offset := offset + 4
  let pktbuf := strncpy pktbuf offset pkt.httpBaseAddress 169
  let offset := offset + min pkt.httpBaseAddress.length 169 + 1
  let pktbuf := strncpy pktbuf offset pkt.platformName 19
  let offset := offset + min pkt.platformName.length 19 + 1
  let pktbuf := strncpy pktbuf offset pkt.accelerometerName 9
  let offset := offset + min pkt.accelerometerName.length 9 + 1
  Buffer.write pktbuf offset (Utils.bytes32 pkt.statProbeSpeed)

/-- `CommandInterface::sendPacket`; `mac` is what `Config::getMacAddressAsByte` reads. -/
def sendPacket (b : Build) (mac : Fin 6 → Byte) (pkt : PACKET) : Sent :=
  let pktbuf := List.replicate PACKET_SIZE 0
  let pktbuf := Buffer.write pktbuf 0 magic
  let pktbuf := Buffer.write pktbuf 5 [pkt.type.toByte]
  let pktbuf :=
    if pkt.type = .DISCOVERY_REPLY then
      let pktbuf := Buffer.write pktbuf 6 (List.ofFn mac)
      let pktbuf := Buffer.write pktbuf 12 SOFTWARE_VERSION
      Buffer.write pktbuf 16 (b.platform.tag.take 8)
    else if pkt.type = .GETINFO_REPLY then writeInfo pktbuf pkt
    else pktbuf
  Udp.send pktbuf pkt.source CMD_INTERFACE_PORT

/-- `checkCommandPacket` under way: the local `pkt`, the device, and what has been sent. -/
structure Cmd (w : ℕ) (D : Type) where
  pkt : PACKET
  device : Device w D
  sent : List Sent := []

namespace Cmd

variable {w : ℕ} {D : Type}

def reply (b : Build) (type : PacketType) (c : Cmd w D) : Cmd w D :=
  let pkt := { c.pkt with type := type }
  { c with pkt := pkt
           sent := c.sent ++ [sendPacket b c.device.config.getMacAddressAsByte pkt] }

def platformReboot (c : Cmd w D) : Cmd w D := { c with device := c.device.platformReboot }

def block (c : Cmd w D) : Cmd w D := { c with device := c.device.block }

def discovery (b : Build) (c : Cmd w D) : Cmd w D × Switch.Flow :=
  (c.reply b .DISCOVERY_REPLY, .stop)

def ping (b : Build) (c : Cmd w D) : Cmd w D × Switch.Flow := (c.reply b .PONG, .stop)

def setSyslog (b : Build) (c : Cmd w D) : Cmd w D × Switch.Flow :=
  let c := { c with device := { c.device with
    log := c.device.log.setSyslogServer c.pkt.syslogServer } }
  (c.reply b .OK, .stop)

def reboot (b : Build) (c : Cmd w D) : Cmd w D × Switch.Flow :=
  ((c.reply b .OK).platformReboot, .stop)

def reset (c : Cmd w D) : Cmd w D × Switch.Flow :=
  let c := { c with device := c.device.unlinkConfig }
  (c.platformReboot, .stop)

def trace (i : CommandInput w) (c : Cmd w D) : Cmd w D × Switch.Flow :=
  ({ c with device := c.device.startTrace i.now }, .stop)

variable [DoubleText D]

def sendGps (b : Build) (c : Cmd w D) : Cmd w D × Switch.Flow :=
  if c.device.config.getMacAddressAsByte ≠ c.pkt.mac then (c, .stop) else
  let d := c.device.setLongitude (DoubleText.ofFloat c.pkt.longitude)
  let d := d.setLatitude (DoubleText.ofFloat c.pkt.latitude)
  ({ c with device := d }.reply b .OK, .stop)

/-- The packet of a `GETINFO_REPLY`; `echo` is the latency. -/
def info (b : Build) (i : CommandInput w) (echo : Option (BitVec w)) (c : Cmd w D) : PACKET :=
  let d := c.device
  { c.pkt with
    mac := d.config.getMacAddressAsByte
    syslogServer := d.log.syslogServer
    threshold := DoubleText.toFloat d.seismometer.quakeThreshold
    uptime := i.uptime
    unixts := (d.ntp.getUNIXTime i.now).setWidth 32
    softwareVersion := SOFTWARE_VERSION
    freeRam := (i.freeRam / 1024).setWidth 32
    latency := match echo with
      | some ms => toSingle (ms.toNat : ℚ)
      | none => toSingle (-1 : ℚ)
    ntpServer := d.ntp.lastNTPServer
    httpBaseAddress := d.baseUrl
    platformName := b.platform.getPlatformName
    accelerometerName := b.platform.getAccelerometerName
    statProbeSpeed := d.seismometer.statProbeSpeed }

/-- There is no `break` after the reply. `NetworkManager::ping` reboots when the system does not
know the ICMP protocol, and may not return. -/
def getInfo (b : Build) (i : CommandInput w) (c : Cmd w D) : Cmd w D × Switch.Flow :=
  if i.pings.reboots w then (c.platformReboot, .stop) else
  match i.latency with
  | none => (c.block, .stop)
  | some echo => ({ c with pkt := c.info b i echo }.reply b .GETINFO_REPLY, .fall)

def cases (b : Build) (i : CommandInput w) :
    List (PacketType × (Cmd w D → Cmd w D × Switch.Flow)) :=
  [(.DISCOVERY, discovery b), (.PING, ping b), (.SENDGPS, sendGps b), (.SETSYSLOG, setSyslog b),
    (.REBOOT, reboot b), (.GETINFO, getInfo b i)] ++
  if b.debug then [(.RESET, reset), (.TRACE, trace i)] else []

end Cmd

variable {w : ℕ} {D τ : Type} [DoubleText D]

def handlePacket (b : Build) (i : CommandInput w) (d : Device w D) (pkt : PACKET) : Cmd w D :=
  Switch.switch (Cmd.cases b i) pkt.type { pkt := pkt, device := d }

/-- `CommandInterface::checkCommandPacket`: the device, what it sends, and the socket queue. -/
def checkCommandPacket (b : Build) (i : CommandInput w) (d : Device w D)
    (queue : List (Datagram τ)) : Device w D × List Sent × List (Datagram τ) :=
  let r := Udp.receive PACKET_SIZE queue
  match r.1.bind (readPacket i.pkt) with
  | none => (d, [], r.2)
  | some pkt =>
    let c := handlePacket b i d pkt
    (c.device, c.sent, r.2)

/-! ### What is read -/

/-- A call deals with one datagram. -/
theorem checkCommandPacket_cons (b : Build) (i : CommandInput w) (d : Device w D) (m : Datagram τ)
    (queue : List (Datagram τ)) :
    checkCommandPacket b i d (m :: queue) =
      ((checkCommandPacket b i d [m]).1, (checkCommandPacket b i d [m]).2.1, queue) := by
  rw [checkCommandPacket, checkCommandPacket]
  dsimp only [Udp.receive]
  split <;> rfl

/-- The first `PACKET_SIZE` bytes of the datagram are there and are a packet of type `t`. -/
structure IsPacket (m : Datagram τ) (t : PacketType) : Prop where
  size : PACKET_SIZE ≤ m.data.length
  magic : m.data.take 5 = magic
  type : PacketType.ofByte (m.data.getD 5 0) = t

structure Decoded (m : Datagram τ) (pkt : PACKET) : Prop where
  source : pkt.source = m.src
  mac : pkt.type = .SENDGPS → pkt.mac = fun k : Fin 6 => m.data.getD (6 + k) 0
  latitude : pkt.type = .SENDGPS → pkt.latitude = Utils.singleAt m.data 12
  longitude : pkt.type = .SENDGPS → pkt.longitude = Utils.singleAt m.data 16

theorem getD_take {l : List Byte} {n k : ℕ} (h : k < n) : (l.take n).getD k 0 = l.getD k 0 := by
  rw [List.getD_eq_getElem?_getD, List.getD_eq_getElem?_getD, List.getElem?_take_of_lt h]

theorem readPacket_of_isPacket (pkt₀ : PACKET) {m : Datagram τ} {t : PacketType}
    (h : IsPacket m t) : ∃ pkt, (Udp.receive PACKET_SIZE [m]).1.bind (readPacket pkt₀) = some pkt ∧
      pkt.type = t ∧ Decoded m pkt := by
  have hlen : (m.data.take PACKET_SIZE).length = PACKET_SIZE := by
    rw [List.length_take, Nat.min_eq_left h.size]
  have hmagic : (m.data.take PACKET_SIZE).take 5 = Terremoti.magic := by
    rw [List.take_take]; exact h.magic
  have htype : PacketType.ofByte ((m.data.take PACKET_SIZE).getD 5 0) = t := by
    rw [getD_take (by decide)]; exact h.type
  have hsingle : ∀ k, k + 4 ≤ PACKET_SIZE →
      Utils.reverseFloat (Utils.load32 ((m.data.take PACKET_SIZE).drop k)) =
        Utils.singleAt m.data k := by
    intro k hk
    rw [Utils.reverseFloat_drop (by rw [hlen]; exact hk), Utils.singleAt, Utils.singleAt,
      getD_take (by omega), getD_take (by omega), getD_take (by omega), getD_take (by omega)]
  show ∃ pkt, readPacket pkt₀ { m with data := m.data.take PACKET_SIZE } = some pkt ∧ _
  rw [readPacket]
  simp only [hlen, hmagic, htype, and_self, if_true]
  by_cases hgps : t = .SENDGPS
  · rw [if_pos hgps]
    refine ⟨_, rfl, rfl, rfl, fun _ => funext fun k => ?_, fun _ => hsingle 12 (by decide),
      fun _ => hsingle 16 (by decide)⟩
    exact getD_take (by have := k.isLt; unfold PACKET_SIZE; omega)
  rw [if_neg hgps]
  split
  · exact ⟨_, rfl, rfl, rfl, fun h => absurd h hgps, fun h => absurd h hgps,
      fun h => absurd h hgps⟩
  · exact ⟨_, rfl, rfl, rfl, fun h => absurd h hgps, fun h => absurd h hgps,
      fun h => absurd h hgps⟩

theorem readPacket_of_not_isPacket (pkt₀ : PACKET) {m : Datagram τ} (h : ∀ t, ¬IsPacket m t) :
    (Udp.receive PACKET_SIZE [m]).1.bind (readPacket pkt₀) = none := by
  show readPacket pkt₀ { m with data := m.data.take PACKET_SIZE } = none
  rw [readPacket]
  dsimp only
  rw [if_neg]
  rintro ⟨hlen, hmagic⟩
  rw [List.length_take] at hlen
  rw [List.take_take] at hmagic
  exact h _ ⟨by omega, hmagic, rfl⟩

theorem checkCommandPacket_of_isPacket (b : Build) (i : CommandInput w) (d : Device w D)
    {m : Datagram τ} {t : PacketType} (h : IsPacket m t) :
    ∃ pkt, pkt.type = t ∧ Decoded m pkt ∧ checkCommandPacket b i d [m] =
      ((handlePacket b i d pkt).device, (handlePacket b i d pkt).sent, []) := by
  obtain ⟨pkt, hread, htype, hdec⟩ := readPacket_of_isPacket i.pkt h
  refine ⟨pkt, htype, hdec, ?_⟩
  rw [checkCommandPacket]
  dsimp only
  rw [hread]
  rfl

theorem checkCommandPacket_of_not_isPacket (b : Build) (i : CommandInput w) (d : Device w D)
    {m : Datagram τ} (h : ∀ t, ¬IsPacket m t) : checkCommandPacket b i d [m] = (d, [], []) := by
  rw [checkCommandPacket]
  dsimp only
  rw [readPacket_of_not_isPacket i.pkt h]
  rfl

/-! ### What each case does -/

section Handle
variable (b : Build) (i : CommandInput w) (d : Device w D) {pkt : PACKET}

theorem handlePacket_discovery (h : pkt.type = .DISCOVERY) :
    handlePacket b i d pkt = Cmd.reply b .DISCOVERY_REPLY { pkt := pkt, device := d } := by
  rw [handlePacket, h]; rfl

theorem handlePacket_ping (h : pkt.type = .PING) :
    handlePacket b i d pkt = Cmd.reply b .PONG { pkt := pkt, device := d } := by
  rw [handlePacket, h]; rfl

theorem handlePacket_sendGps_eq (h : pkt.type = .SENDGPS) :
    handlePacket b i d pkt = (Cmd.sendGps b { pkt := pkt, device := d }).1 := by
  have hflow : ∀ c : Cmd w D, (Cmd.sendGps b c).2 = .stop := by
    intro c; rw [Cmd.sendGps]; split <;> rfl
  rw [handlePacket, h]
  exact Switch.run_stop _ (hflow _)

theorem handlePacket_sendGps_mismatch (h : pkt.type = .SENDGPS)
    (hmac : d.config.getMacAddressAsByte ≠ pkt.mac) :
    handlePacket b i d pkt = { pkt := pkt, device := d } := by
  rw [handlePacket_sendGps_eq b i d h, Cmd.sendGps, if_pos hmac]

theorem handlePacket_sendGps (h : pkt.type = .SENDGPS)
    (hmac : d.config.getMacAddressAsByte = pkt.mac) :
    handlePacket b i d pkt = Cmd.reply b .OK
      { pkt := pkt
        device := (d.setLongitude (DoubleText.ofFloat pkt.longitude)).setLatitude
          (DoubleText.ofFloat pkt.latitude) } := by
  rw [handlePacket_sendGps_eq b i d h, Cmd.sendGps, if_neg (not_not.2 hmac)]

theorem handlePacket_setSyslog (h : pkt.type = .SETSYSLOG) :
    handlePacket b i d pkt = Cmd.reply b .OK
      { pkt := pkt, device := { d with log := d.log.setSyslogServer pkt.syslogServer } } := by
  rw [handlePacket, h]; rfl

theorem handlePacket_reboot (h : pkt.type = .REBOOT) :
    handlePacket b i d pkt =
      (Cmd.reply b .OK { pkt := pkt, device := d }).platformReboot := by
  rw [handlePacket, h]; rfl

theorem handlePacket_getInfo_stops (h : pkt.type = .GETINFO) (hping : ¬∃ echo, i.Returns echo) :
    handlePacket b i d pkt = { pkt := pkt, device := { d with status := i.stopped } } := by
  have hbody : Cmd.getInfo b i ({ pkt := pkt, device := d } : Cmd w D) =
      ({ pkt := pkt, device := { d with status := i.stopped } }, .stop) := by
    rw [Cmd.getInfo, CommandInput.stopped]
    cases hreboots : i.pings.reboots w with
    | true => rfl
    | false =>
      rw [if_neg Bool.false_ne_true, if_neg Bool.false_ne_true]
      cases hlatency : i.latency with
      | none => rfl
      | some echo => exact absurd ⟨echo, hreboots, hlatency⟩ hping
  rw [handlePacket, h]
  exact (Switch.run_stop _ (congrArg Prod.snd hbody)).trans (congrArg Prod.fst hbody)

/-- The `GETINFO_REPLY`, and what follows it: nothing in the release build, `RESET` in the other. -/
theorem handlePacket_getInfo (h : pkt.type = .GETINFO) {echo : Option (BitVec w)}
    (hping : i.Returns echo) :
    let c : Cmd w D := { pkt := pkt, device := d }
    let c := Cmd.reply b .GETINFO_REPLY { c with pkt := c.info b i echo }
    handlePacket b i d pkt = if b.debug then (Cmd.reset c).1 else c := by
  intro c₀ c
  have hbody : Cmd.getInfo b i c₀ = (c, .fall) := by
    rw [Cmd.getInfo, if_neg (by simp [hping.known]), hping.latency]
  have hrun : handlePacket b i d pkt =
      Switch.run ((if b.debug then [(.RESET, Cmd.reset), (.TRACE, Cmd.trace i)] else
        ([] : List (PacketType × (Cmd w D → Cmd w D × Switch.Flow)))).map Prod.snd) c := by
    rw [handlePacket, h]
    exact (Switch.run_fall _ (congrArg Prod.snd hbody)).trans
      (congrArg (Switch.run _) (congrArg Prod.fst hbody))
  rw [hrun]
  cases b.debug <;> rfl

theorem handlePacket_default (h : pkt.type ∉ (Cmd.cases (D := D) b i).map Prod.fst) :
    handlePacket b i d pkt = { pkt := pkt, device := d } :=
  Switch.switch_of_notMem h _

theorem handlePacket_reset (h : pkt.type = .RESET) :
    handlePacket b i d pkt =
      { pkt := pkt, device := if b.debug then d.unlinkConfig.platformReboot else d } := by
  rw [handlePacket, h, Cmd.cases]
  cases b.debug <;> rfl

theorem handlePacket_startTrace (h : pkt.type = .TRACE) :
    handlePacket b i d pkt =
      { pkt := pkt, device := if b.debug then d.startTrace i.now else d } := by
  rw [handlePacket, h, Cmd.cases]
  cases b.debug <;> rfl

/-- The types that no build has a case for. -/
theorem handlePacket_ignored (h : pkt.type ∉ [PacketType.DISCOVERY, .PING, .SENDGPS, .SETSYSLOG,
      .REBOOT, .GETINFO, .RESET, .TRACE]) :
    handlePacket b i d pkt = { pkt := pkt, device := d } := by
  refine handlePacket_default b i d fun hmem => h ?_
  rw [Cmd.cases, List.map_append] at hmem
  rcases List.mem_append.1 hmem with hmem | hmem
  · exact List.mem_append_left [PacketType.RESET, .TRACE] hmem
  · split at hmem
    · exact List.mem_append_right [PacketType.DISCOVERY, .PING, .SENDGPS, .SETSYSLOG, .REBOOT,
        .GETINFO] hmem
    · cases hmem

/-- What a packet other than `SETSYSLOG` and `TRACE` can do to the device. -/
inductive Serves (d : Device w D) : Device w D → Prop
  | none : Serves d d
  | position (lon lat : D) : Serves d ((d.setLongitude lon).setLatitude lat)
  | stops (s : Status) : Serves d { d with status := s }
  | reset : Serves d d.unlinkConfig.platformReboot

theorem Serves.keeps {α : Type} {f : Device w D → α}
    (hlongitude : ∀ (d : Device w D) (lon : D), f (d.setLongitude lon) = f d)
    (hlatitude : ∀ (d : Device w D) (lat : D), f (d.setLatitude lat) = f d)
    (hstatus : ∀ (d : Device w D) (s : Status), f { d with status := s } = f d)
    (hunlink : ∀ d : Device w D, f d.unlinkConfig = f d) {d d' : Device w D} (h : Serves d d') :
    f d' = f d := by
  cases h with
  | none => rfl
  | position lon lat => rw [hlatitude, hlongitude]
  | stops s => exact hstatus d s
  | reset => rw [Device.platformReboot, hstatus, hunlink]

theorem handlePacket_serves (hlog : pkt.type ≠ .SETSYSLOG)
    (htrace : ¬ (b.debug = true ∧ pkt.type = .TRACE)) :
    Serves d (handlePacket b i d pkt).device := by
  cases htype : pkt.type
  case SETSYSLOG => exact absurd htype hlog
  case TRACE =>
    rw [handlePacket_startTrace b i d htype, if_neg fun h => htrace ⟨h, htype⟩]
    exact .none
  case SENDGPS =>
    rw [handlePacket_sendGps_eq b i d htype, Cmd.sendGps]
    split
    · exact .none
    · exact .position _ _
  case GETINFO =>
    by_cases hping : ∃ echo, i.Returns echo
    · obtain ⟨echo, hping⟩ := hping
      rw [handlePacket_getInfo b i d htype hping]
      cases b.debug with
      | false => exact .none
      | true => exact .reset
    · rw [handlePacket_getInfo_stops b i d htype hping]
      exact .stops i.stopped
  case REBOOT =>
    rw [handlePacket_reboot b i d htype]
    exact .stops .rebooting
  case RESET =>
    rw [handlePacket_reset b i d htype]
    cases b.debug with
    | false => exact .none
    | true => exact .reset
  case DISCOVERY =>
    rw [handlePacket_discovery b i d htype]
    exact .none
  case PING =>
    rw [handlePacket_ping b i d htype]
    exact .none
  all_goals
    rw [handlePacket_ignored b i d (by simp [htype])]
    exact .none

theorem handlePacket_cases (pkt : PACKET) :
    (pkt.type = .SETSYSLOG ∧ (handlePacket b i d pkt).device =
      { d with log := d.log.setSyslogServer pkt.syslogServer }) ∨
    ((b.debug = true ∧ pkt.type = .TRACE) ∧
      (handlePacket b i d pkt).device = d.startTrace i.now) ∨
    (pkt.type ≠ .SETSYSLOG ∧ ¬ (b.debug = true ∧ pkt.type = .TRACE) ∧
      Serves d (handlePacket b i d pkt).device) := by
  by_cases hlog : pkt.type = .SETSYSLOG
  · refine .inl ⟨hlog, ?_⟩
    rw [handlePacket_setSyslog b i d hlog]
    rfl
  by_cases htrace : b.debug = true ∧ pkt.type = .TRACE
  · refine .inr (.inl ⟨htrace, ?_⟩)
    rw [handlePacket_startTrace b i d htrace.2, if_pos htrace.1]
  · exact .inr (.inr ⟨hlog, htrace, handlePacket_serves b i d hlog htrace⟩)

/-- What the setters, the status and the trace leave alone, a command leaves alone. -/
theorem handlePacket_preserves {P : Device w D → Prop}
    (hlongitude : ∀ (d : Device w D) (lon : D), P d → P (d.setLongitude lon))
    (hlatitude : ∀ (d : Device w D) (lat : D), P d → P (d.setLatitude lat))
    (hlog : ∀ (d : Device w D) (l : Log), P d → P { d with log := l })
    (hstatus : ∀ (d : Device w D) (s : Status), P d → P { d with status := s })
    (hunlink : ∀ d : Device w D, P d → P d.unlinkConfig)
    (htrace : ∀ d : Device w D, P d → P (d.startTrace i.now)) (pkt : PACKET) (hd : P d) :
    P (handlePacket b i d pkt).device := by
  refine Switch.switch_preserves (P := fun c : Cmd w D => P c.device) _ (fun c hc s hs => ?_) hd
  have hsendGps : P (Cmd.sendGps b s).1.device := by
    unfold Cmd.sendGps
    split
    · exact hs
    · exact hlatitude _ _ (hlongitude _ _ hs)
  have hgetInfo : P (Cmd.getInfo b i s).1.device := by
    unfold Cmd.getInfo
    split
    · exact hstatus _ _ hs
    · cases i.latency with
      | none => exact hstatus _ _ hs
      | some echo => exact hs
  simp only [Cmd.cases, List.mem_append, List.mem_cons, List.not_mem_nil, or_false] at hc
  rcases hc with (rfl | rfl | rfl | rfl | rfl | rfl) | hdebug
  · exact hs
  · exact hs
  · exact hsendGps
  · exact hlog _ _ hs
  · exact hstatus _ _ hs
  · exact hgetInfo
  · split at hdebug
    · obtain rfl | rfl := by simpa using hdebug
      · exact hstatus _ _ (hunlink _ hs)
      · exact htrace _ hs
    · cases hdebug

theorem handlePacket_ntp (pkt : PACKET) : (handlePacket b i d pkt).device.ntp = d.ntp := by
  refine handlePacket_preserves (P := fun d' : Device w D => d'.ntp = d.ntp) b i d
    (fun _ _ h => ?_) (fun _ _ h => ?_) (fun _ _ h => h) (fun _ _ h => h) (fun _ h => h)
    (fun _ h => h) pkt rfl
  · rw [Device.setLongitude, Device.save_ntp]
    exact h
  · rw [Device.setLatitude, Device.save_ntp]
    exact h

theorem handlePacket_macAddress (pkt : PACKET) :
    (handlePacket b i d pkt).device.config.macAddress = d.config.macAddress := by
  refine handlePacket_preserves
    (P := fun d' : Device w D => d'.config.macAddress = d.config.macAddress) b i d
    (fun _ _ h => ?_) (fun _ _ h => ?_) (fun _ _ h => h) (fun _ _ h => h) (fun _ h => h)
    (fun _ h => h) pkt rfl
  · rw [Device.setLongitude, Device.save_config]
    exact h
  · rw [Device.setLatitude, Device.save_config]
    exact h

theorem checkCommandPacket_preserves {P : Device w D → Prop}
    (hpacket : ∀ pkt, P (handlePacket b i d pkt).device) (hd : P d) (queue : List (Datagram τ)) :
    P (checkCommandPacket b i d queue).1 := by
  unfold checkCommandPacket
  dsimp only
  split
  · exact hd
  · exact hpacket _

theorem checkCommandPacket_ntp (queue : List (Datagram τ)) :
    (checkCommandPacket b i d queue).1.ntp = d.ntp :=
  checkCommandPacket_preserves (P := fun d' => d'.ntp = d.ntp) b i d (handlePacket_ntp b i d) rfl
    queue

theorem checkCommandPacket_macAddress (queue : List (Datagram τ)) :
    (checkCommandPacket b i d queue).1.config.macAddress = d.config.macAddress :=
  checkCommandPacket_preserves (P := fun d' => d'.config.macAddress = d.config.macAddress) b i d
    (handlePacket_macAddress b i d) rfl queue

end Handle

/-! ### What is sent -/

theorem length_rightpad_take (s : List Byte) (n : ℕ) : ((s.take n).rightpad n 0).length = n := by
  rw [List.rightpad, List.length_append, List.length_take, List.length_replicate]
  omega

theorem writeInfo_extends {pktbuf : List Byte} (h : pktbuf.length = 252) (pkt : PACKET) :
    Buffer.Extends 6 pktbuf (writeInfo pktbuf pkt) := by
  have hversion := List.length_take_le 4 pkt.softwareVersion
  have hbase := Nat.min_le_right pkt.httpBaseAddress.length 169
  have hplatform := Nat.min_le_right pkt.platformName.length 19
  have haccel := Nat.min_le_right pkt.accelerometerName.length 9
  have h32 : ∀ x, (Utils.bytes32 x).length = 4 := fun _ => rfl
  simp only [writeInfo, strncpy]
  repeat
    refine Buffer.Extends.write ?_ (by omega)
      (by simp only [length_rightpad_take, List.length_ofFn, h32, h]; omega)
  exact Buffer.Extends.refl _ _

def header (type : PacketType) : List Byte :=
  Buffer.write (Buffer.write (List.replicate PACKET_SIZE 0) 0 magic) 5 [type.toByte]

theorem length_header (type : PacketType) : (header type).length = 252 := by
  have hmagic : (Buffer.write (List.replicate PACKET_SIZE 0) 0 magic).length = 252 := by
    rw [Buffer.length_write (by rw [List.length_replicate]; decide), List.length_replicate]
    rfl
  rw [header, Buffer.length_write (by rw [hmagic, List.length_singleton]; omega), hmagic]

theorem take_header (type : PacketType) : (header type).take 6 = magic ++ [type.toByte] := rfl

theorem sendPacket_data (b : Build) (mac : Fin 6 → Byte) (pkt : PACKET) :
    (sendPacket b mac pkt).data =
      if pkt.type = .DISCOVERY_REPLY then
        Buffer.write (Buffer.write (Buffer.write (header pkt.type) 6 (List.ofFn mac)) 12
          SOFTWARE_VERSION) 16 (b.platform.tag.take 8)
      else if pkt.type = .GETINFO_REPLY then writeInfo (header pkt.type) pkt
      else header pkt.type := rfl

theorem sendPacket_discoveryReply (b : Build) (mac : Fin 6 → Byte) {pkt : PACKET}
    (h : pkt.type = .DISCOVERY_REPLY) :
    Buffer.Extends 12 (Buffer.write (header pkt.type) 6 (List.ofFn mac))
      (sendPacket b mac pkt).data := by
  have htag := List.length_take_le 8 b.platform.tag
  have hversion : SOFTWARE_VERSION.length = 4 := by decide
  have hmac : (Buffer.write (header pkt.type) 6 (List.ofFn mac)).length = 252 := by
    rw [Buffer.length_write (by rw [List.length_ofFn, length_header]; omega), length_header]
  rw [sendPacket_data, if_pos h]
  refine ((Buffer.Extends.refl _ _).write (by omega) ?_).write (by omega) ?_
  · rw [hmac, hversion]; omega
  · rw [hmac]; omega

theorem sendPacket_extends (b : Build) (mac : Fin 6 → Byte) (pkt : PACKET) :
    Buffer.Extends 6 (header pkt.type) (sendPacket b mac pkt).data := by
  by_cases h : pkt.type = .DISCOVERY_REPLY
  · have hext := sendPacket_discoveryReply b mac h
    have hmac : Buffer.Extends 6 (header pkt.type)
        (Buffer.write (header pkt.type) 6 (List.ofFn mac)) :=
      (Buffer.Extends.refl _ _).write (by omega) (by rw [List.length_ofFn, length_header]; omega)
    exact hmac.trans (hext.mono (by omega))
  rw [sendPacket_data, if_neg h]
  split
  · exact writeInfo_extends (length_header _) pkt
  · exact Buffer.Extends.refl _ _

theorem length_sendPacket (b : Build) (mac : Fin 6 → Byte) (pkt : PACKET) :
    (sendPacket b mac pkt).data.length = PACKET_SIZE :=
  (sendPacket_extends b mac pkt).length.trans (length_header _)

theorem take_sendPacket (b : Build) (mac : Fin 6 → Byte) (pkt : PACKET) :
    (sendPacket b mac pkt).data.take 6 = magic ++ [pkt.type.toByte] :=
  (sendPacket_extends b mac pkt).take.trans (take_header _)

theorem sendPacket_mac (b : Build) (mac : Fin 6 → Byte) {pkt : PACKET}
    (h : pkt.type = .DISCOVERY_REPLY) :
    Buffer.read (sendPacket b mac pkt).data 6 6 = List.ofFn mac := by
  have hread := Buffer.read_write (List.ofFn mac)
    (show 6 ≤ (header pkt.type).length by rw [length_header]; omega)
  rw [List.length_ofFn] at hread
  rw [(sendPacket_discoveryReply b mac h).read (by omega), hread]

end Terremoti
