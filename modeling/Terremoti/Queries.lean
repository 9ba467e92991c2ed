import Terremoti.CommandInterface
import Terremoti.PingWait

/-!
# Queries (`CommandInterface::checkCommandPacket`)

`DISCOVERY`, `PING` and `GETINFO` are to be answered once and to change nothing (`ReadOnly`). The
first two do so in every build. `GETINFO` has no `break`: in the `DEBUG` build it goes on with
`RESET`, which removes the saved configuration and reboots; and before it answers it calls
`NetworkManager::latency`, which reboots a device that does not know the ICMP protocol and may not
return (`getInfo_wrapping`). `query_readOnly_iff` is the exact condition.
-/

namespace Terremoti

def queryReply : PacketType → Option PacketType
  | .DISCOVERY => some .DISCOVERY_REPLY
  | .PING => some .PONG
  | .GETINFO => some .GETINFO_REPLY
  | _ => none

variable {w : ℕ} {D τ : Type}

/-- One packet of type `reply` goes to the sender of `m`, on the command port, and the device keeps
its saved configuration, its settings and its status. -/
structure ReadOnly (d : Device w D) (m : Datagram τ) (reply : PacketType) (d' : Device w D)
    (sent : List Sent) : Prop where
  answer : ∃ data : List Byte, sent = [⟨m.src, CMD_INTERFACE_PORT, data⟩] ∧
    data.length = PACKET_SIZE ∧ data.take 6 = magic ++ [reply.toByte]
  file : d'.file = d.file
  deviceId : d'.config.macAddress = d.config.macAddress
  latitude : d'.config.lat = d.config.lat
  longitude : d'.config.lon = d.config.lon
  syslog : d'.log = d.log
  ntp : d'.ntp = d.ntp
  baseUrl : d'.baseUrl = d.baseUrl
  trace : d'.trace = d.trace
  status : d'.status = d.status

theorem ReadOnly.of_reply (b : Build) (d : Device w D) {m : Datagram τ} (pkt : PACKET)
    (hsource : pkt.source = m.src) (reply : PacketType) :
    ReadOnly d m reply (Cmd.reply b reply { pkt := pkt, device := d }).device
      (Cmd.reply b reply { pkt := pkt, device := d }).sent where
  answer := ⟨_, congrArg (fun src => [Sent.mk src _ _]) hsource, length_sendPacket b _ _,
    take_sendPacket b _ _⟩
  file := rfl
  deviceId := rfl
  latitude := rfl
  longitude := rfl
  syslog := rfl
  ntp := rfl
  baseUrl := rfl
  trace := rfl
  status := rfl

variable [DoubleText D]

/-- A running device answers a query and stays as it is, in either build, unless the query is
`GETINFO` and the build is the `DEBUG` one or `latency` does not return. -/
theorem query_readOnly_iff (b : Build) (i : CommandInput w) {d : Device w D} {m : Datagram τ}
    {t reply : PacketType} (hrunning : d.status = .running) (hm : IsPacket m t)
    (hquery : queryReply t = some reply) :
    ReadOnly d m reply (checkCommandPacket b i d [m]).1 (checkCommandPacket b i d [m]).2.1 ↔
      (t = .GETINFO → b.debug = false ∧ ∃ echo, i.Returns echo) := by
  obtain ⟨pkt, htype, hdec, hcheck⟩ := checkCommandPacket_of_isPacket b i d hm
  rw [hcheck]
  -- the device of a run that does not return has changed its status
  have hstops : ∀ {c : Cmd w D} {sent : List Sent}, c.device.status ≠ .running →
      ¬ReadOnly d m reply c.device sent := fun hc h => hc (h.status.trans hrunning)
  cases t <;> cases hquery
  case DISCOVERY =>
    rw [handlePacket_discovery b i d htype]
    exact iff_of_true (ReadOnly.of_reply b d pkt hdec.source _) (by simp)
  case PING =>
    rw [handlePacket_ping b i d htype]
    exact iff_of_true (ReadOnly.of_reply b d pkt hdec.source _) (by simp)
  case GETINFO =>
    by_cases hping : ∃ echo, i.Returns echo
    · obtain ⟨echo, hping⟩ := hping
      rw [handlePacket_getInfo b i d htype hping]
      cases hdebug : b.debug with
      | true => exact iff_of_false (hstops Status.noConfusion) (by simp)
      | false =>
        refine iff_of_true ?_ fun _ => ⟨rfl, echo, hping⟩
        exact ReadOnly.of_reply b d (Cmd.info b i echo { pkt := pkt, device := d }) hdec.source _
    · rw [handlePacket_getInfo_stops b i d htype hping]
      exact iff_of_false (hstops (c := { pkt := pkt, device := { d with status := i.stopped } })
        i.stopped_ne_running) fun h => hping (h rfl).2

/-- A ping less than a second before the counter wraps, on a wider `unsigned long`: no `GETINFO` is
answered until a reply comes. -/
theorem getInfo_wrapping (hw : 32 < w) (b : Build) (i : CommandInput w) {d : Device w D}
    (hrunning : d.status = .running) {m : Datagram τ} (hm : IsPacket m .GETINFO)
    (hsends : i.pings.first.Sends) (hwrap : 2 ^ 32 ≤ i.pings.first.startms.toNat + 1000)
    (hquiet : NetworkManager.Quiet i.pings.first.polls) :
    ¬ReadOnly d m .GETINFO_REPLY (checkCommandPacket b i d [m]).1
      (checkCommandPacket b i d [m]).2.1 := by
  obtain ⟨pkt, htype, -, hcheck⟩ := checkCommandPacket_of_isPacket b i d hm
  have hwaits : (NetworkManager.ping w NetworkManager.pingAddress 1000 1 i.pings.first ∅).result =
      none := by
    rw [NetworkManager.ping_result_of_sends hsends]
    exact NetworkManager.receiveLoop_wrapping hw hwrap hquiet
  have hping : ¬∃ echo, i.Returns echo := by
    rintro ⟨echo, hreturns⟩
    have hlatency := hreturns.latency
    simp only [CommandInput.latency, NetworkManager.latency, hwaits] at hlatency
    cases hlatency
  rw [hcheck, handlePacket_getInfo_stops b i d htype hping]
  exact fun h => i.stopped_ne_running (h.status.trans hrunning)

def barePacket (t : PacketType) : Datagram Unit where
  src := 0xC0A80002
  port := 40000
  data := magic ++ [t.toByte] ++ List.replicate 246 0
  tag := ()

theorem isPacket_barePacket (t : PacketType) :
    IsPacket (barePacket t) (PacketType.ofByte t.toByte) where
  size := by
    have hmagic : magic.length = 5 := rfl
    rw [barePacket, List.length_append, List.length_append, List.length_replicate, hmagic,
      List.length_singleton, PACKET_SIZE]
  magic := rfl
  type := rfl

/-- Pings of a process that may not open a raw socket. -/
def refusedPings : NetworkManager.Pings :=
  ⟨⟨true, false, true, true, 1, true, 0, []⟩, ⟨true, false, true, true, 1, true, 0, []⟩⟩

def calmInput : CommandInput w where
  pkt := ⟨.other 0, 0, 0, 0, 0, fun _ => 0, 0, 0, 0, [], 0, 0, 0, [], [], [], 0⟩
  now := 0
  uptime := 0
  freeRam := 0
  pings := refusedPings
  startms := 0
  restartms := 0
  stopms := 0

theorem calmInput_returns : (calmInput : CommandInput w).Returns none := ⟨rfl, rfl⟩

theorem query_readOnly_iff_release :
    let d : Device 32 ℝ := Device.init
    let r := checkCommandPacket ⟨.raspi, false⟩ calmInput d [barePacket .GETINFO]
    ReadOnly d (barePacket .GETINFO) .GETINFO_REPLY r.1 r.2.1 :=
  (query_readOnly_iff ⟨.raspi, false⟩ calmInput (d := Device.init) (t := .GETINFO) rfl
    (isPacket_barePacket .GETINFO) rfl).2 fun _ => ⟨rfl, none, calmInput_returns⟩

/-- `GETINFO` in the `DEBUG` build of the Raspberry Pi, on a device with a saved configuration: the
file is gone and the device reboots. -/
theorem getInfo_debug :
    let d : Device 32 ℝ := { Device.init with file := some (str "deviceid:b827eb000001\n") }
    let r := checkCommandPacket ⟨.raspi, true⟩ calmInput d [barePacket .GETINFO]
    IsPacket (barePacket .GETINFO) .GETINFO ∧ d.status = .running ∧ r.2.1.length = 1 ∧
      r.1.file = none ∧ r.1.status = .rebooting ∧
      ¬ReadOnly d (barePacket .GETINFO) .GETINFO_REPLY r.1 r.2.1 := by
  intro d r
  have hm : IsPacket (barePacket .GETINFO) .GETINFO := isPacket_barePacket .GETINFO
  obtain ⟨pkt, htype, hdec, hcheck⟩ := checkCommandPacket_of_isPacket ⟨.raspi, true⟩ calmInput d hm
  rw [handlePacket_getInfo _ calmInput d htype calmInput_returns] at hcheck
  have hr : r = _ := hcheck
  rw [hr]
  refine ⟨hm, rfl, rfl, rfl, rfl, fun h => ?_⟩
  have hfile := h.file
  cases hfile

end Terremoti
