import Terremoti.CommandInterface
import Terremoti.Lib.Retry
import Terremoti.ServerConfig

/-!
# The main loop (`galileo-core.cpp`, `Watchdog::heartBeat`)

`loop` is one call of `loop`: the heartbeat, a command datagram, the network check, the
configuration from the server, `while (!NTP::sync());`, the detector's tick and the log rotation,
each but the second behind a test of the clock. What comes before the time synchronisation is
`beforeSync`; a reboot, an upgrade, and a ping or an HTTP request that does not return end the call
there. The calls of `sync` run against a list of scripts, one per call, which may end before the loop
around them does: `Turn.returned` says that the call has come to its end.

`beforeSync` leaves the stored time alone, and the name of the time server as well unless a server
reply clears it (`beforeSync_ready`).
-/

namespace Terremoti

def WATCHDOG_TIMER : ℕ := 60 * 1000

/-- The variables of the sketch: the device, the queues of its two bound sockets, and when each part
of the loop last ran. `sent` records the datagrams sent. -/
structure Core (w : ℕ) (D τ : Type) where
  device : Device w D
  commands : List (Datagram τ)
  replies : List (Datagram τ)
  lastBeat : BitVec w
  netLastMs : BitVec w
  cfgLastMs : BitVec w
  ntpLastMs : BitVec w
  seismoLastMs : BitVec w
  logRotationMs : BitVec w
  sent : List Sent := []

/-- The clock when a part of the loop tests whether it is due, and when it stores that it ran. -/
structure Stamps where
  test : BitVec 32
  stamp : BitVec 32

/-- The HTTP requests that do not return: a server that has taken the connection says nothing, and
`Tcp::available` waits for it. -/
structure Waits where
  config : Bool := false
  trace : Bool := false
  alert : Bool := false

/-- What a turn of the loop reads besides the attempts of `NTP::sync`: the clock in each part,
whether `WATCHDOG_FILE` can be opened, the datagrams that have come for the command socket and what
the command reads, the hardware address, what the pings meet, the server's reply, the accelerometer,
and which requests wait. -/
structure LoopInput (w : ℕ) (D τ : Type) where
  beat : Stamps
  watchdogFile : Bool
  arrived : List (Datagram τ)
  command : CommandInput w
  net : Stamps
  mac_address : Option (Fin 6 → Byte)
  pings : NetworkManager.Pings
  cfg : Stamps
  resp : HTTPResponse
  traceStart : BitVec 32
  ntp : Stamps
  seismo : Stamps
  ts : BitVec 32
  accel : D
  traceTest : BitVec 32
  clock : Reads (BitVec 32)
  rotation : BitVec 32
  waits : Waits := {}

/-- `TraceAccumulator::traceValue` at the UNIX time `now`, but for what it writes: a trace of more
than a quarter of an hour ends. -/
def TraceAccumulator.traceValue {w : ℕ} (now : BitVec w) (t : TraceAccumulator w) :
    TraceAccumulator w :=
  if t.traceStartedAt ≠ 0 ∧ t.traceStartedAt < now - BitVec.ofNat w (60 * 15) then ⟨false, 0⟩ else t

/-- A call of `loop`, as far as it has come: the calls of `NTP::sync` made, the effects of the tick
if there was one, whether the log was rotated, and whether the call has returned. -/
structure Turn (w : ℕ) (D τ : Type) where
  core : Core w D τ
  syncs : ℕ
  tick : Option (List (Effect w D)) := none
  rotated : Bool := false
  returned : Bool := false

/-- The call has returned after `syncs` calls of `NTP::sync`, with a tick if one was due. -/
structure Turn.Complete {w : ℕ} {D τ : Type} (t : Turn w D τ) (syncs : ℕ) (tickDue : Bool) :
    Prop where
  returned : t.returned = true
  syncs : t.syncs = syncs
  tick : t.tick.isSome = tickDue

def due {w : ℕ} (now : BitVec 32) (last : BitVec w) (interval : ℕ) : Bool :=
  decide (interval ≤ (now.setWidth w - last).toNat)

namespace Core

variable {w : ℕ} {D τ : Type}

/-- Go on as long as the device runs. -/
def andThen (c : Core w D τ) (f : Core w D τ → Core w D τ) : Core w D τ :=
  if c.device.status = .running then f c else c

/-- The device runs no more. -/
def halt (s : Status) (c : Core w D τ) : Core w D τ :=
  { c with device := { c.device with status := s } }

def platformReboot (c : Core w D τ) : Core w D τ := { c with device := c.device.platformReboot }

def block (c : Core w D τ) : Core w D τ := { c with device := c.device.block }

/-- Nothing in a build without the watchdog. -/
def heartBeat (b : Build) (i : LoopInput w D τ) (c : Core w D τ) : Core w D τ :=
  if b.watchdog = true ∧ (i.beat.test.setWidth w - c.lastBeat).toNat > WATCHDOG_TIMER / 3 then
    if i.watchdogFile = false then c.platformReboot
    else { c with lastBeat := i.beat.stamp.setWidth w }
  else c

/-- `NetworkManager::isConnectedToInternet` pings; the answer only lights an LED. -/
def checkNetwork (i : LoopInput w D τ) (c : Core w D τ) : Core w D τ :=
  if due i.net.test c.netLastMs CHECK_NETWORK_INTERVAL then
    if Utils.getInterfaceMAC i.mac_address = [] then c.platformReboot
    else if i.pings.reboots w then c.platformReboot
    else
      match (NetworkManager.isConnectedToInternet w i.pings.first i.pings.second ∅).1 with
      | none => c.block
      | some _ => { c with netLastMs := i.net.stamp.setWidth w }
  else c

def sync (tw : ℕ) (c : Core w D τ) (rounds : List (Round τ)) : Core w D τ × Option Bool :=
  let x := NTP.sync tw c.device.ntp c.replies rounds
  ({ c with device := { c.device with ntp := x.ntp }
            replies := x.queue
            sent := c.sent ++ x.sent }, x.result)

def resync (tw : ℕ) (i : LoopInput w D τ) (attempts : List (List (Round τ))) (c : Core w D τ) :
    Retry.Run (Core w D τ) :=
  if due i.ntp.test c.ntpLastMs NTP_SYNC_INTERVAL then
    let r := Retry.run (sync tw) attempts c
    if r.returned then { r with state := { r.state with ntpLastMs := i.ntp.stamp.setWidth w } }
    else r
  else ⟨c, 0, true⟩

theorem resync_preserves {P : Core w D τ → Prop} {tw : ℕ} {i : LoopInput w D τ}
    (hsync : ∀ c rounds, P c → P (c.sync tw rounds).1)
    (hstamp : ∀ c : Core w D τ, P c → P { c with ntpLastMs := i.ntp.stamp.setWidth w })
    (attempts : List (List (Round τ))) {c : Core w D τ} (hc : P c) :
    P (c.resync tw i attempts).state := by
  have hrun : P (Retry.run (sync tw) attempts c).state := Retry.run_preserves hsync hc attempts
  unfold resync
  split
  · dsimp only
    split
    · exact hstamp _ hrun
    · exact hrun
  · exact hc

section Tick
variable [Double D]

def tick (i : LoopInput w D τ) (c : Core w D τ) : Core w D τ × List (Effect w D) :=
  let d := c.device
  let r := d.seismometer.tick ⟨d.ntp.getUNIXTime i.ts, i.accel, i.clock⟩
  let trace := if d.seismometer.accelero then
    d.trace.traceValue (d.ntp.getUNIXTime i.traceTest) else d.trace
  ({ c with device := { d with seismometer := r.1, trace := trace }
            seismoLastMs := i.seismo.stamp.setWidth w }, r.2)

/-- The tick sends its trace to the server. -/
def endsTrace (i : LoopInput w D τ) (c : Core w D τ) : Bool :=
  c.device.trace.traceFile && !(c.tick i).1.device.trace.traceFile

/-- The body of `loop` after `syncs` calls of `NTP::sync`. The trace is sent before the sample is
looked at, the alert at the end of the tick. -/
def finish (i : LoopInput w D τ) (syncs : ℕ) (c : Core w D τ) : Turn w D τ :=
  let rotated := due i.rotation c.logRotationMs (1000 * 60 * 60 * 24)
  if due i.seismo.test c.seismoLastMs SEISMOMETER_TICK_INTERVAL then
    let r := c.tick i
    if i.waits.trace = true ∧ c.endsTrace i = true then
      let d := { c.device with trace := r.1.device.trace }
      { core := { c with device := d.block }, syncs := syncs, tick := some [] }
    else if i.waits.alert = true ∧ Seismometer.alerts r.2 ≠ [] then
      { core := { c with device := r.1.device.block }, syncs := syncs, tick := some r.2 }
    else { core := r.1, syncs := syncs, tick := some r.2, rotated := rotated, returned := true }
  else { core := c, syncs := syncs, rotated := rotated, returned := true }

/-- How the call ends: without a tick, with one, or in one of its requests. -/
theorem finish_cases (i : LoopInput w D τ) (syncs : ℕ) (c : Core w D τ) :
    let tickDue := due i.seismo.test c.seismoLastMs SEISMOMETER_TICK_INTERVAL
    let rotated := due i.rotation c.logRotationMs (1000 * 60 * 60 * 24)
    (tickDue = false ∧ c.finish i syncs =
      { core := c, syncs := syncs, rotated := rotated, returned := true }) ∨
    (tickDue = true ∧ c.finish i syncs =
      { core := (c.tick i).1, syncs := syncs, tick := some (c.tick i).2, rotated := rotated,
        returned := true }) ∨
    (tickDue = true ∧ (i.waits.trace = true ∨ i.waits.alert = true) ∧
      ∃ s t effects, (effects = [] ∨ effects = (c.tick i).2) ∧
        c.finish i syncs =
          { core := { c with device := { c.device with
              seismometer := s, trace := t, status := .blocked } }
            syncs := syncs, tick := some effects }) := by
  intro tickDue rotated
  unfold finish
  dsimp only
  split_ifs with hdue htrace halert
  · exact .inr (.inr ⟨hdue, .inl htrace.1, c.device.seismometer, _, [], .inl rfl, rfl⟩)
  · exact .inr (.inr ⟨hdue, .inr halert.1, _, _, _, .inr rfl, rfl⟩)
  · exact .inr (.inl ⟨hdue, rfl⟩)
  · exact .inl ⟨Bool.eq_false_iff.2 hdue, rfl⟩

/-- It ticks if that is due, and ends if no request waits. -/
theorem finish_tick (i : LoopInput w D τ) (syncs : ℕ) (c : Core w D τ) :
    (c.finish i syncs).syncs = syncs ∧ (c.finish i syncs).tick.isSome =
      due i.seismo.test c.seismoLastMs SEISMOMETER_TICK_INTERVAL := by
  rcases finish_cases i syncs c with ⟨hdue, h⟩ | ⟨hdue, h⟩ | ⟨hdue, -, s, t, effects, -, h⟩
  all_goals
    rw [h, hdue]
    exact ⟨rfl, rfl⟩

theorem finish_complete {i : LoopInput w D τ} (htrace : i.waits.trace = false)
    (halert : i.waits.alert = false) (syncs : ℕ) (c : Core w D τ) :
    (c.finish i syncs).Complete syncs
      (due i.seismo.test c.seismoLastMs SEISMOMETER_TICK_INTERVAL) := by
  obtain ⟨hsyncs, htick⟩ := finish_tick i syncs c
  refine ⟨?_, hsyncs, htick⟩
  rcases finish_cases i syncs c with ⟨-, h⟩ | ⟨-, h⟩ | ⟨-, hwaits, -⟩
  · rw [h]
  · rw [h]
  · rw [htrace, halert] at hwaits
    exact absurd hwaits (by decide)

theorem finish_core {i : LoopInput w D τ} {c : Core w D τ}
    (hdue : due i.seismo.test c.seismoLastMs SEISMOMETER_TICK_INTERVAL = true)
    (htrace : i.waits.trace = false) (halert : i.waits.alert = false) (syncs : ℕ) :
    (c.finish i syncs).core = (c.tick i).1 := by
  rcases finish_cases i syncs c with ⟨hidle, -⟩ | ⟨-, h⟩ | ⟨-, hwaits, -⟩
  · rw [hdue] at hidle
    cases hidle
  · rw [h]
  · rw [htrace, halert] at hwaits
    exact absurd hwaits (by decide)

theorem finish_device {P : Device w D → Prop} {i : LoopInput w D τ}
    (htick : ∀ d s t, P d → P { d with seismometer := s, trace := t })
    (hstatus : ∀ d s, P d → P { d with status := s }) (syncs : ℕ)
    {c : Core w D τ} (hc : P c.device) : P (c.finish i syncs).core.device := by
  rcases finish_cases i syncs c with ⟨-, h⟩ | ⟨-, h⟩ | ⟨-, -, s, t, effects, -, h⟩
  · rw [h]
    exact hc
  · rw [h]
    exact htick _ _ _ hc
  · rw [h]
    exact hstatus { c.device with seismometer := s, trace := t } .blocked (htick _ _ _ hc)

end Tick

/-- What the synchronisation and the tick go by, the NTP client apart, is the same. -/
structure Frame (c c' : Core w D τ) : Prop where
  replies : c.replies = c'.replies
  ntpLastMs : c.ntpLastMs = c'.ntpLastMs
  seismoLastMs : c.seismoLastMs = c'.seismoLastMs

/-- And so are the NTP client and the time of the last configuration. -/
structure Same (c c' : Core w D τ) : Prop extends Frame c c' where
  ntp : c.device.ntp = c'.device.ntp
  cfgLastMs : c.cfgLastMs = c'.cfgLastMs

theorem Frame.trans {c c' c'' : Core w D τ} (h : c.Frame c') (h' : c'.Frame c'') : c.Frame c'' :=
  ⟨h.replies.trans h'.replies, h.ntpLastMs.trans h'.ntpLastMs,
    h.seismoLastMs.trans h'.seismoLastMs⟩

theorem Same.refl (c : Core w D τ) : c.Same c := ⟨⟨rfl, rfl, rfl⟩, rfl, rfl⟩

theorem andThen_preserves {P : Core w D τ → Prop} {f : Core w D τ → Core w D τ} {c : Core w D τ}
    (hf : P c → P (f c)) (hc : P c) : P (c.andThen f) := by
  unfold andThen
  split
  · exact hf hc
  · exact hc

/-- What a heartbeat can do. -/
theorem heartBeat_cases (b : Build) (i : LoopInput w D τ) (c : Core w D τ) :
    c.heartBeat b i = c.halt .rebooting ∨ ∃ t, c.heartBeat b i = { c with lastBeat := t } := by
  unfold heartBeat
  split
  · split
    · exact .inl rfl
    · exact .inr ⟨_, rfl⟩
  · exact .inr ⟨c.lastBeat, rfl⟩

/-- What a network check can do. -/
theorem checkNetwork_cases (i : LoopInput w D τ) (c : Core w D τ) :
    (∃ s, s ≠ .running ∧ c.checkNetwork i = c.halt s) ∨
      ∃ t, c.checkNetwork i = { c with netLastMs := t } := by
  unfold checkNetwork
  split
  · split
    · exact .inl ⟨.rebooting, Status.noConfusion, rfl⟩
    split
    · exact .inl ⟨.rebooting, Status.noConfusion, rfl⟩
    split
    · exact .inl ⟨.blocked, Status.noConfusion, rfl⟩
    · exact .inr ⟨_, rfl⟩
  · exact .inr ⟨c.netLastMs, rfl⟩

/-- A check that comes to its end. -/
theorem checkNetwork_of_due {i : LoopInput w D τ} {c : Core w D τ} {r : Bool}
    (hdue : due i.net.test c.netLastMs CHECK_NETWORK_INTERVAL = true)
    (hmac : Utils.getInterfaceMAC i.mac_address ≠ []) (hreboots : i.pings.reboots w = false)
    (hr : (NetworkManager.isConnectedToInternet w i.pings.first i.pings.second ∅).1 = some r) :
    c.checkNetwork i = { c with netLastMs := i.net.stamp.setWidth w } := by
  unfold checkNetwork
  rw [if_pos hdue, if_neg hmac, hreboots, if_neg Bool.false_ne_true, hr]

theorem heartBeat_device {P : Device w D → Prop} (b : Build) (i : LoopInput w D τ) {c : Core w D τ}
    (hstatus : ∀ s, P c.device → P { c.device with status := s }) (hc : P c.device) :
    P (c.heartBeat b i).device := by
  rcases heartBeat_cases b i c with h | ⟨t, h⟩
  · rw [h]
    exact hstatus _ hc
  · rw [h]
    exact hc

theorem checkNetwork_device {P : Device w D → Prop} (i : LoopInput w D τ) {c : Core w D τ}
    (hstatus : ∀ s, P c.device → P { c.device with status := s }) (hc : P c.device) :
    P (c.checkNetwork i).device := by
  rcases checkNetwork_cases i c with ⟨s, -, h⟩ | ⟨t, h⟩
  · rw [h]
    exact hstatus s hc
  · rw [h]
    exact hc

theorem halt_same (s : Status) (c : Core w D τ) : (c.halt s).Same c := ⟨⟨rfl, rfl, rfl⟩, rfl, rfl⟩

theorem heartBeat_same (b : Build) (i : LoopInput w D τ) (c : Core w D τ) :
    (c.heartBeat b i).Same c := by
  rcases heartBeat_cases b i c with h | ⟨t, h⟩
  · rw [h]
    exact halt_same _ c
  · rw [h]
    exact ⟨⟨rfl, rfl, rfl⟩, rfl, rfl⟩

theorem checkNetwork_same (i : LoopInput w D τ) (c : Core w D τ) : (c.checkNetwork i).Same c := by
  rcases checkNetwork_cases i c with ⟨s, -, h⟩ | ⟨t, h⟩
  · rw [h]
    exact halt_same s c
  · rw [h]
    exact ⟨⟨rfl, rfl, rfl⟩, rfl, rfl⟩

variable [DoubleText D]

def checkCommand (b : Build) (i : LoopInput w D τ) (c : Core w D τ) : Core w D τ :=
  let r := checkCommandPacket b i.command c.device (c.commands ++ i.arrived)
  { c with device := r.1, sent := c.sent ++ r.2.1, commands := r.2.2 }

theorem checkCommand_same (b : Build) (i : LoopInput w D τ) (c : Core w D τ) :
    (c.checkCommand b i).Same c :=
  ⟨⟨rfl, rfl, rfl⟩, checkCommandPacket_ntp b i.command c.device _, rfl⟩

variable [Double D]

def checkConfig (b : Build) (i : LoopInput w D τ) (c : Core w D τ) : Core w D τ :=
  if due i.cfg.test c.cfgLastMs CHECK_CONFIG_INTERVAL then
    if i.waits.config then c.block else
    let r := checkServerConfig b i.traceStart i.resp c.device
    match r.1 with
    | none => { c with device := r.2 }
    | some _ => { c with device := r.2, cfgLastMs := i.cfg.stamp.setWidth w }
  else c

/-- What a check of the configuration can do. -/
theorem checkConfig_cases (b : Build) (i : LoopInput w D τ) (c : Core w D τ) :
    c.checkConfig b i = c ∨ c.checkConfig b i = c.halt .blocked ∨ ∃ t, c.checkConfig b i =
      { c with device := (checkServerConfig b i.traceStart i.resp c.device).2, cfgLastMs := t } := by
  unfold checkConfig
  split
  · split
    · exact .inr (.inl rfl)
    dsimp only
    split
    · exact .inr (.inr ⟨c.cfgLastMs, rfl⟩)
    · exact .inr (.inr ⟨_, rfl⟩)
  · exact .inl rfl

theorem checkConfig_device {P : Device w D → Prop} (b : Build) (i : LoopInput w D τ)
    {c : Core w D τ} (hstatus : ∀ s, P c.device → P { c.device with status := s })
    (hconfig : P c.device → P (checkServerConfig b i.traceStart i.resp c.device).2)
    (hc : P c.device) : P (c.checkConfig b i).device := by
  rcases checkConfig_cases b i c with h | h | ⟨t, h⟩
  · rw [h]
    exact hc
  · rw [h]
    exact hstatus _ hc
  · rw [h]
    exact hconfig hc

def beforeSync (b : Build) (i : LoopInput w D τ) (c : Core w D τ) : Core w D τ :=
  (((c.heartBeat b i).andThen (checkCommand b i)).andThen (checkNetwork i)).andThen (checkConfig b i)

def loop (b : Build) (tw : ℕ) (i : LoopInput w D τ) (attempts : List (List (Round τ)))
    (c : Core w D τ) : Turn w D τ :=
  let c := c.beforeSync b i
  if c.device.status ≠ .running then { core := c, syncs := 0 } else
  let r := c.resync tw i attempts
  if r.returned then r.state.finish i r.calls else { core := r.state, syncs := r.calls }

theorem beforeSync_preserves {P : Core w D τ → Prop} {b : Build} {i : LoopInput w D τ}
    (hbeat : ∀ c, P c → P (c.heartBeat b i)) (hcommand : ∀ c, P c → P (c.checkCommand b i))
    (hnet : ∀ c, P c → P (c.checkNetwork i)) (hconfig : ∀ c, P c → P (c.checkConfig b i))
    {c : Core w D τ} (hc : P c) : P (c.beforeSync b i) :=
  andThen_preserves (hconfig _)
    (andThen_preserves (hnet _) (andThen_preserves (hcommand _) (hbeat c hc)))

/-- What the status and replies leave alone, a call leaves alone behind the command. -/
theorem afterCommand_device {P : Device w D → Prop} {b : Build} {i : LoopInput w D τ}
    (hstatus : ∀ d s, P d → P { d with status := s })
    (hconfig : ∀ d, P d → P (checkServerConfig b i.traceStart i.resp d).2) {c : Core w D τ}
    (hc : P ((c.heartBeat b i).andThen (checkCommand b i)).device) : P (c.beforeSync b i).device := by
  have hnet := andThen_preserves (P := fun c' => P c'.device)
    (checkNetwork_device i (hstatus _)) hc
  exact andThen_preserves (P := fun c' => P c'.device)
    (checkConfig_device b i (hstatus _) (hconfig _)) hnet

theorem beforeSync_device {P : Device w D → Prop} {b : Build} {i : LoopInput w D τ}
    (hstatus : ∀ d s, P d → P { d with status := s })
    (hcommand : ∀ d (queue : List (Datagram τ)), P d →
      P (checkCommandPacket b i.command d queue).1)
    (hconfig : ∀ d, P d → P (checkServerConfig b i.traceStart i.resp d).2) {c : Core w D τ}
    (hc : P c.device) : P (c.beforeSync b i).device :=
  afterCommand_device hstatus hconfig (andThen_preserves (P := fun c' => P c'.device)
    (hcommand _ _) (heartBeat_device b i (hstatus c.device) hc))

/-! ### What comes before the time synchronisation -/

structure Ready (c : Core w D τ) : Prop where
  named : c.device.ntp.ntpserver ≠ []
  clock : NTP.coherentTime ≤ c.device.ntp.unixTimeTS

/-- If the configuration of the server is due, a reply that is accepted names a time server. -/
def Names (b : Build) (i : LoopInput w D τ) (c : Core w D τ) : Prop :=
  due i.cfg.test c.cfgLastMs CHECK_CONFIG_INTERVAL = true → accepts b i.resp = true →
    (replyParams i.resp).getD (str "ntpserver") [] ≠ []

theorem checkConfig_ready (b : Build) {i : LoopInput w D τ} {c : Core w D τ} (h : c.Ready)
    (hnames : c.Names b i) : (c.checkConfig b i).Ready := by
  unfold checkConfig
  split
  · rename_i hdue
    split
    · exact ⟨h.named, h.clock⟩
    have hready : (checkServerConfig b i.traceStart i.resp c.device).2.ntp.ntpserver ≠ [] ∧
        NTP.coherentTime ≤ (checkServerConfig b i.traceStart i.resp c.device).2.ntp.unixTimeTS := by
      cases haccepts : accepts b i.resp with
      | true =>
        rw [checkServerConfig_of_accepts _ _ haccepts, configured_unixTimeTS, configured_ntpserver]
        exact ⟨hnames hdue haccepts, h.clock⟩
      | false =>
        rcases checkServerConfig_of_not_accepts i.traceStart c.device haccepts with hr | hr
        · rw [hr]
          exact ⟨h.named, h.clock⟩
        · rw [hr]
          exact ⟨h.named, h.clock⟩
    dsimp only
    split
    · exact ⟨hready.1, hready.2⟩
    · exact ⟨hready.1, hready.2⟩
  · exact h

theorem checkConfig_frame (b : Build) (i : LoopInput w D τ) (c : Core w D τ) :
    (c.checkConfig b i).Frame c := by
  rcases checkConfig_cases b i c with h | h | ⟨t, h⟩
  all_goals
    rw [h]
    exact ⟨rfl, rfl, rfl⟩

/-- At the time synchronisation there are still a name and a clock to go by. -/
theorem beforeSync_ready (b : Build) {i : LoopInput w D τ} {c : Core w D τ} (h : c.Ready)
    (hnames : c.Names b i) : (c.beforeSync b i).Ready ∧ (c.beforeSync b i).Frame c := by
  let P := fun c' : Core w D τ => (c'.Ready ∧ c'.Frame c) ∧ c'.Names b i
  have hsame : ∀ {c₁ c₂ : Core w D τ}, c₂.Same c₁ → P c₁ → P c₂ := by
    rintro c₁ c₂ ⟨hframe, hntp, hcfg⟩ ⟨⟨⟨hnamed, hclock⟩, hframe'⟩, hnames⟩
    refine ⟨⟨⟨hntp ▸ hnamed, hntp ▸ hclock⟩, hframe.trans hframe'⟩, ?_⟩
    rw [Names, hcfg]
    exact hnames
  have hbeat : P (c.heartBeat b i) := hsame (heartBeat_same b i c) ⟨⟨h, ⟨rfl, rfl, rfl⟩⟩, hnames⟩
  have hcommand := andThen_preserves (hsame (checkCommand_same b i _)) hbeat
  have hnet := andThen_preserves (hsame (checkNetwork_same i _)) hcommand
  refine andThen_preserves (P := fun c' => c'.Ready ∧ c'.Frame c) (fun _ => ?_) hnet.1
  exact ⟨checkConfig_ready b hnet.1.1 hnet.2, (checkConfig_frame b i _).trans hnet.1.2⟩

/-! ### The call as a whole -/

/-- What a stored time, a tick and the status leave alone, a call leaves alone behind
`beforeSync`. -/
theorem loop_device {P : Device w D → Prop} {b : Build} {tw : ℕ} {i : LoopInput w D τ}
    (hsync : ∀ d n, P d → P { d with ntp := n })
    (htick : ∀ d s t, P d → P { d with seismometer := s, trace := t })
    (hstatus : ∀ d s, P d → P { d with status := s })
    (attempts : List (List (Round τ))) {c : Core w D τ} (hc : P (c.beforeSync b i).device) :
    P (c.loop b tw i attempts).core.device := by
  have hresync : P ((c.beforeSync b i).resync tw i attempts).state.device :=
    resync_preserves (P := fun c' : Core w D τ => P c'.device)
      (fun c' rounds h => hsync c'.device _ h) (fun _ h => h) attempts hc
  unfold loop
  dsimp only
  split
  · exact hc
  split
  · exact finish_device htick hstatus _ hresync
  · exact hresync

section Loop
variable (b : Build) (tw : ℕ) {i : LoopInput w D τ} (attempts : List (List (Round τ)))
  {c : Core w D τ}

theorem loop_idle (hrunning : (c.beforeSync b i).device.status = .running)
    (hdue : due i.ntp.test (c.beforeSync b i).ntpLastMs NTP_SYNC_INTERVAL = false) :
    c.loop b tw i attempts = (c.beforeSync b i).finish i 0 := by
  simp only [loop, resync, hrunning, hdue, ne_eq, not_true_eq_false, if_false, if_true,
    Bool.false_eq_true]

theorem loop_due (hrunning : (c.beforeSync b i).device.status = .running)
    (hdue : due i.ntp.test (c.beforeSync b i).ntpLastMs NTP_SYNC_INTERVAL = true) :
    let r := Retry.run (sync tw) attempts (c.beforeSync b i)
    c.loop b tw i attempts =
      if r.returned then
        finish i r.calls { r.state with ntpLastMs := i.ntp.stamp.setWidth w }
      else { core := r.state, syncs := r.calls } := by
  intro r
  simp only [loop, resync, hrunning, hdue, ne_eq, not_true_eq_false, if_false, if_true]
  by_cases hret : (Retry.run (sync tw) attempts (c.beforeSync b i)).returned = true
  · simp only [r, hret, if_true]
  · simp only [r, hret, if_false, Bool.false_eq_true]

end Loop

end Core
end Terremoti
