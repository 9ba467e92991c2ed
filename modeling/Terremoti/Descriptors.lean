import Terremoti.Core
import Terremoti.Lib.Descriptors

/-!
# Open descriptors (`loop` and what it calls)

`Fds` is the table of open descriptors and the variables that keep one from one call to the next. A
function of the source is here what it opens and closes, every system call succeeding; `Fds.loop`
follows `Core.loop` and is what is open when that has returned. The two sockets the sketch is bound
to, and what else `setup` opened, are in the table.

Most functions close what they open (`transient_eq`, `httpRequest_eq`), and the trace is one file.
`Utils::getInterfaceMAC` never closes its socket, nor does `Udp::connectTo` the one before
(`loop_account`).
-/

namespace Terremoti

/-- `Log::logFile`, `TraceAccumulator::traceFile` and the `fd` of `Log::syslogUdp`; a `FILE *` is
its descriptor. -/
structure Fds where
  table : Finset ℕ
  logFile : Option ℕ
  traceFile : Option ℕ
  syslogUdp : ℕ

/-- What a call of `loop` meets besides its input and the attempts of `NTP::sync`: whether the
connections of the configuration, the trace and the alert are there within ten seconds, how many
heartbeats are written while the trace is sent, and how many lines are written to the log. -/
structure Answers where
  config : Bool
  trace : Bool
  alert : Bool
  beats : ℕ
  lines : ℕ

structure LoopCall (w : ℕ) (D τ : Type) where
  input : LoopInput w D τ
  attempts : List (List (Round τ))
  answers : Answers

/-- The packet `checkCommandPacket` reads. -/
def Core.packet {w : ℕ} {D τ : Type} (i : LoopInput w D τ) (c : Core w D τ) : Option PACKET :=
  (Udp.receive PACKET_SIZE (c.commands ++ i.arrived)).1.bind (readPacket i.command.pkt)

namespace Fds

/-- `socket`, `open`, `fopen` and `popen`. -/
def acquire (s : Fds) : ℕ × Fds :=
  let r := Descriptors.acquire s.table
  (r.1, { s with table := r.2 })

/-- `close`, `fclose` and `pclose`. -/
def close (fd : ℕ) (s : Fds) : Fds := { s with table := Descriptors.release fd s.table }

/-- A descriptor opened and, whatever is done with it, closed. -/
def transient (s : Fds) : Fds :=
  let (fd, s) := s.acquire
  s.close fd

/-! ### The functions of the source -/

/-- `Watchdog::heartBeat`, when it is time for one. -/
def heartBeat (s : Fds) : Fds := s.transient

def execSystemTimeUpdate (s : Fds) : Fds := s.transient

def ping (s : Fds) : Fds := s.transient

/-- `Config::save`; `writable` says whether the file can be opened. -/
def save (writable : Bool) (s : Fds) : Fds := if writable then s.transient else s

/-- A second `ping` if the first got no answer. -/
def pings (w : ℕ) (p : NetworkManager.Pings) (s : Fds) : Fds :=
  let s := s.ping
  if (NetworkManager.ping w NetworkManager.pingAddress 1000 1 p.first ∅).result = some true then s
  else s.ping

def latency (w : ℕ) (p : NetworkManager.Pings) (s : Fds) : Fds := s.pings w p

def isConnectedToInternet (w : ℕ) (p : NetworkManager.Pings) (s : Fds) : Fds := s.pings w p

/-- `Utils::getInterfaceMAC`. On `mac-osx` it asks `getifaddrs`. -/
def getInterfaceMAC (p : Platform) (s : Fds) : Fds := if p = .mac_osx then s else s.acquire.2

/-- `Log::log`, for a line of the configured level. -/
def log (p : Platform) (macAddress : List Byte) (s : Fds) : Fds :=
  if macAddress = [] then s.getInterfaceMAC p else s

/-- `Tcp::connectTo`, with the `fd` it leaves: 0 if `select` has timed out. -/
def tcpConnectTo (connected : Bool) (s : Fds) : ℕ × Fds :=
  let (fd, s) := s.acquire
  if connected then (fd, s) else (0, s.close fd)

def tcpStop (fd : ℕ) (s : Fds) : Fds := if fd = 0 then s else s.close fd

def httpRequest (connected : Bool) (s : Fds) : Fds :=
  let (fd, s) := s.tcpConnectTo connected
  s.tcpStop fd

def httpPostFile (connected : Bool) (beats : ℕ) (s : Fds) : Fds :=
  let s := s.transient
  let (fd, s) := s.tcpConnectTo connected
  (heartBeat^[beats] s).tcpStop fd

/-- `Log::setSyslogServer`, with `Udp::connectTo` in it. -/
def setSyslogServer (server : IPaddr) (s : Fds) : Fds :=
  if server = 0 then s else
  let (fd, s) := s.acquire
  { s with syslogUdp := fd }

/-- `Log::setLogFile`, as `Log::rotate` calls it. -/
def rotate (s : Fds) : Fds :=
  let s := match s.logFile with
    | some fd => s.close fd
    | none => s
  let (fd, s) := s.acquire
  { s with logFile := some fd }

/-- `TraceAccumulator::setTrace(true)`. -/
def startTrace (s : Fds) : Fds :=
  match s.traceFile with
  | some _ => s
  | none =>
    let (fd, s) := s.acquire
    { s with traceFile := some fd }

/-- `TraceAccumulator::setTrace(false)`. -/
def stopTrace (a : Answers) (s : Fds) : Fds :=
  match s.traceFile with
  | some fd => httpPostFile a.trace a.beats { s.close fd with traceFile := none }
  | none => s

/-! ### A call of `loop` -/

section Loop
variable {w : ℕ} {D τ : Type}

/-- The first of `loop`. -/
def beat (b : Build) (i : LoopInput w D τ) (c : Core w D τ) (s : Fds) : Fds :=
  if b.watchdog = true ∧ (i.beat.test.setWidth w - c.lastBeat).toNat > WATCHDOG_TIMER / 3 ∧
      i.watchdogFile = true then
    s.heartBeat
  else s

def checkNetwork (b : Build) (x : LoopCall w D τ) (c : Core w D τ) (s : Fds) : Fds :=
  if due x.input.net.test c.netLastMs CHECK_NETWORK_INTERVAL then
    (s.getInterfaceMAC b.platform).isConnectedToInternet w x.input.pings
  else s

/-- The switch of `checkCommandPacket`. What follows a `GETINFO` in the `DEBUG` build, and the cases
not named here, open nothing. -/
def handlePacket (b : Build) (x : LoopCall w D τ) (d : Device w D) (pkt : PACKET) (s : Fds) : Fds :=
  match pkt.type with
  | .SENDGPS =>
    if d.config.getMacAddressAsByte ≠ pkt.mac then s else (s.save d.writable).save d.writable
  | .SETSYSLOG => s.setSyslogServer pkt.syslogServer
  | .GETINFO => if x.input.command.pings.reboots w then s else s.latency w x.input.command.pings
  | .TRACE => if b.debug then s.startTrace else s
  | _ => s

def checkCommand (b : Build) (x : LoopCall w D τ) (c : Core w D τ) (s : Fds) : Fds :=
  match c.packet x.input with
  | some pkt => s.handlePacket b x c.device pkt
  | none => s

def checkConfig (b : Build) (x : LoopCall w D τ) (c : Core w D τ) (s : Fds) : Fds :=
  if due x.input.cfg.test c.cfgLastMs CHECK_CONFIG_INTERVAL then
    let s := s.httpRequest x.answers.config
    if accepts b x.input.resp ∧ (replyParams x.input.resp).contains (str "trace") then s.startTrace
    else s
  else s

/-- `NTP::sync`, which sets the system's clock when a reply has come. -/
def sync (tw : ℕ) (cs : Core w D τ × Fds) (rounds : List (Round τ)) :
    (Core w D τ × Fds) × Option Bool :=
  let r := cs.1.sync tw rounds
  let stored := (NTP.sync tw cs.1.device.ntp cs.1.replies rounds).stored
  ((r.1, if stored.isSome then cs.2.execSystemTimeUpdate else cs.2), r.2)

def resync (tw : ℕ) (x : LoopCall w D τ) (c : Core w D τ) (s : Fds) : Fds :=
  if due x.input.ntp.test c.ntpLastMs NTP_SYNC_INTERVAL then
    (Retry.run (sync tw) x.attempts (c, s)).state.2
  else s

def traceValue (now : BitVec w) (t : TraceAccumulator w) (a : Answers) (s : Fds) : Fds :=
  if t.traceStartedAt ≠ 0 ∧ t.traceStartedAt < now - BitVec.ofNat w (60 * 15) then s.stopTrace a
  else s

def rotateDue (x : LoopCall w D τ) (c : Core w D τ) (s : Fds) : Fds :=
  if due x.input.rotation c.logRotationMs (1000 * 60 * 60 * 24) then s.rotate else s

variable [Double D]

def tick (x : LoopCall w D τ) (c : Core w D τ) (s : Fds) : Fds :=
  if due x.input.seismo.test c.seismoLastMs SEISMOMETER_TICK_INTERVAL = true ∧
      c.device.seismometer.accelero = true then
    let s := s.traceValue (c.device.ntp.getUNIXTime x.input.traceTest) c.device.trace x.answers
    (Seismometer.alerts (c.tick x.input).2).foldl (fun s _ => s.httpRequest x.answers.alert) s
  else s

variable [DoubleText D]

/-- The lines of a call are counted at its end. -/
def loop (b : Build) (tw : ℕ) (x : LoopCall w D τ) (c : Core w D τ) (s : Fds) : Fds :=
  let s := s.beat b x.input c
  let c := c.heartBeat b x.input
  let s := s.checkCommand b x c
  let c := c.andThen (Core.checkCommand b x.input)
  let s := s.checkNetwork b x c
  let c := c.andThen (Core.checkNetwork x.input)
  let s := s.checkConfig b x c
  let c := c.andThen (Core.checkConfig b x.input)
  let s := s.resync tw x c
  let c := (c.resync tw x.input x.attempts).state
  let s := (s.tick x c).rotateDue x c
  (log b.platform c.device.config.macAddress)^[x.answers.lines] s

end Loop

/-! ### What is closed again -/

theorem transient_eq (s : Fds) : s.transient = s := by
  show { s with table := _ } = s
  rw [Descriptors.release_acquire]

@[simp] theorem heartBeat_eq (s : Fds) : s.heartBeat = s := s.transient_eq

@[simp] theorem execSystemTimeUpdate_eq (s : Fds) : s.execSystemTimeUpdate = s := s.transient_eq

@[simp] theorem ping_eq (s : Fds) : s.ping = s := s.transient_eq

@[simp] theorem save_eq (writable : Bool) (s : Fds) : s.save writable = s := by
  unfold save
  split
  · exact s.transient_eq
  · rfl

@[simp] theorem pings_eq (w : ℕ) (p : NetworkManager.Pings) (s : Fds) : s.pings w p = s := by
  unfold pings
  dsimp only
  split
  · exact s.ping_eq
  · rw [ping_eq, ping_eq]

/-- `stop` closes the socket: its number is not that of the standard input. -/
theorem tcpStop_tcpConnectTo {s : Fds} (hstdin : 0 ∈ s.table) (connected : Bool) :
    (s.tcpConnectTo connected).2.tcpStop (s.tcpConnectTo connected).1 = s := by
  have hfd : s.acquire.1 ≠ 0 := Descriptors.lowest_ne hstdin
  cases connected with
  | true =>
    show tcpStop s.acquire.1 s.acquire.2 = s
    rw [tcpStop, if_neg hfd]
    exact s.transient_eq
  | false =>
    show tcpStop 0 s.transient = s
    rw [tcpStop, if_pos rfl]
    exact s.transient_eq

theorem httpRequest_eq {s : Fds} (hstdin : 0 ∈ s.table) (connected : Bool) :
    s.httpRequest connected = s := tcpStop_tcpConnectTo hstdin connected

theorem httpPostFile_eq {s : Fds} (hstdin : 0 ∈ s.table) (connected : Bool) (beats : ℕ) :
    s.httpPostFile connected beats = s := by
  have hbeats : ∀ s : Fds, heartBeat^[beats] s = s := fun s =>
    Function.iterate_fixed s.heartBeat_eq beats
  unfold httpPostFile
  dsimp only
  rw [transient_eq, hbeats]
  exact tcpStop_tcpConnectTo hstdin connected

/-! ### The account -/

/-- The log is open, and the trace file is neither it nor the standard input. -/
structure Owned (s : Fds) : Prop where
  stdin : 0 ∈ s.table
  logFile : ∃ fd ∈ s.table, s.logFile = some fd
  traceFile : ∀ fd, s.traceFile = some fd → fd ∈ s.table ∧ fd ≠ 0 ∧ s.logFile ≠ some fd

def opened (s : Fds) : ℕ := s.table.card

/-- What will be closed: the trace. -/
def held (s : Fds) : ℕ := if s.traceFile.isSome then 1 else 0

theorem held_le (s : Fds) : s.held ≤ 1 := by
  unfold held
  split <;> decide

/-- On the way from `s` to `s'`, `leak` descriptors are lost. -/
structure Account (leak : ℕ) (s s' : Fds) : Prop where
  owned : s'.Owned
  opened : s'.opened + s.held = s.opened + s'.held + leak

theorem Account.refl {s : Fds} (h : s.Owned) : Account 0 s s := ⟨h, rfl⟩

theorem Account.trans {k l : ℕ} {s s' s'' : Fds} (h : Account k s s') (h' : Account l s' s'') :
    Account (k + l) s s'' := by
  refine ⟨h'.owned, ?_⟩
  have hfirst := h.opened
  have hsecond := h'.opened
  omega

/-- A descriptor that no variable gives back. -/
theorem acquire_account {s : Fds} (h : s.Owned) (syslogUdp : ℕ) :
    Account 1 s { s.acquire.2 with syslogUdp := syslogUdp } := by
  obtain ⟨hstdin, ⟨fd, hfd, hlog⟩, htrace⟩ := h
  refine ⟨⟨Finset.mem_insert_of_mem hstdin, ⟨fd, Finset.mem_insert_of_mem hfd, hlog⟩, ?_⟩, ?_⟩
  · intro fd htraceFile
    obtain ⟨hmem, hne⟩ := htrace fd htraceFile
    exact ⟨Finset.mem_insert_of_mem hmem, hne⟩
  · have hcard : s.acquire.2.opened = s.opened + 1 := Descriptors.card_acquire s.table
    show s.acquire.2.opened + s.held = s.opened + s.held + 1
    omega

theorem getInterfaceMAC_account {s : Fds} (h : s.Owned) (p : Platform) :
    Account (decide (p ≠ .mac_osx)).toNat s (s.getInterfaceMAC p) := by
  unfold getInterfaceMAC
  split
  · rename_i hp
    rw [decide_eq_false (not_not.2 hp)]
    exact .refl h
  · rename_i hp
    rw [decide_eq_true hp]
    exact acquire_account h s.syslogUdp

theorem setSyslogServer_account {s : Fds} (h : s.Owned) (server : IPaddr) :
    Account (decide (server ≠ 0)).toNat s (s.setSyslogServer server) := by
  unfold setSyslogServer
  split
  · rename_i hserver
    rw [decide_eq_false (not_not.2 hserver)]
    exact .refl h
  · rename_i hserver
    rw [decide_eq_true hserver]
    exact acquire_account h _

theorem startTrace_account {s : Fds} (h : s.Owned) : Account 0 s s.startTrace := by
  unfold startTrace
  split
  · exact .refl h
  · rename_i hnone
    obtain ⟨hstdin, ⟨fd, hfd, hlog⟩, -⟩ := h
    refine ⟨⟨Finset.mem_insert_of_mem hstdin, ⟨fd, Finset.mem_insert_of_mem hfd, hlog⟩, ?_⟩, ?_⟩
    · rintro fd' ⟨⟩
      refine ⟨Finset.mem_insert_self _ _, Descriptors.lowest_ne hstdin, fun heq => ?_⟩
      exact Descriptors.lowest_ne hfd (Option.some.inj (heq.symm.trans hlog))
    · have hcard : s.acquire.2.opened = s.opened + 1 := Descriptors.card_acquire s.table
      have hheld : s.held = 0 := by rw [held, hnone]; rfl
      show s.acquire.2.opened + s.held = s.opened + 1 + 0
      omega

theorem stopTrace_account {s : Fds} (h : s.Owned) (a : Answers) : Account 0 s (s.stopTrace a) := by
  unfold stopTrace
  split
  · rename_i fd hsome
    obtain ⟨hstdin, ⟨log, hlog, heq⟩, htrace⟩ := h
    obtain ⟨hmem, hne, hnlog⟩ := htrace fd hsome
    have hstdin' : 0 ∈ s.table.erase fd := Finset.mem_erase.2 ⟨hne.symm, hstdin⟩
    have hlog' : log ∈ s.table.erase fd :=
      Finset.mem_erase.2 ⟨fun h => hnlog (h ▸ heq), hlog⟩
    rw [httpPostFile_eq (s := { s.close fd with traceFile := none }) hstdin']
    refine ⟨⟨hstdin', ⟨log, hlog', heq⟩, fun _ h => by cases h⟩, ?_⟩
    have hcard : (s.table.erase fd).card + 1 = s.table.card := Finset.card_erase_add_one hmem
    have hheld : s.held = 1 := by rw [held, hsome]; rfl
    show (s.table.erase fd).card + s.held = s.table.card + 0 + 0
    omega
  · exact .refl h

/-- The file is closed before the next one is opened. -/
theorem rotate_account {s : Fds} (h : s.Owned) : Account 0 s s.rotate := by
  obtain ⟨hstdin, ⟨fd, hfd, hlog⟩, htrace⟩ := h
  unfold rotate
  rw [hlog]
  dsimp only
  have hcard : (s.close fd).acquire.2.opened = s.opened :=
    (Descriptors.card_acquire _).trans (Finset.card_erase_add_one hfd)
  refine ⟨⟨?_, ⟨_, Finset.mem_insert_self _ _, rfl⟩, ?_⟩, ?_⟩
  · -- the log may be the standard input: then it is again
    by_cases hzero : fd = 0
    · have hlowest : Descriptors.lowest (s.table.erase fd) = 0 :=
        Descriptors.lowest_eq_zero (hzero ▸ Finset.notMem_erase fd s.table)
      exact Finset.mem_insert.2 (.inl hlowest.symm)
    · exact Finset.mem_insert_of_mem (Finset.mem_erase.2 ⟨Ne.symm hzero, hstdin⟩)
  · intro fd' htraceFile
    obtain ⟨hmem, hne, hnlog⟩ := htrace fd' htraceFile
    have hmem' : fd' ∈ s.table.erase fd :=
      Finset.mem_erase.2 ⟨fun h => hnlog (h ▸ hlog), hmem⟩
    refine ⟨Finset.mem_insert_of_mem hmem', hne, fun heq => ?_⟩
    exact Descriptors.lowest_ne hmem' (Option.some.inj heq)
  · show (s.close fd).acquire.2.opened + s.held = s.opened + s.held + 0
    rw [hcard]
    rfl

end Fds

/-! ### The calls that leak -/

namespace Core
variable {w : ℕ} {D τ : Type}

/-- The command is a `SETSYSLOG` with a server. -/
def setsSyslog (i : LoopInput w D τ) (c : Core w D τ) : Bool :=
  match c.packet i with
  | some pkt => decide (pkt.type = .SETSYSLOG) && decide (pkt.syslogServer ≠ 0)
  | none => false

/-- The network check is due, and looks for its interface with a socket. -/
def opensInterface (b : Build) (i : LoopInput w D τ) (c : Core w D τ) : Bool :=
  due i.net.test c.netLastMs CHECK_NETWORK_INTERVAL && decide (b.platform ≠ .mac_osx)

def leaks (b : Build) (i : LoopInput w D τ) (c : Core w D τ) : ℕ :=
  (c.setsSyslog i).toNat + (c.opensInterface b i).toNat

theorem leaks_ne_zero_iff (b : Build) (i : LoopInput w D τ) (c : Core w D τ) :
    c.leaks b i ≠ 0 ↔ c.setsSyslog i = true ∨ c.opensInterface b i = true := by
  unfold leaks
  cases c.setsSyslog i <;> cases c.opensInterface b i <;> decide

/-- What the two tests go by is as at the start of the call. -/
theorem heartBeat_packet (b : Build) (i : LoopInput w D τ) (c : Core w D τ) :
    (c.heartBeat b i).packet i = c.packet i := by
  rcases heartBeat_cases b i c with h | ⟨t, h⟩
  · rw [h]
    rfl
  · rw [h]
    rfl

theorem heartBeat_netLastMs (b : Build) (i : LoopInput w D τ) (c : Core w D τ) :
    (c.heartBeat b i).netLastMs = c.netLastMs := by
  rcases heartBeat_cases b i c with h | ⟨t, h⟩ <;> rw [h]
  rfl

variable [Double D] [DoubleText D]

/-- The address `setup` has configured stays. -/
theorem beforeSync_macAddress (b : Build) (i : LoopInput w D τ) (c : Core w D τ) :
    (c.beforeSync b i).device.config.macAddress = c.device.config.macAddress := by
  let P := fun d : Device w D => d.config.macAddress = c.device.config.macAddress
  have hconfig : ∀ d, P d → P (checkServerConfig b i.traceStart i.resp d).2 := fun d h =>
    (congrArg Config.macAddress (checkServerConfig_config b i.traceStart i.resp d)).trans h
  exact beforeSync_device (P := P) (fun _ _ h => h)
    (fun d queue h => (checkCommandPacket_macAddress b i.command d queue).trans h) hconfig rfl

theorem synced_macAddress (b : Build) (tw : ℕ) (i : LoopInput w D τ)
    (attempts : List (List (Round τ))) (c : Core w D τ) :
    ((c.beforeSync b i).resync tw i attempts).state.device.config.macAddress =
      c.device.config.macAddress :=
  resync_preserves (P := fun c' => c'.device.config.macAddress = c.device.config.macAddress)
    (fun _ _ h => h) (fun _ h => h) attempts (beforeSync_macAddress b i c)

theorem loop_macAddress (b : Build) (tw : ℕ) (i : LoopInput w D τ)
    (attempts : List (List (Round τ))) (c : Core w D τ) :
    (c.loop b tw i attempts).core.device.config.macAddress = c.device.config.macAddress :=
  loop_device (P := fun d => d.config.macAddress = c.device.config.macAddress) (fun _ _ h => h)
    (fun _ _ _ h => h) (fun _ _ h => h) attempts (beforeSync_macAddress b i c)

end Core

namespace Fds

section Loop
variable {w : ℕ} {D τ : Type} {s : Fds}

theorem beat_eq (b : Build) (i : LoopInput w D τ) (c : Core w D τ) (s : Fds) :
    s.beat b i c = s := by
  unfold beat
  split
  · exact s.heartBeat_eq
  · rfl

theorem handlePacket_account (h : s.Owned) (b : Build) (x : LoopCall w D τ) (d : Device w D)
    (pkt : PACKET) :
    Account (decide (pkt.type = .SETSYSLOG) && decide (pkt.syslogServer ≠ 0)).toNat s
      (s.handlePacket b x d pkt) := by
  unfold handlePacket
  split
  · rename_i htype
    rw [htype]
    split
    · exact .refl h
    · rw [save_eq, save_eq]
      exact .refl h
  · rename_i htype
    rw [htype]
    exact setSyslogServer_account h pkt.syslogServer
  · rename_i htype
    rw [htype]
    split
    · exact .refl h
    · rw [latency, pings_eq]
      exact .refl h
  · rename_i htype
    rw [htype]
    split
    · exact startTrace_account h
    · exact .refl h
  · rename_i _ hsyslog _ _
    rw [decide_eq_false hsyslog]
    exact .refl h

theorem checkCommand_account (h : s.Owned) (b : Build) (x : LoopCall w D τ) (c : Core w D τ) :
    Account (c.setsSyslog x.input).toNat s (s.checkCommand b x c) := by
  unfold checkCommand Core.setsSyslog
  cases c.packet x.input with
  | some pkt => exact handlePacket_account h b x c.device pkt
  | none => exact .refl h

theorem checkNetwork_account (h : s.Owned) (b : Build) (x : LoopCall w D τ) (c : Core w D τ) :
    Account (c.opensInterface b x.input).toNat s (s.checkNetwork b x c) := by
  unfold checkNetwork Core.opensInterface
  split
  · rename_i hdue
    rw [isConnectedToInternet, pings_eq, hdue]
    exact getInterfaceMAC_account h b.platform
  · rename_i hdue
    rw [Bool.eq_false_iff.2 hdue]
    exact .refl h

theorem checkConfig_account (h : s.Owned) (b : Build) (x : LoopCall w D τ) (c : Core w D τ) :
    Account 0 s (s.checkConfig b x c) := by
  unfold checkConfig
  split
  · dsimp only
    rw [httpRequest_eq h.stdin]
    split
    · exact startTrace_account h
    · exact .refl h
  · exact .refl h

theorem resync_eq (tw : ℕ) (x : LoopCall w D τ) (c : Core w D τ) (s : Fds) : s.resync tw x c = s := by
  unfold resync
  split
  · refine Retry.run_preserves (P := fun cs : Core w D τ × Fds => cs.2 = s)
      (fun cs rounds h => ?_) rfl x.attempts
    show (if _ then cs.2.execSystemTimeUpdate else cs.2) = s
    rw [execSystemTimeUpdate_eq, ite_self]
    exact h
  · rfl

theorem traceValue_account (h : s.Owned) (now : BitVec w) (t : TraceAccumulator w) (a : Answers) :
    Account 0 s (s.traceValue now t a) := by
  unfold traceValue
  split
  · exact stopTrace_account h a
  · exact .refl h

theorem rotateDue_account (h : s.Owned) (x : LoopCall w D τ) (c : Core w D τ) :
    Account 0 s (s.rotateDue x c) := by
  unfold rotateDue
  split
  · exact rotate_account h
  · exact .refl h

variable [Double D]

theorem tick_account (h : s.Owned) (x : LoopCall w D τ) (c : Core w D τ) :
    Account 0 s (s.tick x c) := by
  unfold tick
  split
  · have htrace := traceValue_account h (c.device.ntp.getUNIXTime x.input.traceTest) c.device.trace
      x.answers
    dsimp only
    rw [List.foldl_fixed' fun _ => httpRequest_eq htrace.owned.stdin x.answers.alert]
    exact htrace
  · exact .refl h

theorem log_eq (p : Platform) {macAddress : List Byte} (h : macAddress ≠ []) (s : Fds) :
    s.log p macAddress = s := if_neg h

variable [DoubleText D]

/-- A call loses the descriptors of its two leaks. -/
theorem loop_account (h : s.Owned) (b : Build) (tw : ℕ) (x : LoopCall w D τ) {c : Core w D τ}
    (hnamed : c.device.config.macAddress ≠ []) :
    Account (c.leaks b x.input) s (s.loop b tw x c) := by
  let c₁ := c.heartBeat b x.input
  let c₂ := c₁.andThen (Core.checkCommand b x.input)
  let c₃ := c₂.andThen (Core.checkNetwork x.input)
  let c₅ := ((c.beforeSync b x.input).resync tw x.input x.attempts).state
  have hpacket : c₁.setsSyslog x.input = c.setsSyslog x.input := by
    rw [Core.setsSyslog, Core.heartBeat_packet]
    rfl
  have hnetLastMs : c₂.netLastMs = c.netLastMs :=
    Core.andThen_preserves (P := fun c' => c'.netLastMs = c.netLastMs) id
      (Core.heartBeat_netLastMs b x.input c)
  have hopens : c₂.opensInterface b x.input = c.opensInterface b x.input := by
    rw [Core.opensInterface, hnetLastMs]
    rfl
  have hmac : c₅.device.config.macAddress ≠ [] :=
    (Core.synced_macAddress b tw x.input x.attempts c).symm ▸ hnamed
  have hcommand := checkCommand_account h b x c₁
  have hnetwork := checkNetwork_account hcommand.owned b x c₂
  have hconfig := checkConfig_account hnetwork.owned b x c₃
  have htick := tick_account hconfig.owned x c₅
  have hrotate := rotateDue_account htick.owned x c₅
  rw [hpacket] at hcommand
  rw [hopens] at hnetwork
  have hloop : s.loop b tw x c = ((((s.checkCommand b x c₁).checkNetwork b x c₂).checkConfig b x
      c₃).tick x c₅).rotateDue x c₅ := by
    unfold loop
    dsimp only
    rw [beat_eq, resync_eq]
    exact Function.iterate_fixed (log_eq b.platform hmac _) x.answers.lines
  rw [hloop]
  exact (hcommand.trans hnetwork).trans (hconfig.trans (htick.trans hrotate))

end Loop

end Fds

end Terremoti
