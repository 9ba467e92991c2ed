import Terremoti.Core
import Terremoti.InfoReply
import Terremoti.Logging
import Terremoti.Queries

/-!
# The log host (`SETSYSLOG`)

`Log::updateFromConfig` leaves the device without a log host, and each `SETSYSLOG` packet sets one
(`Log.set`). For the address zero `setSyslogServer` only clears the flag: the lines of the log are
no longer forwarded, but `GETINFO` goes on showing the address of before. So the forwarding follows
the last packet, and the address shown does so exactly when the last one switched forwarding on or
none before it had (`syslog_iff`).
-/

namespace Terremoti

def Config.getSyslogServer : BitVec 32 := 0

namespace Log

def updateFromConfig : Log := ⟨Config.getSyslogServer, decide (Config.getSyslogServer ≠ 0)⟩

def levelC : LogLevel → Byte
  | .DEBUG => 68
  | .INFO => 73
  | .ERROR => 69

/-- `(facility * 8) + severity`. -/
def priority : LogLevel → ℕ
  | .DEBUG => 16 * 8 + 7
  | .INFO => 16 * 8 + 6
  | .ERROR => 16 * 8 + 2

def logentry (datetime : List Byte) (e : LogEntry) : List Byte :=
  snprintf 1024 (str "[" ++ datetime ++ str "] [" ++ [levelC e.level] ++ str "] [" ++
    cstr e.macAddress ++ str "] " ++ snprintf 1024 (cstr e.msg))

/-- What `Log::log` sends for a line of the log. -/
def forward (datetime : List Byte) (e : LogEntry) (l : Log) : Option Sent :=
  if l.syslogEnabled then
    let pkt := snprintf 1024 (str "<" ++ (Digits.natural 10 (priority e.level)).map ascii ++
      str ">" ++ logentry datetime e)
    some (Udp.send (cstr pkt) l.syslogServer 514)
  else none

/-- The settings of a list of servers, one after another. -/
def set (servers : List IPaddr) (l : Log) : Log :=
  servers.foldl (fun l server => l.setSyslogServer server) l

theorem set_append (servers servers' : List IPaddr) (l : Log) :
    l.set (servers ++ servers') = (l.set servers).set servers' := List.foldl_append

/-- The flag goes by the last server, the address by the last one that is not zero. -/
theorem set_updateFromConfig (servers : List IPaddr) :
    updateFromConfig.set servers =
      ⟨(servers.reverse.find? fun server => !decide (server = 0)).getD 0,
        decide (servers.getLast?.getD 0 ≠ 0)⟩ := by
  induction servers using List.reverseRecOn with
  | nil => rfl
  | append_singleton servers server ih =>
    rw [set_append, ih]
    by_cases h : server = 0#32
    · simp [set, setSyslogServer, h]
    · simp [set, setSyslogServer, h]

/-- The address is that of the last setting exactly when that is a server, or no setting is. -/
theorem set_syslogServer_iff (servers : List IPaddr) :
    (updateFromConfig.set servers).syslogServer = servers.getLast?.getD 0 ↔
      servers.getLast?.getD 0 ≠ 0 ∨ ∀ server ∈ servers, server = 0 := by
  rw [set_updateFromConfig]
  rcases List.eq_nil_or_concat servers with rfl | ⟨servers, server, rfl⟩
  · simp
  by_cases h : server = 0#32
  · cases hfind : servers.reverse.find? fun server => !decide (server = 0#32) with
    | none =>
      have hall : ∀ server ∈ servers, server = 0#32 := by simpa using hfind
      simpa [h, hfind, or_imp, forall_and] using hall
    | some x =>
      have hx : ¬ x = 0#32 := by simpa using List.find?_some hfind
      have hmem : x ∈ servers := by simpa using List.mem_of_find?_eq_some hfind
      simpa [h, hfind, hx, or_imp, forall_and] using ⟨x, hmem, hx⟩
  · simp [h]

end Log

variable {w : ℕ} {D τ : Type}

instance (m : Datagram τ) (t : PacketType) : Decidable (IsPacket m t) :=
  decidable_of_iff (PACKET_SIZE ≤ m.data.length ∧ m.data.take 5 = magic ∧
      PacketType.ofByte (m.data.getD 5 0) = t)
    ⟨fun h => ⟨h.1, h.2.1, h.2.2⟩, fun h => ⟨h.size, h.magic, h.type⟩⟩

/-- The bytes 6 to 9 of a `SETSYSLOG` packet. -/
def setting (m : Datagram τ) : Option (List Byte) :=
  if IsPacket m .SETSYSLOG then some (Buffer.read m.data 6 4) else none

/-! ### One packet -/

theorem length_setting {m : Datagram τ} {s : List Byte} (h : setting m = some s) : s.length = 4 := by
  rw [setting, Option.ite_none_right_eq_some] at h
  obtain ⟨hm, h⟩ := h
  have hsize := hm.size
  have hpacket : PACKET_SIZE = 252 := rfl
  rw [← Option.some.inj h, Buffer.read, List.length_take, List.length_drop]
  omega

theorem load32_take {buf : List Byte} (n : ℕ) : Utils.load32 (buf.take (n + 4)) = Utils.load32 buf := by
  rcases buf with _ | ⟨b₀, _ | ⟨b₁, _ | ⟨b₂, _ | ⟨b₃, buf⟩⟩⟩⟩ <;> rfl

theorem readPacket_setSyslog (pkt₀ : PACKET) {m : Datagram τ} (h : IsPacket m .SETSYSLOG) :
    ∃ pkt, (Udp.receive PACKET_SIZE [m]).1.bind (readPacket pkt₀) = some pkt ∧
      pkt.type = .SETSYSLOG ∧ pkt.syslogServer = Utils.load32 (Buffer.read m.data 6 4) := by
  have hlen : (m.data.take PACKET_SIZE).length = PACKET_SIZE := by
    rw [List.length_take, Nat.min_eq_left h.size]
  have hmagic : (m.data.take PACKET_SIZE).take 5 = Terremoti.magic := by
    rw [List.take_take]
    exact h.magic
  have htype : PacketType.ofByte ((m.data.take PACKET_SIZE).getD 5 0) = .SETSYSLOG := by
    rw [getD_take (by decide)]
    exact h.type
  have hserver : Utils.load32 ((m.data.take PACKET_SIZE).drop 6) =
      Utils.load32 (Buffer.read m.data 6 4) := by
    rw [List.drop_take, Buffer.read, load32_take 0]
    exact load32_take 242
  show ∃ pkt, readPacket pkt₀ { m with data := m.data.take PACKET_SIZE } = some pkt ∧ _
  rw [readPacket]
  simp only [hlen, hmagic, htype, and_self, if_true, reduceCtorEq, if_false]
  exact ⟨_, rfl, rfl, hserver⟩

/-! ### What leaves the log alone -/

namespace Core

theorem heartBeat_log (b : Build) (i : LoopInput w D τ) (c : Core w D τ) :
    (c.heartBeat b i).device.log = c.device.log ∧ (c.heartBeat b i).commands = c.commands := by
  rcases heartBeat_cases b i c with h | ⟨t, h⟩
  · simp [h, halt]
  · simp [h]

end Core

variable [DoubleText D]

theorem handlePacket_log (b : Build) (i : CommandInput w) (d : Device w D) {pkt : PACKET}
    (h : pkt.type ≠ .SETSYSLOG) : (handlePacket b i d pkt).device.log = d.log := by
  rcases handlePacket_cases b i d pkt with ⟨htype, -⟩ | ⟨-, hd⟩ | ⟨-, -, hd⟩
  · exact absurd htype h
  · rw [hd]
    rfl
  · refine hd.keeps (f := Device.log) (fun d lon => ?_) (fun d lat => ?_) (fun _ _ => rfl) fun _ => rfl
    · rw [Device.setLongitude, Device.save_log]
    · rw [Device.setLatitude, Device.save_log]

/-- A packet sets the log host if it is a `SETSYSLOG`, and leaves it alone otherwise. -/
theorem checkCommandPacket_log (b : Build) (i : CommandInput w) (d : Device w D) (m : Datagram τ) :
    (checkCommandPacket b i d [m]).1.log = d.log.set ((setting m).toList.map Utils.load32) := by
  by_cases hm : IsPacket m .SETSYSLOG
  · obtain ⟨pkt, hread, htype, hserver⟩ := readPacket_setSyslog i.pkt hm
    rw [checkCommandPacket]
    dsimp only
    rw [hread]
    dsimp only
    rw [handlePacket_setSyslog b i d htype, hserver, setting, if_pos hm]
    rfl
  · rw [setting, if_neg hm]
    by_cases hpacket : ∃ t, IsPacket m t
    · obtain ⟨t, ht⟩ := hpacket
      obtain ⟨pkt, htype, -, hcheck⟩ := checkCommandPacket_of_isPacket b i d ht
      rw [hcheck]
      refine handlePacket_log b i d fun hset => hm ?_
      rwa [← hset, htype]
    · rw [checkCommandPacket_of_not_isPacket b i d (not_exists.1 hpacket)]
      rfl

/-! ### Runs -/

/-- A datagram as the device comes to read it. -/
structure Received (w : ℕ) (τ : Type) where
  input : CommandInput w
  datagram : Datagram τ

/-- The device reads datagrams one after another, as long as it is running, and in between the rest
of the program leaves the settings of the log alone. -/
inductive CommandRun (b : Build) : Device w D → List (Received w τ) → Device w D → Prop
  | nil (d : Device w D) : CommandRun b d [] d
  | other {d d₁ d' : Device w D} {es : List (Received w τ)} (hlog : d₁.log = d.log)
      (h : CommandRun b d₁ es d') : CommandRun b d es d'
  | receive {d d' : Device w D} {e : Received w τ} {es : List (Received w τ)}
      (hrunning : d.status = .running)
      (h : CommandRun b (checkCommandPacket b e.input d [e.datagram]).1 es d') :
      CommandRun b d (e :: es) d'

def settings (es : List (Received w τ)) : List (List Byte) := es.filterMap fun e => setting e.datagram

/-- The bytes of the last setting. -/
def lastSetting (es : List (Received w τ)) : List Byte := (settings es).getLast?.getD [0, 0, 0, 0]

theorem CommandRun.trans {b : Build} {d d₁ d' : Device w D} {es : List (Received w τ)}
    (h : CommandRun b d es d₁) (hlog : d'.log = d₁.log) : CommandRun b d es d' := by
  induction h with
  | nil d => exact .other hlog (.nil _)
  | other hlog₁ h ih => exact .other hlog₁ (ih hlog)
  | receive hrunning h ih => exact .receive hrunning (ih hlog)

theorem CommandRun.log {b : Build} {d d' : Device w D} {es : List (Received w τ)}
    (h : CommandRun b d es d') : d'.log = d.log.set ((settings es).map Utils.load32) := by
  induction h with
  | nil d => rfl
  | other hlog h ih => rw [ih, hlog]
  | @receive d d' e es hrunning h ih =>
    rw [ih, checkCommandPacket_log, ← Log.set_append, ← List.map_append, settings, settings,
      List.filterMap_cons]
    cases setting e.datagram <;> rfl

/-! ### The main loop -/

namespace Core

/-- The datagram a call of `loop` reads. -/
def received (i : LoopInput w D τ) (c : Core w D τ) : List (Received w τ) :=
  (c.commands ++ i.arrived).head?.toList.map fun m => ⟨i.command, m⟩

theorem checkCommand_run (b : Build) (i : LoopInput w D τ) {c : Core w D τ}
    (hrunning : c.device.status = .running) :
    CommandRun b c.device (c.received i) (c.checkCommand b i).device := by
  unfold received checkCommand
  cases c.commands ++ i.arrived with
  | nil => exact .nil _
  | cons m queue =>
    have hlog : (checkCommandPacket b i.command c.device (m :: queue)).1.log =
        (checkCommandPacket b i.command c.device [m]).1.log := by
      rw [checkCommandPacket_cons]
    exact .receive hrunning (.other hlog (.nil _))

variable [Double D]

theorem checkServerConfig_log (b : Build) (now : BitVec 32) (resp : HTTPResponse)
    (d : Device w D) : (checkServerConfig b now resp d).2.log = d.log := by
  have hconfigured : (configured now (replyParams resp) d).log = d.log :=
    configured_preserves (P := fun d' => d'.log = d.log) (fun _ _ h => h) (fun _ _ h => h)
      (fun _ _ h => h) (fun _ h => h) (fun _ h => h) _ rfl
  exact checkServerConfig_preserves (P := fun d' => d'.log = d.log) hconfigured rfl rfl

/-- Behind the command, a call of `loop` leaves the log alone. -/
theorem loop_log (b : Build) (tw : ℕ) (i : LoopInput w D τ) (attempts : List (List (Round τ)))
    (c : Core w D τ) : (c.loop b tw i attempts).core.device.log =
      ((c.heartBeat b i).andThen (checkCommand b i)).device.log := by
  let P := fun d : Device w D => d.log = ((c.heartBeat b i).andThen (checkCommand b i)).device.log
  have hbefore : P (c.beforeSync b i).device :=
    afterCommand_device (P := P) (fun _ _ h => h)
      (fun d h => (checkServerConfig_log b i.traceStart i.resp d).trans h) rfl
  exact loop_device (P := P) (fun _ _ h => h) (fun _ _ _ h => h) (fun _ _ h => h) attempts hbefore

/-- A call of `loop` is a run with the datagram it reads, or without if the heartbeat reboots. -/
theorem loop_commandRun (b : Build) (tw : ℕ) (i : LoopInput w D τ)
    (attempts : List (List (Round τ))) (c : Core w D τ) :
    CommandRun b c.device (if (c.heartBeat b i).device.status = .running then c.received i else [])
      (c.loop b tw i attempts).core.device := by
  obtain ⟨hlog, hcommands⟩ := heartBeat_log b i c
  have hend := loop_log b tw i attempts c
  refine .other hlog ?_
  rw [andThen] at hend
  split at hend
  · rename_i hrunning
    rw [if_pos hrunning, received, ← hcommands]
    exact (checkCommand_run b i hrunning).trans hend
  · rename_i hrunning
    rw [if_neg hrunning]
    exact .other hend (.nil _)

end Core

/-! ### What is shown and what is forwarded -/

theorem sendPacket_syslogServer (b : Build) (mac : Fin 6 → Byte) {pkt : PACKET}
    (h : pkt.type = .GETINFO_REPLY) :
    Buffer.read (sendPacket b mac pkt).data 12 4 = Utils.bytes32 pkt.syslogServer := by
  obtain ⟨n₁, n₂, n₃, n₄, o₂, o₃, o₄, hranges⟩ := ranges_infoFields pkt
  obtain ⟨f, hf, hlabel, hread⟩ := Layout.read_of_mem_ranges (p := []) 0
    (show (.syslogServer, 12, 4) ∈ Layout.ranges 0 (infoFields pkt) by simp [hranges])
    (List.replicate (PACKET_SIZE - (Layout.text 0 (infoFields pkt)).length) 0)
  rw [sendPacket_text b mac h, List.rightpad]
  refine hread.trans ?_
  simp only [infoFields, List.mem_cons, List.not_mem_nil, or_false] at hf
  rcases hf with rfl | rfl | rfl | rfl | rfl | rfl | rfl | rfl | rfl | rfl | rfl | rfl | rfl | rfl |
    rfl
  case inr.inr.inr.inl => rfl
  all_goals cases hlabel

/-- After the datagrams `es` the device answers `GETINFO` with the last setting. -/
structure ReadsBack (b : Build) (es : List (Received w τ)) (d : Device w D) : Prop where
  reply : ∀ (i : CommandInput w) (m : Datagram τ), IsPacket m .GETINFO →
    (∃ echo, i.Returns echo) →
    ∃ s, (checkCommandPacket b i d [m]).2.1 = [s] ∧
      s.data.take 6 = magic ++ [PacketType.GETINFO_REPLY.toByte] ∧
      Buffer.read s.data 12 4 = lastSetting es

/-- After the datagrams `es` a line of the log is sent to the server of the last setting, and is not
if its bytes are zero. -/
structure Forwards (es : List (Received w τ)) (d : Device w D) : Prop where
  line : ∀ (datetime : List Byte) (e : LogEntry),
    if lastSetting es = [0, 0, 0, 0] then d.log.forward datetime e = none
    else ∃ data, d.log.forward datetime e = some ⟨Utils.load32 (lastSetting es), 514, data⟩

/-- The last setting is a server, or no setting before was one. -/
def KeepsNoServer (es : List (Received w τ)) : Prop :=
  lastSetting es ≠ [0, 0, 0, 0] ∨ ∀ s ∈ settings es, s = [0, 0, 0, 0]

theorem getInfo_syslogServer (b : Build) {i : CommandInput w} (d : Device w D) {m : Datagram τ}
    (hm : IsPacket m .GETINFO) {echo : Option (BitVec w)} (hping : i.Returns echo) :
    ∃ s, (checkCommandPacket b i d [m]).2.1 = [s] ∧
      s.data.take 6 = magic ++ [PacketType.GETINFO_REPLY.toByte] ∧
      Buffer.read s.data 12 4 = Utils.bytes32 d.log.syslogServer := by
  obtain ⟨pkt, htype, -, hcheck⟩ := checkCommandPacket_of_isPacket b i d hm
  rw [hcheck, handlePacket_getInfo b i d htype hping]
  have hsent : ∀ (c : Cmd w D) (s : Sent), c.sent = [s] → (if b.debug then (Cmd.reset c).1 else c).sent
      = [s] := by
    intro c s hc
    cases b.debug with
    | true => exact hc
    | false => exact hc
  exact ⟨_, hsent _ _ rfl, take_sendPacket b _ _, sendPacket_syslogServer b _ rfl⟩

theorem length_lastSetting (es : List (Received w τ)) : (lastSetting es).length = 4 := by
  rw [lastSetting]
  cases hlast : (settings es).getLast? with
  | none => rfl
  | some s =>
    obtain ⟨e, -, he⟩ := List.mem_filterMap.1 (List.mem_of_getLast? hlast)
    exact length_setting he

theorem bytes32_eq_iff {s : List Byte} (h : s.length = 4) (x : BitVec 32) :
    Utils.bytes32 x = s ↔ x = Utils.load32 s := by
  obtain ⟨b₀, b₁, b₂, b₃, rfl⟩ := List.length_eq_four.1 h
  constructor
  · intro hx
    rw [← hx, ← List.append_nil (Utils.bytes32 x), Utils.load32_bytes32]
  · intro hx
    rw [hx, Utils.bytes32_load32]

theorem load32_eq_zero_iff {s : List Byte} (h : s.length = 4) :
    Utils.load32 s = 0 ↔ s = [0, 0, 0, 0] := by
  rw [eq_comm, ← bytes32_eq_iff h, eq_comm]
  rfl

theorem getLast?_settings (es : List (Received w τ)) :
    ((settings es).map Utils.load32).getLast?.getD 0 = Utils.load32 (lastSetting es) := by
  rw [List.getLast?_map, lastSetting]
  cases (settings es).getLast? <;> rfl

theorem keepsNoServer_iff (es : List (Received w τ)) :
    (Utils.load32 (lastSetting es) ≠ 0 ∨ ∀ server ∈ (settings es).map Utils.load32, server = 0) ↔
      KeepsNoServer es := by
  refine or_congr (not_congr (load32_eq_zero_iff (length_lastSetting es))) ?_
  rw [List.forall_mem_map]
  refine forall₂_congr fun s hs => ?_
  obtain ⟨e, -, he⟩ := List.mem_filterMap.1 hs
  exact load32_eq_zero_iff (length_setting he)

section Logged
variable {d : Device w D} {es : List (Received w τ)}

theorem syslogServer_iff {l : Log}
    (hlog : l = Log.updateFromConfig.set ((settings es).map Utils.load32)) :
    l.syslogServer = Utils.load32 (lastSetting es) ↔ KeepsNoServer es := by
  rw [hlog, ← getLast?_settings, Log.set_syslogServer_iff, getLast?_settings, keepsNoServer_iff]

omit [DoubleText D] in
theorem forwards_of_log (hlog : d.log = Log.updateFromConfig.set ((settings es).map Utils.load32)) :
    Forwards es d := by
  have henabled : d.log.syslogEnabled = decide (lastSetting es ≠ [0, 0, 0, 0]) := by
    rw [hlog, Log.set_updateFromConfig, getLast?_settings]
    exact decide_eq_decide.2 (not_congr (load32_eq_zero_iff (length_lastSetting es)))
  constructor
  intro datetime e
  rw [Log.forward, henabled]
  split
  · rename_i hzero
    simp [hzero]
  · rename_i hne
    rw [if_pos (decide_eq_true hne), (syslogServer_iff hlog).2 (.inl hne)]
    exact ⟨_, rfl⟩

theorem readsBack_iff (b : Build)
    (hlog : d.log = Log.updateFromConfig.set ((settings es).map Utils.load32)) :
    ReadsBack b es d ↔ KeepsNoServer es := by
  rw [← syslogServer_iff hlog, ← bytes32_eq_iff (length_lastSetting es)]
  constructor
  · intro hreads
    by_cases hnone : settings es = []
    · rw [hlog, lastSetting, hnone]
      rfl
    -- a setting was received, so there is a datagram to ask with
    obtain ⟨s, hs⟩ := List.exists_mem_of_ne_nil _ hnone
    obtain ⟨e, -, -⟩ := List.mem_filterMap.1 hs
    let m : Datagram τ := ⟨0, 0, (barePacket .GETINFO).data, e.datagram.tag⟩
    have hbare := isPacket_barePacket .GETINFO
    have hm : IsPacket m .GETINFO := ⟨hbare.size, hbare.magic, hbare.type⟩
    obtain ⟨sent, hsent, -, hshown⟩ := hreads.reply calmInput m hm ⟨_, calmInput_returns⟩
    obtain ⟨sent', hsent', -, hlogged⟩ := getInfo_syslogServer b d hm calmInput_returns
    rw [hsent] at hsent'
    cases hsent'
    exact hlogged.symm.trans hshown
  · intro hserver
    constructor
    rintro i m hm ⟨echo, hping⟩
    obtain ⟨s, hsent, hhead, hshown⟩ := getInfo_syslogServer b d hm hping
    exact ⟨s, hsent, hhead, hshown.trans hserver⟩

end Logged

/-- After any datagrams since `setup`, the lines of the log go to the server of the last setting,
and `GETINFO` shows that setting exactly when it is a server or no setting was one. -/
theorem syslog_iff {b : Build} {d d' : Device w D} {es : List (Received w τ)}
    (hsetup : d.log = Log.updateFromConfig) (h : CommandRun b d es d') :
    Forwards es d' ∧ (ReadsBack b es d' ↔ KeepsNoServer es) := by
  have hlog := h.log
  rw [hsetup] at hlog
  exact ⟨forwards_of_log hlog, readsBack_iff b hlog⟩

def syslogPacket (b₀ b₁ b₂ b₃ : Byte) : Datagram Unit where
  src := 0xC0A80002
  port := 40000
  data := magic ++ [PacketType.SETSYSLOG.toByte] ++ [b₀, b₁, b₂, b₃] ++ List.replicate 242 0
  tag := ()

/-- A `SETSYSLOG` packet does not end the run. -/
theorem setSyslog_status (b : Build) (i : CommandInput w) (d : Device w D) {m : Datagram τ}
    (hm : IsPacket m .SETSYSLOG) : (checkCommandPacket b i d [m]).1.status = d.status := by
  obtain ⟨pkt, htype, -, hcheck⟩ := checkCommandPacket_of_isPacket b i d hm
  rw [hcheck, handlePacket_setSyslog b i d htype]
  rfl

theorem isPacket_syslogPacket (b₀ b₁ b₂ b₃ : Byte) :
    IsPacket (syslogPacket b₀ b₁ b₂ b₃) .SETSYSLOG where
  size := by
    have hmagic : magic.length = 5 := rfl
    rw [syslogPacket, List.length_append, List.length_append, List.length_append, hmagic,
      List.length_replicate, List.length_singleton, PACKET_SIZE]
    exact le_rfl
  magic := rfl
  type := rfl

theorem setting_syslogPacket (b₀ b₁ b₂ b₃ : Byte) :
    setting (syslogPacket b₀ b₁ b₂ b₃) = some [b₀, b₁, b₂, b₃] := by
  rw [setting, if_pos (isPacket_syslogPacket b₀ b₁ b₂ b₃)]
  rfl

theorem syslog_iff_set :
    let es : List (Received 32 Unit) :=
      [⟨calmInput, syslogPacket 0 0 0 0⟩, ⟨calmInput, syslogPacket 192 0 2 9⟩]
    let d : Device 32 ℝ := Device.init
    ∃ d', CommandRun ⟨.raspi, false⟩ d es d' ∧ Forwards es d' ∧ ReadsBack ⟨.raspi, false⟩ es d' := by
  intro es d
  obtain ⟨d', hrun⟩ : ∃ d', CommandRun ⟨.raspi, false⟩ d es d' :=
    ⟨_, .receive rfl (.receive (setSyslog_status _ _ _ (isPacket_syslogPacket _ _ _ _)) (.nil _))⟩
  have hlast : lastSetting es = [192, 0, 2, 9] := by
    simp only [es, lastSetting, settings, List.filterMap_cons, setting_syslogPacket]
    rfl
  obtain ⟨hforwards, hreads⟩ := syslog_iff (d := d) rfl hrun
  have hne : lastSetting es ≠ [0, 0, 0, 0] := by
    rw [hlast]
    decide
  exact ⟨d', hrun, hforwards, hreads.2 (.inl hne)⟩

/-- A server is set and switched off again: `GETINFO` still shows it. -/
theorem getInfo_switched_off :
    let es : List (Received 32 Unit) :=
      [⟨calmInput, syslogPacket 192 0 2 9⟩, ⟨calmInput, syslogPacket 0 0 0 0⟩]
    let d : Device 32 ℝ := Device.init
    ∃ d', CommandRun ⟨.raspi, false⟩ d es d' ∧ lastSetting es = [0, 0, 0, 0] ∧
      d'.log = ⟨Utils.load32 [192, 0, 2, 9], false⟩ ∧ ¬ ReadsBack ⟨.raspi, false⟩ es d' := by
  intro es d
  obtain ⟨d', hrun⟩ : ∃ d', CommandRun ⟨.raspi, false⟩ d es d' :=
    ⟨_, .receive rfl (.receive (setSyslog_status _ _ _ (isPacket_syslogPacket _ _ _ _)) (.nil _))⟩
  have hsettings : settings es = [[192, 0, 2, 9], [0, 0, 0, 0]] := by
    simp only [es, settings, List.filterMap_cons, setting_syslogPacket]
    rfl
  have hlast : lastSetting es = [0, 0, 0, 0] := by
    rw [lastSetting, hsettings]
    rfl
  have hlog := hrun.log
  rw [hsettings] at hlog
  refine ⟨d', hrun, hlast, hlog, fun hreads => ?_⟩
  have hm : IsPacket (barePacket .GETINFO) .GETINFO := isPacket_barePacket .GETINFO
  obtain ⟨s, hs, -, hshown⟩ := hreads.reply calmInput _ hm ⟨_, calmInput_returns⟩
  obtain ⟨s', hs', -, hlogged⟩ := getInfo_syslogServer ⟨.raspi, false⟩ d' hm calmInput_returns
  rw [hs] at hs'
  cases hs'
  rw [hshown, hlast, hlog] at hlogged
  exact absurd hlogged (by decide)

end Terremoti
