import Terremoti.Queries

/-!
# Which datagrams are commands

`readPacket` compares what `recvfrom` has returned with `PACKET_SIZE`, which is also the room it gives
it: of a longer datagram the first 252 bytes are there, and they pass. `Acts` says when a packet has
an effect, by its type and the state of the device; a datagram is acted on without being a frame if it
is longer, starts like one, and its packet acts (`acted_on_frame_iff`).
-/

namespace Terremoti

namespace Device
variable {w : ℕ} {D : Type} {d : Device w D}

theorem status_eq_iff {s : Status} : { d with status := s } = d ↔ d.status = s := by
  constructor
  · intro h
    exact (congrArg Device.status h).symm
  · rintro rfl
    rfl

theorem unlinkConfig_eq_iff :
    d.unlinkConfig.platformReboot = d ↔ d.status = .rebooting ∧ d.file = none := by
  constructor
  · intro h
    exact ⟨(congrArg Device.status h).symm, (congrArg Device.file h).symm⟩
  · rintro ⟨hstatus, hfile⟩
    rw [platformReboot, unlinkConfig, ← hstatus, ← hfile]

theorem startTrace_eq_iff (now : BitVec 32) : d.startTrace now = d ↔ d.trace.traceFile = true := by
  have hstart : (d.trace.start (d.ntp.getUNIXTime now)).traceFile = true := by
    unfold TraceAccumulator.start
    split
    · rfl
    · rename_i htrue
      exact Bool.not_eq_false _ ▸ htrue
  constructor
  · intro h
    rw [← congrArg (fun d : Device w D => d.trace.traceFile) h]
    exact hstart
  · intro htrue
    rw [startTrace, TraceAccumulator.start, if_neg (by simp [htrue])]

end Device

variable {w : ℕ} {D τ : Type}

/-- A packet of this type, with this address in it, changes the device or is answered. -/
def Acts (b : Build) (i : CommandInput w) (d : Device w D) (type : PacketType)
    (mac : Fin 6 → Byte) : Prop :=
  match type with
  | .DISCOVERY | .PING | .SETSYSLOG | .REBOOT => True
  | .SENDGPS => d.config.getMacAddressAsByte = mac
  | .GETINFO => (∃ echo, i.Returns echo) ∨ d.status ≠ i.stopped
  | .RESET => b.debug = true ∧ ¬(d.status = .rebooting ∧ d.file = none)
  | .TRACE => b.debug = true ∧ d.trace.traceFile = false
  | _ => False

/-- The address is read in a `SENDGPS` only. -/
theorem acts_congr (b : Build) (i : CommandInput w) (d : Device w D) {type : PacketType}
    {mac mac' : Fin 6 → Byte} (h : type = .SENDGPS → mac = mac') :
    Acts b i d type mac ↔ Acts b i d type mac' := by
  by_cases hgps : type = .SENDGPS
  · rw [h hgps]
  · cases type <;> first | exact Iff.rfl | exact absurd rfl hgps

/-- The device has been changed or something has been sent. -/
def Cmd.Acted (d : Device w D) (c : Cmd w D) : Prop := c.device ≠ d ∨ c.sent ≠ []

theorem Cmd.acted_reply (b : Build) (d : Device w D) (type : PacketType) (c : Cmd w D) :
    (c.reply b type).Acted d :=
  .inr (List.concat_ne_nil _ _)

theorem Cmd.acted_unsent {d d' : Device w D} {pkt : PACKET} :
    Cmd.Acted d { pkt := pkt, device := d' } ↔ d' ≠ d :=
  or_iff_left fun h => h rfl

theorem Cmd.not_acted (d : Device w D) (pkt : PACKET) : ¬Cmd.Acted d { pkt := pkt, device := d } :=
  fun h => Cmd.acted_unsent.1 h rfl

variable [DoubleText D]

theorem handlePacket_acted_iff (b : Build) (i : CommandInput w) (d : Device w D) (pkt : PACKET) :
    (handlePacket b i d pkt).Acted d ↔ Acts b i d pkt.type pkt.mac := by
  cases htype : pkt.type
  case DISCOVERY =>
    rw [handlePacket_discovery b i d htype]
    exact iff_of_true (Cmd.acted_reply ..) trivial
  case PING =>
    rw [handlePacket_ping b i d htype]
    exact iff_of_true (Cmd.acted_reply ..) trivial
  case SETSYSLOG =>
    rw [handlePacket_setSyslog b i d htype]
    exact iff_of_true (Cmd.acted_reply ..) trivial
  case REBOOT =>
    rw [handlePacket_reboot b i d htype]
    exact iff_of_true (.inr (List.concat_ne_nil _ _)) trivial
  case SENDGPS =>
    by_cases hmac : d.config.getMacAddressAsByte = pkt.mac
    · rw [handlePacket_sendGps b i d htype hmac]
      exact iff_of_true (Cmd.acted_reply ..) hmac
    · rw [handlePacket_sendGps_mismatch b i d htype hmac]
      exact iff_of_false (Cmd.not_acted d pkt) hmac
  case GETINFO =>
    by_cases hping : ∃ echo, i.Returns echo
    · obtain ⟨echo, hping⟩ := hping
      rw [handlePacket_getInfo b i d htype hping]
      refine iff_of_true ?_ (.inl ⟨echo, hping⟩)
      split
      · exact .inr (List.concat_ne_nil _ _)
      · exact Cmd.acted_reply ..
    · rw [handlePacket_getInfo_stops b i d htype hping]
      exact (Cmd.acted_unsent.trans (not_congr Device.status_eq_iff)).trans (or_iff_right hping).symm
  case RESET =>
    rw [handlePacket_reset b i d htype, Cmd.acted_unsent]
    split
    · rename_i hdebug
      rw [Ne, Device.unlinkConfig_eq_iff]
      exact (and_iff_right hdebug).symm
    · rename_i hdebug
      exact iff_of_false (fun h => h rfl) fun h => hdebug h.1
  case TRACE =>
    rw [handlePacket_startTrace b i d htype, Cmd.acted_unsent]
    split
    · rename_i hdebug
      rw [Ne, Device.startTrace_eq_iff, Bool.not_eq_true]
      exact (and_iff_right hdebug).symm
    · rename_i hdebug
      exact iff_of_false (fun h => h rfl) fun h => hdebug h.1
  all_goals
    rw [handlePacket_ignored b i d (by simp [htype])]
    exact iff_of_false (Cmd.not_acted d pkt) id

/-! ### Datagrams -/

/-- What `checkCommandPacket` does when `m` is next has changed the device or been answered. -/
def ActedOn (b : Build) (i : CommandInput w) (d : Device w D) (m : Datagram τ)
    (queue : List (Datagram τ)) : Prop :=
  (checkCommandPacket b i d (m :: queue)).1 ≠ d ∨ (checkCommandPacket b i d (m :: queue)).2.1 ≠ []

structure Frame (m : Datagram τ) : Prop where
  size : m.data.length = PACKET_SIZE
  magic : m.data.take 5 = magic

/-- Longer than a frame, with the packet of one that acts in its first `PACKET_SIZE` bytes. -/
structure Overlong (b : Build) (i : CommandInput w) (d : Device w D) (m : Datagram τ) : Prop where
  size : PACKET_SIZE < m.data.length
  magic : m.data.take 5 = Terremoti.magic
  acts : Acts b i d (.ofByte (m.data.getD 5 0)) fun k => m.data.getD (6 + k) 0

theorem actedOn_iff (b : Build) (i : CommandInput w) (d : Device w D) (m : Datagram τ)
    (queue : List (Datagram τ)) :
    ActedOn b i d m queue ↔ PACKET_SIZE ≤ m.data.length ∧ m.data.take 5 = magic ∧
      Acts b i d (.ofByte (m.data.getD 5 0)) fun k => m.data.getD (6 + k) 0 := by
  rw [ActedOn, checkCommandPacket_cons]
  dsimp only
  by_cases hpacket : PACKET_SIZE ≤ m.data.length ∧ m.data.take 5 = magic
  · obtain ⟨hsize, hmagic⟩ := hpacket
    obtain ⟨pkt, htype, hdec, hcheck⟩ :=
      checkCommandPacket_of_isPacket b i d (m := m) ⟨hsize, hmagic, rfl⟩
    rw [hcheck, and_iff_right hsize, and_iff_right hmagic, ← htype, ← acts_congr b i d hdec.mac]
    exact handlePacket_acted_iff b i d pkt
  · rw [checkCommandPacket_of_not_isPacket b i d fun t h => hpacket ⟨h.size, h.magic⟩]
    refine iff_of_false ?_ fun h => hpacket ⟨h.1, h.2.1⟩
    rintro (h | h)
    · exact h rfl
    · exact h rfl

/-- A datagram that is acted on is a frame, unless it is a longer one whose beginning acts. -/
theorem acted_on_frame_iff (b : Build) (i : CommandInput w) (d : Device w D) (m : Datagram τ)
    (queue : List (Datagram τ)) : (ActedOn b i d m queue → Frame m) ↔ ¬Overlong b i d m := by
  rw [actedOn_iff]
  constructor
  · intro h hlong
    exact hlong.size.ne' (h ⟨hlong.size.le, hlong.magic, hlong.acts⟩).size
  · rintro hlong ⟨hsize, hmagic, hacts⟩
    rcases hsize.eq_or_lt with hsize | hsize
    · exact ⟨hsize.symm, hmagic⟩
    · exact absurd ⟨hsize, hmagic, hacts⟩ hlong

/-- A `PING` with one byte more than a frame. -/
def longPing : Datagram Unit where
  src := 0xC0A80002
  port := 40000
  data := magic ++ [PacketType.PING.toByte] ++ List.replicate 247 0
  tag := ()

theorem ping_overlong :
    longPing.data.length = 253 ∧
      ActedOn ⟨.raspi, false⟩ calmInput (Device.init : Device 32 ℝ) longPing [] ∧
      ¬Frame longPing := by
  have hlen : longPing.data.length = 253 := by
    have hmagic : magic.length = 5 := rfl
    rw [longPing, List.length_append, List.length_append, List.length_replicate, hmagic,
      List.length_singleton]
  refine ⟨hlen, ?_, fun h => ?_⟩
  · rw [actedOn_iff]
    exact ⟨by rw [hlen, PACKET_SIZE]; omega, rfl, trivial⟩
  · have hsize := h.size
    rw [hlen, PACKET_SIZE] at hsize
    omega

end Terremoti
