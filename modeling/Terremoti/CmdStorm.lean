import Mathlib.Logic.Function.Basic
import Terremoti.Lib.Delivery
import Terremoti.Queries

/-!
# Devices answering each other (`CommandInterface::checkCommandPacket`)

Any devices on one network: `Net` is their states and the datagrams in flight, `NetRun` a run in
which datagrams are delivered in any order, each to one `checkCommandPacket`, and the replies are
put in flight towards the recorded source; in between, the state of a device may change in any other
way. A case of the switch sends at most one packet, of a type that no case is labelled with
(`handlePacket_sent`), so a run is one of `Delivery` whose quiet messages are the reply packets.
-/

namespace Terremoti

/-- A datagram in flight, with its destination; `datagram.src` is the source it claims. -/
structure Flying where
  dst : IPaddr
  port : BitVec 16
  datagram : Datagram Unit

def Sent.fly (addr : IPaddr) (s : Sent) : Flying :=
  ⟨s.dst, s.port, ⟨addr, CMD_INTERFACE_PORT, s.data, ()⟩⟩

structure Net (ι : Type) (w : ℕ) (D : Type) where
  devices : ι → Device w D
  flight : Multiset Flying

def PacketType.isReply : PacketType → Bool
  | DISCOVERY_REPLY | PONG | OK | GETINFO_REPLY => true
  | _ => false

def Flying.Reply (x : Flying) : Prop := ∃ t, t.isReply = true ∧ IsPacket x.datagram t

variable {ι : Type} [DecidableEq ι] {w : ℕ} {D τ : Type} [DoubleText D]

inductive NetRun (builds : ι → Build) (addr : ι → IPaddr) :
    Net ι w D → List (Delivery.Event Flying) → Net ι w D → Prop
  | nil (n : Net ι w D) : NetRun builds addr n [] n
  /-- A datagram for the command port of a running device. -/
  | deliver {devices : ι → Device w D} {rest : Multiset Flying} {x : Flying}
      {log : List (Delivery.Event Flying)} {n' : Net ι w D} (j : ι) (i : CommandInput w)
      (hdst : x.dst = addr j) (hport : x.port = CMD_INTERFACE_PORT)
      (hrunning : (devices j).status = .running)
      (h : NetRun builds addr
        ⟨Function.update devices j (checkCommandPacket (builds j) i (devices j) [x.datagram]).1,
          rest + ((checkCommandPacket (builds j) i (devices j) [x.datagram]).2.1.map
            (Sent.fly (addr j)) : Multiset Flying)⟩ log n') :
      NetRun builds addr ⟨devices, x ::ₘ rest⟩
        (⟨x, (checkCommandPacket (builds j) i (devices j) [x.datagram]).2.1.map
          (Sent.fly (addr j))⟩ :: log) n'
  /-- A datagram nobody takes: another port, another host, or a device that is rebooting. -/
  | lose {devices : ι → Device w D} {rest : Multiset Flying} {x : Flying}
      {log : List (Delivery.Event Flying)} {n' : Net ι w D}
      (h : NetRun builds addr ⟨devices, rest⟩ log n') :
      NetRun builds addr ⟨devices, x ::ₘ rest⟩ (⟨x, []⟩ :: log) n'
  /-- Anything else a device does, a restart included. -/
  | other {devices : ι → Device w D} {flight : Multiset Flying}
      {log : List (Delivery.Event Flying)} {n' : Net ι w D} (j : ι) (d : Device w D)
      (h : NetRun builds addr ⟨Function.update devices j d, flight⟩ log n') :
      NetRun builds addr ⟨devices, flight⟩ log n'

/-! ### One command -/

theorem handlePacket_sent (b : Build) (i : CommandInput w) (d : Device w D) (pkt : PACKET) :
    (handlePacket b i d pkt).sent = [] ∨ pkt.type.isReply = false ∧
      ∃ mac p, p.type.isReply = true ∧ (handlePacket b i d pkt).sent = [sendPacket b mac p] := by
  cases htype : pkt.type
  case DISCOVERY =>
    rw [handlePacket_discovery b i d htype]
    exact .inr ⟨rfl, _, _, rfl, rfl⟩
  case PING =>
    rw [handlePacket_ping b i d htype]
    exact .inr ⟨rfl, _, _, rfl, rfl⟩
  case SENDGPS =>
    by_cases hmac : d.config.getMacAddressAsByte = pkt.mac
    · rw [handlePacket_sendGps b i d htype hmac]
      exact .inr ⟨rfl, _, _, rfl, rfl⟩
    · rw [handlePacket_sendGps_mismatch b i d htype hmac]
      exact .inl rfl
  case SETSYSLOG =>
    rw [handlePacket_setSyslog b i d htype]
    exact .inr ⟨rfl, _, _, rfl, rfl⟩
  case REBOOT =>
    rw [handlePacket_reboot b i d htype]
    exact .inr ⟨rfl, _, _, rfl, rfl⟩
  case GETINFO =>
    by_cases hping : ∃ echo, i.Returns echo
    · -- `RESET`, which may follow, sends nothing
      obtain ⟨echo, hping⟩ := hping
      rw [handlePacket_getInfo b i d htype hping]
      cases b.debug <;> exact .inr ⟨rfl, _, _, rfl, rfl⟩
    · rw [handlePacket_getInfo_stops b i d htype hping]
      exact .inl rfl
  case RESET =>
    rw [handlePacket_reset b i d htype]
    exact .inl rfl
  case TRACE =>
    rw [handlePacket_startTrace b i d htype]
    exact .inl rfl
  all_goals
    rw [handlePacket_ignored b i d (by simp [htype])]
    exact .inl rfl

theorem checkCommandPacket_reply (b : Build) (i : CommandInput w) (d : Device w D) {x : Flying}
    (h : x.Reply) : (checkCommandPacket b i d [x.datagram]).2.1 = [] := by
  obtain ⟨t, hreply, hm⟩ := h
  obtain ⟨pkt, htype, -, hcheck⟩ := checkCommandPacket_of_isPacket b i d hm
  rw [hcheck]
  rcases handlePacket_sent b i d pkt with h | ⟨hnot, -⟩
  · exact h
  · rw [htype, hreply] at hnot
    cases hnot

theorem sendPacket_reply (b : Build) (mac : Fin 6 → Byte) {p : PACKET} (h : p.type.isReply = true)
    (addr : IPaddr) : ((sendPacket b mac p).fly addr).Reply := by
  have htake := take_sendPacket b mac p
  have hbyte : (sendPacket b mac p).data.getD 5 0 = p.type.toByte := by
    rw [← getD_take (show 5 < 6 by omega), htake]
    rfl
  refine ⟨p.type, h, (length_sendPacket b mac p).ge, ?_, ?_⟩
  · show (sendPacket b mac p).data.take 5 = magic
    have h5 := congrArg (List.take 5) htake
    rwa [List.take_take] at h5
  · show PacketType.ofByte ((sendPacket b mac p).data.getD 5 0) = p.type
    rw [hbyte]
    cases htype : p.type <;> rw [htype] at h <;> first | rfl | cases h

theorem deliver_bounded (b : Build) (i : CommandInput w) (d : Device w D) (x : Flying)
    (addr : IPaddr) : Delivery.Event.Bounded Flying.Reply
      ⟨x, (checkCommandPacket b i d [x.datagram]).2.1.map (Sent.fly addr)⟩ := by
  have hsilent : x.Reply →
      (checkCommandPacket b i d [x.datagram]).2.1.map (Sent.fly addr) = [] := fun h => by
    rw [checkCommandPacket_reply b i d h, List.map_nil]
  by_cases hm : ∃ t, IsPacket x.datagram t
  · obtain ⟨t, hm⟩ := hm
    obtain ⟨pkt, -, -, hcheck⟩ := checkCommandPacket_of_isPacket b i d hm
    rw [hcheck] at hsilent ⊢
    rcases handlePacket_sent b i d pkt with h | ⟨-, mac, p, hp, h⟩
    · rw [h]
      exact ⟨by simp, by simp, fun _ => rfl⟩
    · rw [h] at hsilent ⊢
      refine ⟨le_rfl, fun y hy => ?_, hsilent⟩
      rw [List.mem_singleton.1 hy]
      exact sendPacket_reply b mac hp addr
  · rw [checkCommandPacket_of_not_isPacket b i d (not_exists.1 hm)]
    exact ⟨by simp, by simp, fun _ => rfl⟩

/-! ### The network -/

/-- The network's runs are runs of `Delivery`, each delivery of which is bounded. -/
theorem NetRun.delivery {builds : ι → Build} {addr : ι → IPaddr} {n n' : Net ι w D}
    {log : List (Delivery.Event Flying)} (h : NetRun builds addr n log n') :
    Delivery.Run n.flight log n'.flight ∧ ∀ e ∈ log, e.Bounded Flying.Reply := by
  induction h with
  | nil n => exact ⟨.nil _, by simp⟩
  | @deliver devices rest x log n' j i hdst hport hrunning h ih =>
    refine ⟨Delivery.Run.deliver (e := ⟨x, _⟩) ih.1, List.forall_mem_cons.2 ⟨?_, ih.2⟩⟩
    exact deliver_bounded (builds j) i (devices j) x (addr j)
  | @lose devices rest x log n' h ih =>
    have hrest : Delivery.Run (rest + (([] : List Flying) : Multiset Flying)) log n'.flight := by
      simpa using ih.1
    refine ⟨Delivery.Run.deliver (e := ⟨x, []⟩) hrest, List.forall_mem_cons.2 ⟨?_, ih.2⟩⟩
    exact ⟨by simp, by simp, fun _ => rfl⟩
  | other j d h ih => exact ih

/-- No storm: on every network and in every run, a delivered datagram causes at most one to be sent,
none of those sent causes another wherever it is delivered, no more are sent than were in flight at
first, and the run has at most twice as many deliveries. -/
theorem no_reply_storm {builds : ι → Build} {addr : ι → IPaddr} {n n' : Net ι w D}
    {log : List (Delivery.Event Flying)} (h : NetRun builds addr n log n') :
    (∀ e ∈ log, e.out.length ≤ 1) ∧
    (∀ e ∈ log, ∀ x ∈ e.out, ∀ (b : Build) (i : CommandInput w) (d : Device w D),
      (checkCommandPacket b i d [x.datagram]).2.1 = []) ∧
    (log.map fun e => e.out.length).sum ≤ n.flight.card ∧
    log.length ≤ 2 * n.flight.card := by
  obtain ⟨hrun, hb⟩ := h.delivery
  exact ⟨fun e he => (hb e he).one,
    fun e he x hx b i d => checkCommandPacket_reply b i d ((hb e he).quiet x hx),
    hrun.sent_le hb, hrun.length_le hb⟩

/-- A ping that claims to come from the device it is sent to: the answer comes back to the device,
and that is all. -/
theorem no_reply_storm_spoofed :
    let ping : Flying := ⟨0xC0A80001, CMD_INTERFACE_PORT, { barePacket .PING with src := 0xC0A80001 }⟩
    let n : Net Unit 32 ℝ := ⟨fun _ => Device.init, {ping}⟩
    ∃ log n', NetRun (fun _ => ⟨.raspi, true⟩) (fun _ => 0xC0A80001) n log n' ∧ log.length = 2 ∧
      (∀ e ∈ log, e.out.length ≤ 1) ∧ (log.map fun e => e.out.length).sum ≤ 1 := by
  intro ping n
  have hm : IsPacket ping.datagram .PING :=
    ⟨(isPacket_barePacket .PING).size, (isPacket_barePacket .PING).magic, rfl⟩
  let d : Device 32 ℝ := Device.init
  obtain ⟨pkt, htype, hdec, hcheck⟩ := checkCommandPacket_of_isPacket ⟨.raspi, true⟩ calmInput d hm
  rw [handlePacket_ping _ calmInput d htype] at hcheck
  -- the pong, on its way back
  let pong : Flying := (sendPacket ⟨.raspi, true⟩ d.config.getMacAddressAsByte
    { pkt with type := .PONG }).fly 0xC0A80001
  have hback : NetRun (fun _ => ⟨.raspi, true⟩) (fun _ => 0xC0A80001) ⟨fun _ => d, pong ::ₘ 0⟩ _ _ :=
    .deliver () calmInput hdec.source rfl rfl (.nil _)
  have hrun : NetRun (fun _ => ⟨.raspi, true⟩) (fun _ => 0xC0A80001) n _ _ :=
    .deliver () calmInput rfl rfl rfl (by
      rw [hcheck]
      have hsame : Function.update (fun _ : Unit => d) () d = fun _ => d := by
        funext j; simp
      have hflight : (0 : Multiset Flying) + ([pong] : List Flying) = pong ::ₘ 0 := rfl
      show NetRun _ _ ⟨Function.update (fun _ : Unit => d) () d, 0 + ([pong] : List Flying)⟩ _ _
      rw [hsame, hflight]
      exact hback)
  have h := no_reply_storm hrun
  exact ⟨_, _, hrun, rfl, h.1, h.2.2.1⟩

end Terremoti
