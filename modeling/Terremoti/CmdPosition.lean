import Mathlib.Logic.Function.Basic
import Mathlib.Tactic.FinCases
import Terremoti.Queries

/-!
# Addressed positions (`SENDGPS`)

A device id written by `Utils::getInterfaceMAC` is read back by `Config::getMacAddressAsByte` as the
hardware address it was made from (`getMacAddressAsByte_getInterfaceMAC`). So a `SENDGPS` packet is
accepted by the device whose address it carries and by no other, and after any deliveries each
device has the position of the last packet addressed to it (`PositionRun.config`).
-/

namespace Terremoti

/-! ### The device id -/

theorem strtol16_hex02 (b : Byte) : BitVec.ofInt 8 (strtol16 (cstr (hex02 b))) = b := by
  have h : ∀ n : Fin 256,
      BitVec.ofInt 8 (strtol16 (cstr (hex02 (BitVec.ofFin n)))) = BitVec.ofFin n := by
    decide +kernel
  exact h b.toFin

theorem hex02_eq (b : Byte) : hex02 b = [ascii (b.toNat / 16 % 16), ascii (b.toNat % 16)] := rfl

theorem getMacAddressAsByte_getInterfaceMAC {D : Type} {c : Config D} {hw : Fin 6 → Byte}
    (h : c.macAddress = Utils.getInterfaceMAC (some hw)) : c.getMacAddressAsByte = hw := by
  have hid : c.macAddress = hex02 (hw 0) ++ (hex02 (hw 1) ++ (hex02 (hw 2) ++ (hex02 (hw 3) ++
      (hex02 (hw 4) ++ hex02 (hw 5))))) := by
    rw [h, Utils.getInterfaceMAC]
    simp [List.ofFn_succ]
  simp only [hex02_eq, List.cons_append, List.nil_append] at hid
  funext i
  rw [Config.getMacAddressAsByte, hid]
  fin_cases i <;> exact strtol16_hex02 _

variable {w : ℕ} {D τ : Type}

/-! ### Positions -/

def macField (m : Datagram τ) : Fin 6 → Byte := fun k => m.data.getD (6 + k) 0

def isPositionFor (hw : Fin 6 → Byte) (m : Datagram τ) : Bool :=
  decide (PACKET_SIZE ≤ m.data.length) && decide (m.data.take 5 = magic) &&
    decide (PacketType.ofByte (m.data.getD 5 0) = .SENDGPS) && decide (macField m = hw)

theorem isPositionFor_iff (hw : Fin 6 → Byte) (m : Datagram τ) :
    isPositionFor hw m = true ↔ IsPacket m .SENDGPS ∧ macField m = hw := by
  simp only [isPositionFor, Bool.and_eq_true, decide_eq_true_eq]
  exact ⟨fun h => ⟨⟨h.1.1.1, h.1.1.2, h.1.2⟩, h.2⟩,
    fun h => ⟨⟨⟨h.1.size, h.1.magic⟩, h.1.type⟩, h.2⟩⟩

variable [DoubleText D]

/-- The configuration with the position of a packet, if there is one: the IEEE singles stored most
significant byte first at bytes 12 to 15 and 16 to 19. -/
def Config.withPosition (c : Config D) : Option (Datagram τ) → Config D
  | none => c
  | some m =>
    { c with
      lat := DoubleText.ofFloat (Utils.singleAt m.data 12)
      lon := DoubleText.ofFloat (Utils.singleAt m.data 16) }

theorem handlePacket_config (b : Build) (i : CommandInput w) (d : Device w D) {pkt : PACKET}
    (h : pkt.type ≠ .SENDGPS) : (handlePacket b i d pkt).device.config = d.config := by
  cases htype : pkt.type
  case SENDGPS => exact absurd htype h
  case GETINFO =>
    by_cases hping : ∃ echo, i.Returns echo
    · obtain ⟨echo, hping⟩ := hping
      rw [handlePacket_getInfo b i d htype hping]
      cases b.debug <;> rfl
    · rw [handlePacket_getInfo_stops b i d htype hping]
  all_goals
    rw [handlePacket, htype, Cmd.cases]
    cases b.debug <;> rfl

theorem checkCommandPacket_config (b : Build) (i : CommandInput w) {d : Device w D}
    {hw : Fin 6 → Byte} (hmac : d.config.getMacAddressAsByte = hw) (m : Datagram τ) :
    (checkCommandPacket b i d [m]).1.config =
      d.config.withPosition (if isPositionFor hw m then some m else none) := by
  by_cases hm : ∃ t, IsPacket m t
  · obtain ⟨t, hm⟩ := hm
    obtain ⟨pkt, htype, hdec, hcheck⟩ := checkCommandPacket_of_isPacket b i d hm
    rw [hcheck]
    by_cases hgps : t = .SENDGPS
    · subst hgps
      have hfield : pkt.mac = macField m := hdec.mac htype
      by_cases heq : macField m = hw
      · rw [if_pos ((isPositionFor_iff hw m).2 ⟨hm, heq⟩),
          handlePacket_sendGps b i d htype (hmac.trans (heq.symm.trans hfield.symm)),
          hdec.latitude htype, hdec.longitude htype]
        simp [Cmd.reply, Device.setLatitude, Device.setLongitude, Config.withPosition]
      · rw [if_neg fun h => heq ((isPositionFor_iff hw m).1 h).2,
          handlePacket_sendGps_mismatch b i d htype fun h => heq (by rw [← hfield, ← h, hmac])]
        rfl
    · rw [if_neg fun h => hgps (hm.type.symm.trans ((isPositionFor_iff hw m).1 h).1.type),
        handlePacket_config b i d (htype ▸ hgps)]
      rfl
  · rw [checkCommandPacket_of_not_isPacket b i d (not_exists.1 hm),
      if_neg fun h => hm ⟨_, ((isPositionFor_iff hw m).1 h).1⟩]
    rfl

/-! ### Runs of deliveries -/

structure Delivered (ι : Type) (w : ℕ) (τ : Type) where
  j : ι
  input : CommandInput w
  datagram : Datagram τ

variable {ι : Type} [DecidableEq ι]

def deliver (builds : ι → Build) (devices : ι → Device w D) (e : Delivered ι w τ) :
    ι → Device w D :=
  Function.update devices e.j
    (checkCommandPacket (builds e.j) e.input (devices e.j) [e.datagram]).1

/-- Deliveries in order, each while no device is rebooting. -/
inductive PositionRun (builds : ι → Build) :
    (ι → Device w D) → List (Delivered ι w τ) → (ι → Device w D) → Prop
  | nil (devices : ι → Device w D) : PositionRun builds devices [] devices
  | cons {devices devices' : ι → Device w D} {e : Delivered ι w τ} {es : List (Delivered ι w τ)}
      (hrunning : ∀ j, (devices j).status = .running)
      (h : PositionRun builds (deliver builds devices e) es devices') :
      PositionRun builds devices (e :: es) devices'

def lastPosition (hw : Fin 6 → Byte) (j : ι) (es : List (Delivered ι w τ)) :
    Option (Datagram τ) :=
  ((es.filter fun e => decide (e.j = j) && isPositionFor hw e.datagram).map (·.datagram)).getLast?

theorem deliver_config (builds : ι → Build) {devices : ι → Device w D} {hw : ι → Fin 6 → Byte}
    (hid : ∀ j, (devices j).config.macAddress = Utils.getInterfaceMAC (some (hw j)))
    (e : Delivered ι w τ) (j : ι) :
    (deliver builds devices e j).config =
      (devices j).config.withPosition (lastPosition (hw j) j [e]) := by
  by_cases hj : e.j = j
  · subst hj
    have hmac := getMacAddressAsByte_getInterfaceMAC (hid e.j)
    rw [deliver, Function.update_self, checkCommandPacket_config _ _ hmac, lastPosition]
    cases hpos : isPositionFor (hw e.j) e.datagram <;> simp [hpos]
  · rw [deliver, Function.update_of_ne (Ne.symm hj), lastPosition]
    simp [hj, Config.withPosition]

theorem lastPosition_cons (hw : Fin 6 → Byte) (j : ι) (e : Delivered ι w τ)
    (es : List (Delivered ι w τ)) :
    lastPosition hw j (e :: es) = (lastPosition hw j es).or (lastPosition hw j [e]) := by
  simp only [lastPosition, List.filter_cons, List.filter_nil]
  split
  · rw [List.map_cons, List.getLast?_cons]
    cases (List.map _ (List.filter _ es)).getLast? <;> rfl
  · simp

theorem withPosition_withPosition (c : Config D) (o o' : Option (Datagram τ)) :
    (c.withPosition o).withPosition o' = c.withPosition (o'.or o) := by
  cases o' with
  | none => rfl
  | some m => cases o <;> rfl

@[simp] theorem withPosition_macAddress (c : Config D) (o : Option (Datagram τ)) :
    (c.withPosition o).macAddress = c.macAddress := by
  cases o <;> rfl

theorem PositionRun.config {builds : ι → Build} {devices devices' : ι → Device w D}
    {hw : ι → Fin 6 → Byte} {es : List (Delivered ι w τ)}
    (h : PositionRun builds devices es devices')
    (hid : ∀ j, (devices j).config.macAddress = Utils.getInterfaceMAC (some (hw j))) (j : ι) :
    (devices' j).config = (devices j).config.withPosition (lastPosition (hw j) j es) := by
  induction h with
  | nil devices => rfl
  | @cons devices devices' e es hrunning h ih =>
    have hstep := deliver_config builds hid e
    rw [ih fun j => by rw [hstep, withPosition_macAddress, hid], hstep, withPosition_withPosition,
      lastPosition_cons _ _ e es]

/-- On devices whose ids were made from pairwise different hardware addresses, after any deliveries
until a device reboots: each device has the position of the last packet addressed to it, and its own
position if there was none; it gives its own address in a `DISCOVERY_REPLY`; a `SENDGPS` packet with
another address gets no reply and changes nothing; and no packet is for two devices. -/
theorem position_addressed {builds : ι → Build} {devices devices' : ι → Device w D}
    {hw : ι → Fin 6 → Byte} {es : List (Delivered ι w τ)} (hdistinct : Function.Injective hw)
    (hid : ∀ j, (devices j).config.macAddress = Utils.getInterfaceMAC (some (hw j)))
    (h : PositionRun builds devices es devices') :
    (∀ j, (devices' j).config = (devices j).config.withPosition (lastPosition (hw j) j es)) ∧
    (∀ (j : ι) (i : CommandInput w) (m : Datagram τ), IsPacket m .DISCOVERY →
      ∃ s, (checkCommandPacket (builds j) i (devices' j) [m]).2.1 = [s] ∧ s.dst = m.src ∧
        s.data.take 6 = magic ++ [PacketType.DISCOVERY_REPLY.toByte] ∧
        Buffer.read s.data 6 6 = List.ofFn (hw j)) ∧
    (∀ (j : ι) (i : CommandInput w) (m : Datagram τ), IsPacket m .SENDGPS → macField m ≠ hw j →
      checkCommandPacket (builds j) i (devices' j) [m] = (devices' j, [], [])) ∧
    (∀ (j k : ι) (m : Datagram τ), isPositionFor (hw j) m = true → isPositionFor (hw k) m = true →
      j = k) := by
  have hconfig := h.config hid
  have hmac : ∀ j, (devices' j).config.getMacAddressAsByte = hw j := fun j =>
    getMacAddressAsByte_getInterfaceMAC (by rw [hconfig, withPosition_macAddress, hid])
  refine ⟨hconfig, fun j i m hm => ?_, fun j i m hm hne => ?_, fun j k m hj hk => ?_⟩
  · obtain ⟨pkt, htype, hdec, hcheck⟩ := checkCommandPacket_of_isPacket (builds j) i (devices' j) hm
    rw [hcheck, handlePacket_discovery _ i _ htype]
    refine ⟨_, rfl, hdec.source, take_sendPacket _ _ _, ?_⟩
    exact (sendPacket_mac _ _ rfl).trans (congrArg List.ofFn (hmac j))
  · obtain ⟨pkt, htype, hdec, hcheck⟩ := checkCommandPacket_of_isPacket (builds j) i (devices' j) hm
    have hfield : pkt.mac = macField m := hdec.mac htype
    rw [hcheck, handlePacket_sendGps_mismatch _ i _ htype]
    rw [hmac, hfield]
    exact Ne.symm hne
  · have hjm := ((isPositionFor_iff _ m).1 hj).2
    have hkm := ((isPositionFor_iff _ m).1 hk).2
    exact hdistinct (hjm.symm.trans hkm)

def gpsPacket (mac : Fin 6 → Byte) : Datagram Unit where
  src := 0xC0A80002
  port := 40000
  data := magic ++ [PacketType.SENDGPS.toByte] ++ List.ofFn mac ++
    ([0x42, 0x26, 0, 0, 0x41, 0x48, 0, 0] ++ List.replicate 232 0)
  tag := ()

theorem position_addressed_pair :
    let hw : Bool → Fin 6 → Byte := fun j => ![0xB8, 0x27, 0xEB, 0, 0, if j then 1 else 2]
    let devices : Bool → Device 32 ℚ := fun j =>
      { config := ⟨Utils.getInterfaceMAC (some (hw j)), 0, 0⟩, file := none, writable := true
        log := ⟨0, false⟩, ntp := NTP.init, baseUrl := [], trace := ⟨false, 0⟩
        seismometer := ⟨⟨0, 0, 0, 1, 3⟩, true, false, 0, 0, 0, 0⟩, status := .running }
    let e : Delivered Bool 32 Unit := ⟨true, calmInput, gpsPacket (hw true)⟩
    let devices' := deliver (fun _ => ⟨.raspi, false⟩) devices e
    ((devices' true).config.lat, (devices' true).config.lon) = (83 / 2, 25 / 2) ∧
      ((devices' false).config.lat, (devices' false).config.lon) = (0, 0) := by
  intro hw devices e devices'
  have hrun : PositionRun (fun _ => ⟨.raspi, false⟩) devices [e] devices' :=
    .cons (fun _ => rfl) (.nil _)
  have h := (position_addressed (show Function.Injective hw by decide) (fun _ => rfl) hrun).1
  rw [h true, h false]
  decide +kernel

end Terremoti
