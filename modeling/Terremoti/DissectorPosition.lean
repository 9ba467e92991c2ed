import Terremoti.CmdPosition
import Terremoti.Dissector
import Terremoti.PowerLoss

/-!
# A position as the dissector shows it (`seismocloud.lua`)

The dissector computes the coordinates of a `SENDGPS` packet with an arithmetic of its own,
`hex2float`, which takes a subnormal single for a normal one. Of every packet that sets the position
of a device it shows the numbers the device takes, but for these (`position_shown_iff`).
-/

namespace Terremoti

theorem PacketType.toByte_ofByte (b : Byte) : (PacketType.ofByte b).toByte = b := by
  unfold ofByte
  split <;> rfl

/-- A number of Lua, a zero without its sign. -/
inductive LuaNumber
  | finite (q : ℚ)
  | huge (neg : Bool)
  | nan

namespace Seismoproto

/-- A character for every two digits. -/
def chars : List ℕ → List ℕ
  | d :: d' :: ds => (16 * d + d') :: chars ds
  | _ => []

/-- `hex2float`, of a number of 32 bits. -/
def hex2float (c : ℕ) : LuaNumber :=
  if c = 0 then .finite 0 else
  let bytes := chars (Digits.fixed 16 8 c)
  let b1 := bytes.getD 0 0
  let b2 := bytes.getD 1 0
  let b3 := bytes.getD 2 0
  let b4 := bytes.getD 3 0
  let neg := decide (b1 > 0x7F)
  let expo := b1 % 0x80 * 0x2 + b2 / 0x80
  let mant := (b2 % 0x80 * 0x100 + b3) * 0x100 + b4
  if mant = 0 ∧ expo = 0 then .finite 0
  else if expo = 0xFF then if mant = 0 then .huge neg else .nan
  else .finite ((if neg then -1 else 1) * ((1 + mant / 0x800000) * 2 ^ ((expo : ℤ) - 0x7F)))

/-- The number shown of the four bytes from `i` on. -/
def shownFloat (buffer : List Byte) (i : ℕ) : LuaNumber :=
  hex2float ((buffer.getD i 0).toNat * 16777216 + (buffer.getD (i + 1) 0).toNat * 65536 +
    (buffer.getD (i + 2) 0).toNat * 256 + (buffer.getD (i + 3) 0).toNat)

/-! ### The parts of a single -/

def expo (bits : BitVec 32) : ℕ := (bits.extractLsb' 23 8).toNat

def mant (bits : BitVec 32) : ℕ := (bits.extractLsb' 0 23).toNat

theorem chars_fixed (c : ℕ) : chars (Digits.fixed 16 8 c) =
    [c / 2 ^ 24 % 256, c / 2 ^ 16 % 256, c / 2 ^ 8 % 256, c % 256] := by
  simp only [Digits.fixed, List.nil_append, List.cons_append, chars, List.cons.injEq, and_true]
  omega

theorem hex2float_eq (bits : BitVec 32) : hex2float bits.toNat =
    if mant bits = 0 ∧ expo bits = 0 then .finite 0
    else if expo bits = 0xFF then if mant bits = 0 then .huge bits.msb else .nan
    else .finite ((if bits.msb then -1 else 1) *
      ((1 + mant bits / 0x800000) * 2 ^ ((expo bits : ℤ) - 0x7F))) := by
  have hlt := bits.isLt
  have hexpo : expo bits = bits.toNat / 2 ^ 23 % 256 := by
    rw [expo, BitVec.extractLsb'_toNat, Nat.shiftRight_eq_div_pow]
  have hmant : mant bits = bits.toNat % 2 ^ 23 := by
    rw [mant, BitVec.extractLsb'_toNat, Nat.shiftRight_zero]
  have hmsb : bits.msb = decide (2 ^ 31 ≤ bits.toNat) := by
    rw [BitVec.msb_eq_decide]
  rw [hexpo, hmant, hmsb, hex2float, chars_fixed]
  generalize bits.toNat = c at hlt
  simp only [List.getD_cons_zero, List.getD_cons_succ]
  have hneg : (c / 2 ^ 24 % 256 > 0x7F) = (2 ^ 31 ≤ c) := by rw [eq_iff_iff]; omega
  have hexp : c / 2 ^ 24 % 256 % 0x80 * 0x2 + c / 2 ^ 16 % 256 / 0x80 = c / 2 ^ 23 % 256 := by omega
  have hman : (c / 2 ^ 16 % 256 % 0x80 * 0x100 + c / 2 ^ 8 % 256) * 0x100 + c % 256 =
      c % 2 ^ 23 := by omega
  simp only [hneg, hexp, hman]
  by_cases hc : c = 0
  · rw [if_pos hc, if_pos (by omega)]
  · rw [if_neg hc]

theorem toNat_append_byte {n : ℕ} (x : BitVec n) (y : Byte) :
    (x ++ y).toNat = x.toNat * 256 + y.toNat := by
  rw [BitVec.toNat_append, ← Nat.shiftLeft_add_eq_or_of_lt y.isLt, Nat.shiftLeft_eq]

theorem shownFloat_eq (buffer : List Byte) (i : ℕ) :
    shownFloat buffer i = hex2float (Utils.singleAt buffer i).toNat := by
  have hvalue : (Utils.singleAt buffer i).toNat =
      (buffer.getD i 0).toNat * 16777216 + (buffer.getD (i + 1) 0).toNat * 65536 +
        (buffer.getD (i + 2) 0).toNat * 256 + (buffer.getD (i + 3) 0).toNat := by
    rw [Utils.singleAt, toNat_append_byte, toNat_append_byte, toNat_append_byte]
    ring
  rw [hvalue, shownFloat]

/-- The single is not zero and has the exponent of a zero. -/
def Subnormal (bits : BitVec 32) : Prop := expo bits = 0 ∧ mant bits ≠ 0

/-- The fraction in units of the last place. -/
theorem ldexp_eq (f : ℚ) (e : ℤ) :
    (1 + f / 0x800000) * 2 ^ (e - 0x7F) = (2 ^ 23 + f) * 2 ^ (e - 150) := by
  have hpow : (2 : ℚ) ^ (e - 0x7F) = 2 ^ (e - 150) * 2 ^ (23 : ℤ) := by
    rw [← zpow_add₀ two_ne_zero]
    congr 1
    ring
  rw [hpow]
  norm_num
  ring

theorem ofFloatRat_eq (bits : BitVec 32) : ofFloatRat bits = (if bits.msb then -1 else 1) *
    (if expo bits = 255 then 0 else if expo bits = 0 then (mant bits : ℚ) * 2 ^ (-149 : ℤ)
      else (2 ^ 23 + (mant bits : ℚ)) * 2 ^ ((expo bits : ℤ) - 150)) := by
  simp only [ofFloatRat, expo, mant]
  cases bits.msb with
  | false => rw [if_neg Bool.false_ne_true, if_neg Bool.false_ne_true, one_mul]; rfl
  | true => rw [if_pos rfl, if_pos rfl, neg_one_mul]; rfl

theorem hex2float_eq_iff {bits : BitVec 32} (hfinite : expo bits ≠ 255) :
    hex2float bits.toNat = .finite (ofFloatRat bits) ↔ ¬ Subnormal bits := by
  have hmant : mant bits < 2 ^ 23 := (bits.extractLsb' 0 23).isLt
  have hsign : (if bits.msb then -1 else 1 : ℚ) ≠ 0 := by split <;> norm_num
  rw [hex2float_eq, ofFloatRat_eq, Subnormal, if_neg hfinite, if_neg hfinite]
  by_cases hzero : expo bits = 0
  · by_cases hnull : mant bits = 0
    · simp [hzero, hnull]
    · -- the leading one of a normal single is half a fraction too many
      rw [if_neg fun h => hnull h.1, if_pos hzero, ldexp_eq, hzero, LuaNumber.finite.injEq,
        mul_right_inj' hsign]
      have hpow : (2 : ℚ) ^ (-149 : ℤ) = 2 * 2 ^ (((0 : ℕ) : ℤ) - 150) := by norm_num
      rw [hpow, ← mul_assoc, mul_left_inj' (by positivity)]
      refine ⟨fun h => absurd hmant (Nat.not_lt.2 (le_of_eq ?_)), fun h => absurd ⟨rfl, hnull⟩ h⟩
      exact_mod_cast (by linarith : (2 ^ 23 : ℚ) = mant bits)
  · rw [if_neg fun h => hzero h.2, if_neg hzero, ldexp_eq]
    simp [hzero]

/-- What is shown of a `SENDGPS` packet. -/
theorem dissector_of_sendGps {buffer : List Byte} (hlen : PACKET_SIZE ≤ buffer.length)
    (hmagic : buffer.take 5 = magic) (hcmd : buffer.getD 5 0 = 7) :
    dissector buffer = some [(.magicBytes, 0, 5), (.command, 5, 1), (.destMacAddress, 6, 6),
      (.gpsLatitude, 12, 4), (.gpsLongitude, 16, 4)] := by
  have hsize : ∀ k ≤ 20, k ≤ buffer.length := fun k hk =>
    (hk.trans (show 20 ≤ PACKET_SIZE by decide)).trans hlen
  have htake : buffer.take 4 = str "INGV" := by
    have htake := congrArg (List.take 4) hmagic
    rwa [List.take_take] at htake
  have hhead : addItems buffer [(.magicBytes, 5), (.command, 1)] 0 =
      some ([(.magicBytes, 0, 5), (.command, 5, 1)], 6) := by
    simp [addItems, hsize]
  have hitems : addItems buffer [(.destMacAddress, 6), (.gpsLatitude, 4), (.gpsLongitude, 4)] 6 =
      some ([(.destMacAddress, 6, 6), (.gpsLatitude, 12, 4), (.gpsLongitude, 16, 4)], 20) := by
    simp [addItems, hsize]
  rw [dissector, if_neg (Nat.not_lt.2 (hsize 4 (by omega))), if_pos htake, hhead, hcmd]
  simp [hitems]

end Seismoproto

variable {w : ℕ} {τ : Type}

open Seismoproto

/-- A packet that sets the position of a device is shown with a latitude and a longitude, and each
is the number the device takes unless it is subnormal. -/
theorem position_shown_iff (b : Build) (i : CommandInput w) {d : Device w ℚ} {m : Datagram τ}
    (hm : isPositionFor d.config.getMacAddressAsByte m = true)
    (hlat : expo (Utils.singleAt m.data 12) ≠ 255) (hlon : expo (Utils.singleAt m.data 16) ≠ 255) :
    let config := (checkCommandPacket b i d [m]).1.config
    (∃ items, dissector m.data = some items ∧
      (.gpsLatitude, 12, 4) ∈ items ∧ (.gpsLongitude, 16, 4) ∈ items) ∧
    (shownFloat m.data 12 = .finite config.lat ↔ ¬ Subnormal (Utils.singleAt m.data 12)) ∧
    (shownFloat m.data 16 = .finite config.lon ↔ ¬ Subnormal (Utils.singleAt m.data 16)) := by
  have hconfig := checkCommandPacket_config b i rfl m (d := d)
  have hpacket := ((isPositionFor_iff _ m).1 hm).1
  rw [if_pos hm] at hconfig
  intro config
  rw [show config = _ from hconfig, shownFloat_eq, shownFloat_eq]
  have hcmd : m.data.getD 5 0 = PacketType.SENDGPS.toByte := by
    rw [← hpacket.type, PacketType.toByte_ofByte]
  exact ⟨⟨_, dissector_of_sendGps hpacket.size hpacket.magic hcmd, by simp, by simp⟩,
    hex2float_eq_iff hlat, hex2float_eq_iff hlon⟩

/-- Two packets for one device: the position of the first is shown as it is taken; the latitude of
the second is the smallest single above zero. -/
theorem position_shown_subnormal :
    let hw : Fin 6 → Byte := ![2, 4, 6, 8, 10, 12]
    let d := placedDevice (3 / 2 : ℚ) (5 / 2)
    let least : Datagram Unit := { gpsPacket hw with
      data := (gpsPacket hw).data.take 12 ++ [0, 0, 0, 1] ++ (gpsPacket hw).data.drop 16 }
    let config := (checkCommandPacket ⟨.raspi, false⟩ calmInput d [gpsPacket hw]).1.config
    let config' := (checkCommandPacket ⟨.raspi, false⟩ calmInput d [least]).1.config
    shownFloat (gpsPacket hw).data 12 = .finite config.lat ∧
      shownFloat least.data 12 ≠ .finite config'.lat ∧
      shownFloat least.data 16 = .finite config'.lon := by
  intro hw d least config config'
  have hmac : d.config.getMacAddressAsByte = hw := by decide +kernel
  have hfirst := position_shown_iff ⟨.raspi, false⟩ calmInput (d := d) (m := gpsPacket hw)
    (by rw [hmac]; decide +kernel) (by decide +kernel) (by decide +kernel)
  have hleast := position_shown_iff ⟨.raspi, false⟩ calmInput (d := d) (m := least)
    (by rw [hmac]; decide +kernel) (by decide +kernel) (by decide +kernel)
  refine ⟨hfirst.2.1.2 ?_, fun h => hleast.2.1.1 h ?_, hleast.2.2.2 ?_⟩ <;>
    simp only [Subnormal] <;> decide +kernel

end Terremoti
