import Terremoti.Core
import Terremoti.NtpRecover
import Terremoti.SeismoEvents

/-!
# The UNIX time between two syncs (`NTP::getUNIXTime`)

`getUNIXTime` subtracts a 32-bit counter from an `unsigned long`. Where that has 32 bits the
difference is the elapsed time; where it is wider, it is so only until the counter wraps
(`getUNIXTime_read`). `getUNIXTime_iff` is the exact condition, with what it means for the
timestamps of two alerts.
-/

namespace Terremoti
namespace NTP

variable {w tw : ℕ} {τ : Type}

/-- What `getUNIXTime` takes for the elapsed milliseconds, `d` of them after the counter showed
`u`. -/
def elapsed (w : ℕ) (u : BitVec 32) (d : ℕ) : ℕ :=
  if u.toNat + d < 2 ^ 32 then d else d + (2 ^ w - 2 ^ 32)

theorem elapsed_lt (hw : 32 ≤ w) (u : BitVec 32) {d : ℕ} (hd : d < 2 ^ 32) :
    elapsed w u d < 2 ^ w := by
  have hpow : 2 ^ 32 ≤ 2 ^ w := Nat.pow_le_pow_right (by decide) hw
  unfold elapsed
  split <;> omega

theorem elapsed_div_eq_iff (hw : 32 ≤ w) (u : BitVec 32) (d : ℕ) :
    elapsed w u d / 1000 = d / 1000 ↔ w = 32 ∨ u.toNat + d < 2 ^ 32 := by
  unfold elapsed
  split
  · rename_i hsum
    exact iff_of_true rfl (.inr hsum)
  · rename_i hsum
    rcases hw.eq_or_lt with rfl | hlt
    · exact iff_of_true rfl (.inl rfl)
    · have hpow : 2 ^ 33 ≤ 2 ^ w := Nat.pow_le_pow_right (by decide) hlt
      refine iff_of_false (by omega) (by omega)

theorem getUNIXTime_read (hw : 32 ≤ w) {n : NTP w} {u : BitVec 32}
    (hupdate : n.unixTimeUpdate = u.setWidth w) {d : ℕ} (hd : d < 2 ^ 32) :
    n.getUNIXTime (Counter.read u d) =
      BitVec.ofInt w n.unixTimeTS + BitVec.ofNat w (elapsed w u d / 1000) := by
  have hpow : 2 ^ 32 ≤ 2 ^ w := Nat.pow_le_pow_right (by decide) hw
  have hdiff : (((Counter.read u d).setWidth w : BitVec w) - u.setWidth w).toNat = elapsed w u d :=
    Counter.toNat_setWidth_read_sub hw u hd
  have h1000 : (1000 : BitVec w).toNat = 1000 :=
    (BitVec.toNat_ofNat 1000 w).trans (Nat.mod_eq_of_lt (by omega))
  have hdiv : elapsed w u d / 1000 < 2 ^ w := (Nat.div_le_self _ _).trans_lt (elapsed_lt hw u hd)
  rw [getUNIXTime, hupdate]
  congr 1
  apply BitVec.eq_of_toNat_eq
  rw [BitVec.toNat_udiv, hdiff, h1000, BitVec.toNat_ofNat, Nat.mod_eq_of_lt hdiv]

theorem getUNIXTime_eq_iff (hw : 32 ≤ w) {n : NTP w} {u : BitVec 32}
    (hupdate : n.unixTimeUpdate = u.setWidth w) {d : ℕ} (hd : d < 2 ^ 32) :
    n.getUNIXTime (Counter.read u d) = BitVec.ofInt w (n.unixTimeTS + (d / 1000 : ℕ)) ↔
      w = 32 ∨ u.toNat + d < 2 ^ 32 := by
  have hpow : 2 ^ 32 ≤ 2 ^ w := Nat.pow_le_pow_right (by decide) hw
  have hlt := elapsed_lt hw u hd
  have hnat : BitVec.ofInt w (d / 1000 : ℕ) = BitVec.ofNat w (d / 1000) := BitVec.ofInt_natCast w _
  rw [getUNIXTime_read hw hupdate hd, BitVec.ofInt_add, hnat, BitVec.add_right_inj,
    ← elapsed_div_eq_iff hw u d]
  constructor
  · intro h
    have htoNat := congrArg BitVec.toNat h
    rwa [BitVec.toNat_ofNat, BitVec.toNat_ofNat, Nat.mod_eq_of_lt (by omega),
      Nat.mod_eq_of_lt (by omega)] at htoNat
  · intro h
    rw [h]

theorem hton64_foldl_lt (ps : List Byte) {aux : BitVec 64} {k : ℕ} (haux : aux.toNat < 2 ^ k)
    (hk : k + 8 * ps.length ≤ 64) :
    (ps.foldl (fun (aux : BitVec 64) p => aux <<< 8 ||| p.setWidth 64) aux).toNat <
      2 ^ (k + 8 * ps.length) := by
  induction ps generalizing aux k with
  | nil => simpa using haux
  | cons p ps ih =>
    rw [List.length_cons] at hk ⊢
    have hshift : (aux <<< 8).toNat < 2 ^ (k + 8) := by
      rw [BitVec.toNat_shiftLeft, Nat.shiftLeft_eq, pow_add]
      exact (Nat.mod_le _ _).trans_lt (Nat.mul_lt_mul_of_pos_right haux (by decide))
    have hbyte : (p.setWidth 64).toNat < 2 ^ (k + 8) := by
      have hpow : 2 ^ 8 ≤ 2 ^ (k + 8) := Nat.pow_le_pow_right (by decide) (by omega)
      have hp := p.isLt
      rw [BitVec.toNat_setWidth, Nat.mod_eq_of_lt (by omega)]
      omega
    have hor : (aux <<< 8 ||| p.setWidth 64).toNat < 2 ^ (k + 8) := by
      rw [BitVec.toNat_or]
      exact Nat.or_lt_two_pow hshift hbyte
    have hrest := ih hor (by omega)
    rwa [show k + 8 + 8 * ps.length = k + 8 * (ps.length + 1) by ring] at hrest

/-- A stored time is before January 2038. -/
theorem epoch_lt (htw : tw = 32 ∨ tw = 64) (packet : List Byte) : epoch tw packet < 2 ^ 31 := by
  rcases htw with rfl | rfl
  · exact BitVec.toInt_lt
  · have hseconds : (Utils.hton64 (packet.drop 40)).toNat < 2 ^ 32 := by
      have hlen := List.length_take_le 4 (packet.drop 40)
      have haux : (0 : BitVec 64).toNat < 2 ^ 0 := by decide
      have hlt := hton64_foldl_lt ((packet.drop 40).take 4) haux (by omega)
      exact hlt.trans_le (Nat.pow_le_pow_right (by decide) (by omega))
    rw [epoch, BitVec.setWidth_eq, BitVec.toInt_eq_toNat_cond, JAN_1970]
    split <;> bv_omega

end NTP

/-- The timestamp of an alert is what `getUNIXTime` gave when the tick began. -/
theorem Core.alert_ts {w : ℕ} {D τ : Type} [Double D] (c : Core w D τ) (i : LoopInput w D τ)
    {db : RECORD w D} (h : db ∈ Seismometer.alerts (c.tick i).2) :
    db.ts = c.device.ntp.getUNIXTime i.ts := by
  let input : TickInput w D := ⟨c.device.ntp.getUNIXTime i.ts, i.accel, i.clock⟩
  have halerts : db ∈ Seismometer.alerts (c.device.seismometer.tick input).2 := h
  cases haccel : c.device.seismometer.accelero with
  | false =>
    rw [Seismometer.tick, if_pos haccel] at halerts
    cases halerts
  | true =>
    rcases Seismometer.tick_event input haccel with
      ⟨-, -, -, -, hal⟩ | ⟨-, ⟨-, -, -, hal⟩ | ⟨-, -, hal⟩⟩
    · rw [hal] at halerts
      cases halerts
    · rw [hal, List.mem_singleton] at halerts
      rw [halerts]
      rfl
    · rw [hal] at halerts
      cases halerts

/-- No sync since the one that left `n`. -/
structure Core.Synced {w : ℕ} {D τ : Type} (n : NTP w) (c : Core w D τ) : Prop where
  unixTimeTS : c.device.ntp.unixTimeTS = n.unixTimeTS
  unixTimeUpdate : c.device.ntp.unixTimeUpdate = n.unixTimeUpdate

theorem Core.Synced.alert_ts {w : ℕ} {D τ : Type} [Double D] {n : NTP w} {c : Core w D τ}
    (hc : c.Synced n) {i : LoopInput w D τ} {db : RECORD w D}
    (h : db ∈ Seismometer.alerts (c.tick i).2) : db.ts = n.getUNIXTime i.ts := by
  rw [Core.alert_ts c i h, NTP.getUNIXTime, hc.unixTimeTS, hc.unixTimeUpdate]
  rfl

/-- `d` milliseconds after a sync has stored the time `E` with the counter at `u`, `getUNIXTime`
returns `E` and the seconds of `d`, exactly if `unsigned long` has the 32 bits of the counter or the
counter has not wrapped. Then the timestamps of any two alerts since the sync are as far apart as
the seconds of the ticks. -/
theorem getUNIXTime_iff {w tw : ℕ} {D τ : Type} [Double D] (hw : 32 ≤ w) (htw : tw = 32 ∨ tw = 64)
    (packet : List Byte) (tag : τ) (u : BitVec 32) (x : Sync w τ) :
    let n := (NTP.store tw packet tag u x).ntp
    let E := NTP.epoch tw packet
    (∀ d < 2 ^ 32, n.getUNIXTime (Counter.read u d) = BitVec.ofInt w (E + (d / 1000 : ℕ)) ↔
      w = 32 ∨ u.toNat + d < 2 ^ 32) ∧
    ∀ d d', d ≤ d' → d' < 2 ^ 32 → (w = 32 ∨ u.toNat + d' < 2 ^ 32) → NTP.coherentTime ≤ E →
      ∀ (c c' : Core w D τ) (i i' : LoopInput w D τ) (db db' : RECORD w D),
        c.Synced n → c'.Synced n → i.ts = Counter.read u d → i'.ts = Counter.read u d' →
        db ∈ Seismometer.alerts (c.tick i).2 → db' ∈ Seismometer.alerts (c'.tick i').2 →
        (db.ts.toNat : ℤ) = E + (d / 1000 : ℕ) ∧
          db'.ts.toNat = db.ts.toNat + (d' / 1000 - d / 1000) := by
  intro n E
  have hiff : ∀ d < 2 ^ 32,
      n.getUNIXTime (Counter.read u d) = BitVec.ofInt w (E + (d / 1000 : ℕ)) ↔
        w = 32 ∨ u.toNat + d < 2 ^ 32 := fun d hd => NTP.getUNIXTime_eq_iff hw rfl hd
  refine ⟨hiff, fun d d' hle hd' hwrap hE c c' i i' db db' hc hc' hi hi' hdb hdb' => ?_⟩
  have hElt : E < 2 ^ 31 := NTP.epoch_lt htw packet
  have hpow : 2 ^ 32 ≤ 2 ^ w := Nat.pow_le_pow_right (by decide) hw
  have hcoherent : NTP.coherentTime = 1437648361 := rfl
  -- no sum overflows: `E` is before 2038 and the counter turns in 50 days
  have hvalue : ∀ k < 2 ^ 32, (w = 32 ∨ u.toNat + k < 2 ^ 32) →
      ((n.getUNIXTime (Counter.read u k)).toNat : ℤ) = E + (k / 1000 : ℕ) := by
    intro k hk hkw
    rw [(hiff k hk).2 hkw, BitVec.toNat_ofInt, Int.toNat_of_nonneg (Int.emod_nonneg _ (by positivity)),
      Int.emod_eq_of_lt (by omega)]
    have hcast : ((2 ^ w : ℕ) : ℤ) = 2 ^ w := by push_cast; rfl
    omega
  have hts := hvalue d (by omega) (hwrap.imp_right (by omega))
  have hts' := hvalue d' hd' hwrap
  rw [hc.alert_ts hdb, hc'.alert_ts hdb', hi, hi']
  exact ⟨hts, by omega⟩

/-- A 64-bit build, synced one second before the counter wraps. -/
theorem getUNIXTime_wrapped :
    let x : Sync 64 Unit := { ntp := NTP.init, queue := [] }
    let u : BitVec 32 := BitVec.ofNat 32 (2 ^ 32 - 1000)
    let packet := (NTP.serverReply 3708988800 ()).data
    let n := (NTP.store 64 packet () u x).ntp
    NTP.epoch 64 packet = 1500000000 ∧
      n.getUNIXTime (Counter.read u 999) = 1500000000 ∧
      n.getUNIXTime (Counter.read u 1000) = 18446745569414585 ∧
      n.getUNIXTime (Counter.read u 1000) ≠ BitVec.ofInt 64 (1500000000 + (1000 / 1000 : ℕ)) := by
  decide +kernel

theorem getUNIXTime_iff_raspi :
    let x : Sync 32 Unit := { ntp := NTP.init, queue := [] }
    let u : BitVec 32 := BitVec.ofNat 32 (2 ^ 32 - 1000)
    let packet := (NTP.serverReply 3708988800 ()).data
    (NTP.store 32 packet () u x).ntp.getUNIXTime (Counter.read u 1000) = 1500000001 := by
  intro x u packet
  have h := ((getUNIXTime_iff (D := ℝ) (le_refl 32) (.inl rfl) packet () u x).1 1000
    (by decide)).2 (.inl rfl)
  rw [h]
  decide +kernel

end Terremoti
