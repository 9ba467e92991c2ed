import Terremoti.Descriptors
import Terremoti.Outage

/-!
# Descriptors over a run

What is open after each call of `loop`, from `setup` on: the descriptors stay bounded exactly when
the calls that leak come to an end (`opened_bounded_iff`). A device left to itself loses one with
every network check (`not_bounded_alone`).
-/

namespace Terremoti

/-! ### Runs -/

/-- A run of calls of `loop` after `setup`, which has opened the log and configured an address. It
ends with the first call that does not return. -/
structure FdRun (w : ℕ) (D τ : Type) where
  core : Core w D τ
  fds : Fds
  calls : ℕ → LoopCall w D τ
  owned : fds.Owned
  named : core.device.config.macAddress ≠ []

namespace FdRun
variable {w : ℕ} {D τ : Type} [Double D] [DoubleText D] (b : Build) (tw : ℕ) (r : FdRun w D τ)

def coreAt : ℕ → Core w D τ
  | 0 => r.core
  | n + 1 => ((coreAt n).loop b tw (r.calls n).input (r.calls n).attempts).core

def fdsAt : ℕ → Fds
  | 0 => r.fds
  | n + 1 => (fdsAt n).loop b tw (r.calls n) (r.coreAt b tw n)

def opened (n : ℕ) : ℕ := (r.fdsAt b tw n).opened

def Returns (n : ℕ) : Prop :=
  ((r.coreAt b tw n).loop b tw (r.calls n).input (r.calls n).attempts).returned = true

/-- The first `n` calls return. -/
def Reached (n : ℕ) : Prop := ∀ k < n, r.Returns b tw k

/-- Call `n` handles a `SETSYSLOG` with a server, or checks the network elsewhere than on
`mac-osx`. -/
def Leaks (n : ℕ) : Prop :=
  (r.coreAt b tw n).setsSyslog (r.calls n).input = true ∨
    (r.coreAt b tw n).opensInterface b (r.calls n).input = true

variable {b tw r}

theorem Reached.prev {n : ℕ} (h : r.Reached b tw (n + 1)) : r.Reached b tw n :=
  fun k hk => h k (Nat.lt_succ_of_lt hk)

theorem Reached.invariant {n : ℕ} (h : r.Reached b tw n) :
    (r.fdsAt b tw n).Owned ∧ (r.coreAt b tw n).device.config.macAddress ≠ [] := by
  induction n with
  | zero => exact ⟨r.owned, r.named⟩
  | succ n ih =>
    obtain ⟨howned, hnamed⟩ := ih h.prev
    refine ⟨(Fds.loop_account howned b tw (r.calls n) hnamed).owned, ?_⟩
    rw [coreAt, Core.loop_macAddress]
    exact hnamed

variable (b tw r)

def held (n : ℕ) : ℕ := (r.fdsAt b tw n).held

def leaks (n : ℕ) : ℕ := (r.coreAt b tw n).leaks b (r.calls n).input

theorem ledger :
    Descriptors.Ledger (r.Reached b tw) (r.opened b tw) (r.held b tw) (r.leaks b tw) 1 where
  prev _ h := h.prev
  step n h := by
    obtain ⟨howned, hnamed⟩ := h.prev.invariant
    exact (Fds.loop_account howned b tw (r.calls n) hnamed).opened
  held_le n := (r.fdsAt b tw n).held_le

theorem leaks_ne_zero_iff (n : ℕ) : r.leaks b tw n ≠ 0 ↔ r.Leaks b tw n :=
  Core.leaks_ne_zero_iff b _ _

/-- The descriptors open after the calls of a run are bounded exactly if it has finitely many calls
that leak; without one there is never more than the trace file open besides those of the start. -/
theorem opened_bounded_iff :
    ((∃ B, ∀ n, r.Reached b tw n → r.opened b tw n ≤ B) ↔
      {n | r.Reached b tw (n + 1) ∧ r.Leaks b tw n}.Finite) ∧
    ((∀ n, r.Reached b tw (n + 1) → ¬ r.Leaks b tw n) →
      ∀ n, r.Reached b tw n → r.opened b tw n ≤ r.opened b tw 0 + 1) := by
  constructor
  · rw [(r.ledger b tw).bounded_iff]
    simp only [leaks_ne_zero_iff]
  · intro hnone n hn
    refine (r.ledger b tw).opened_le (fun k hk => ?_) hn
    exact not_not.1 (mt (r.leaks_ne_zero_iff b tw k).1 (hnone k hk))

end FdRun

/-! ### A device left to itself -/

namespace NTP

/-- The reply is there at the first poll. -/
def promptRound (now : BitVec 32) : Round Unit where
  address := 0x0A000001
  responseMill := now
  polls := [⟨now, [serverReply 3708988800 ()], now⟩]

theorem sync_promptRound (now : BitVec 32) {n : NTP 32} (h : n.ntpserver ≠ []) :
    let x := sync 32 n [] [promptRound now]
    x.result = some true ∧ x.queue = [] ∧ x.ntp.ntpserver = n.ntpserver := by
  intro x
  let y : Sync 32 Unit := requested 0x0A000001 { ntp := n, queue := [] }
  let z : Sync 32 Unit := store 32 (serverReply 3708988800 ()).data () now y
  have hwindow : inWindow (now.setWidth 32) ⟨now, [serverReply 3708988800 ()], now⟩ = true := by
    rw [inWindow, decide_eq_true_eq, BitVec.sub_self]
    decide
  have hwait : waitReply 32 (now.setWidth 32) (promptRound now).polls y = (z, true) := by
    rw [promptRound, waitReply, if_pos ⟨rfl, hwindow⟩]
    rfl
  have hclock : epoch 32 (serverReply 3708988800 ()).data = 1500000000 := by decide
  have hcoherent : ¬ z.ntp.unixTimeTS < coherentTime := by
    show ¬ epoch 32 (serverReply 3708988800 ()).data < coherentTime
    rw [hclock]
    decide
  have haddress : ¬ (0x0A000001 : IPaddr) = 0 := by decide
  have hx : x = { z with result := some true } := by
    show sync 32 n [] [⟨0x0A000001, now, (promptRound now).polls⟩] = _
    rw [sync, if_neg h, syncLoop, if_neg haddress]
    dsimp only
    rw [hwait]
    dsimp only
    rw [if_neg (by decide), if_neg hcoherent]
    rfl
  rw [hx]
  exact ⟨rfl, rfl, rfl⟩

end NTP

namespace NetworkManager

/-- The echo is there at the first turn. -/
def promptPing (now : BitVec 32) : PingCalls :=
  ⟨true, true, true, true, 1, true, now, [⟨now, some (0x45 :: List.replicate 83 0), 0⟩]⟩

theorem ping_promptPing {w : ℕ} {address : IPaddr} {waitms : BitVec 32}
    {sequenceNumber : BitVec 16} (now : BitVec 32) (table : Finset ℕ) :
    (ping w address waitms sequenceNumber (promptPing now) table).result ≠ none := by
  rw [ping_result_of_sends ⟨rfl, rfl, rfl, rfl, rfl⟩]
  show (if _ then some true else some false) ≠ none
  split
  · exact Option.some_ne_none true
  · exact Option.some_ne_none false

def promptPings (now : BitVec 32) : Pings := ⟨promptPing now, promptPing now⟩

theorem promptPings_reboots (w : ℕ) (now : BitVec 32) : (promptPings now).reboots w = false := by
  rw [Pings.reboots, promptPings]
  rw [ping_reboot rfl, ping_reboot rfl, Bool.and_false, Bool.or_false]

end NetworkManager

namespace Core
variable {D : Type} [Double D]

/-- A call at `now` in which no command comes and the server cannot be reached. -/
def alone (now : BitVec 32) : LoopCall 32 D Unit where
  input :=
    { beat := ⟨now, now⟩
      watchdogFile := true
      arrived := []
      command := calmInput
      net := ⟨now, now⟩
      mac_address := some fun _ => 0
      pings := NetworkManager.promptPings now
      cfg := ⟨now, now⟩
      resp := ⟨.HTTP_CONNECTION_TIMEOUT, 0, none⟩
      traceStart := now
      ntp := ⟨now, now⟩
      seismo := ⟨now, now⟩
      ts := now
      accel := (0 : ℕ)
      traceTest := now
      clock := ⟨now, now, now, now, now⟩
      rotation := now }
  attempts := [[NTP.promptRound now]]
  answers := ⟨false, false, false, 0, 0⟩

/-- Running, with nothing to read and a time server to ask. -/
structure Idle (c : Core 32 ℝ Unit) : Prop where
  commands : c.commands = []
  replies : c.replies = []
  running : c.device.status = .running
  ntpserver : c.device.ntp.ntpserver ≠ []

/-- There is no heartbeat on the Raspberry Pi. -/
theorem heartBeat_raspi {w : ℕ} {D τ : Type} (debug : Bool) (i : LoopInput w D τ)
    (c : Core w D τ) : c.heartBeat ⟨.raspi, debug⟩ i = c := if_neg fun h => nomatch h.1

section Idle
variable {c : Core 32 ℝ Unit} (now : BitVec 32)

theorem Idle.checkCommand (h : c.Idle) :
    c.checkCommand ⟨.raspi, false⟩ (alone now).input = c := by
  have hqueue : c.commands ++ [] = [] := by rw [h.commands]; rfl
  unfold Core.checkCommand
  rw [show c.commands ++ (alone (D := ℝ) now).input.arrived = [] from hqueue]
  show { c with sent := c.sent ++ [], commands := [] } = c
  rw [List.append_nil, ← h.commands]

theorem Idle.checkNetwork {now : BitVec 32} (h : c.Idle)
    (hdue : due now c.netLastMs CHECK_NETWORK_INTERVAL = true) :
    (c.checkNetwork (alone now).input).Idle ∧
      (c.checkNetwork (alone now).input).netLastMs = now := by
  have hmac : Utils.getInterfaceMAC (some fun _ => 0) ≠ [] := by decide
  obtain ⟨r, hr⟩ := NetworkManager.isConnectedToInternet_returns ∅
    (NetworkManager.ping_promptPing (w := 32) now) (NetworkManager.ping_promptPing now)
  rw [checkNetwork_of_due (i := (alone now).input) hdue hmac
    (NetworkManager.promptPings_reboots 32 now) hr]
  exact ⟨⟨h.commands, h.replies, h.running, h.ntpserver⟩, BitVec.setWidth_eq now⟩

theorem Idle.checkConfig (h : c.Idle) :
    (c.checkConfig ⟨.raspi, false⟩ (alone now).input).Idle ∧
      (c.checkConfig ⟨.raspi, false⟩ (alone now).input).netLastMs = c.netLastMs := by
  unfold Core.checkConfig
  split
  · exact ⟨⟨h.commands, h.replies, h.running, h.ntpserver⟩, rfl⟩
  · exact ⟨h, rfl⟩

theorem Idle.beforeSync {now : BitVec 32} (h : c.Idle)
    (hdue : due now c.netLastMs CHECK_NETWORK_INTERVAL = true) :
    (c.beforeSync ⟨.raspi, false⟩ (alone now).input).Idle ∧
      (c.beforeSync ⟨.raspi, false⟩ (alone now).input).netLastMs = now := by
  obtain ⟨hnet, hnow⟩ := h.checkNetwork hdue
  obtain ⟨hconfig, hkept⟩ := hnet.checkConfig now
  rw [Core.beforeSync, heartBeat_raspi, andThen, andThen, andThen, if_pos h.running,
    h.checkCommand now, if_pos h.running, if_pos hnet.running]
  exact ⟨hconfig, hkept.trans hnow⟩

theorem Idle.resync (h : c.Idle) :
    (c.resync 32 (alone now).input [[NTP.promptRound now]]).returned = true ∧
      (c.resync 32 (alone now).input [[NTP.promptRound now]]).state.Idle ∧
      (c.resync 32 (alone now).input [[NTP.promptRound now]]).state.netLastMs = c.netLastMs := by
  obtain ⟨hresult, hqueue, hserver⟩ := NTP.sync_promptRound now h.ntpserver
  have hsync : c.sync 32 [NTP.promptRound now] =
      ((c.sync 32 [NTP.promptRound now]).1, some true) := by
    refine Prod.ext rfl ?_
    show (NTP.sync 32 c.device.ntp c.replies [NTP.promptRound now]).result = some true
    rw [h.replies]
    exact hresult
  have hidle : (c.sync 32 [NTP.promptRound now]).1.Idle := by
    refine ⟨h.commands, ?_, h.running, ?_⟩
    · show (NTP.sync 32 c.device.ntp c.replies [NTP.promptRound now]).queue = []
      rw [h.replies]
      exact hqueue
    · show (NTP.sync 32 c.device.ntp c.replies [NTP.promptRound now]).ntp.ntpserver ≠ []
      rw [h.replies, hserver]
      exact h.ntpserver
  have hrun : Retry.run (sync 32) [[NTP.promptRound now]] c =
      ⟨(c.sync 32 [NTP.promptRound now]).1, 1, true⟩ := by
    rw [Retry.run, hsync]
  unfold Core.resync
  split
  · rw [hrun]
    exact ⟨rfl, ⟨hidle.commands, hidle.replies, hidle.running, hidle.ntpserver⟩, rfl⟩
  · exact ⟨rfl, h, rfl⟩

theorem Idle.finish (h : c.Idle) (syncs : ℕ) :
    (c.finish (alone now).input syncs).core.Idle ∧
      (c.finish (alone now).input syncs).core.netLastMs = c.netLastMs := by
  rcases finish_cases (alone now).input syncs c with ⟨-, hr⟩ | ⟨-, hr⟩ | ⟨-, hwaits, -⟩
  · rw [hr]
    exact ⟨h, rfl⟩
  · rw [hr]
    exact ⟨⟨h.commands, h.replies, h.running, h.ntpserver⟩, rfl⟩
  · rcases hwaits with hwaits | hwaits <;> cases hwaits

/-- A call in which the network check is due. -/
theorem Idle.loop {now : BitVec 32} (h : c.Idle)
    (hdue : due now c.netLastMs CHECK_NETWORK_INTERVAL = true) :
    let t := c.loop ⟨.raspi, false⟩ 32 (alone now).input [[NTP.promptRound now]]
    t.returned = true ∧ t.core.Idle ∧ t.core.netLastMs = now := by
  intro t
  obtain ⟨hbefore, hnow⟩ := h.beforeSync hdue
  let r := (c.beforeSync ⟨.raspi, false⟩ (alone now).input).resync 32 (alone now).input
    [[NTP.promptRound now]]
  have hsynced : r.returned = true ∧ r.state.Idle ∧ r.state.netLastMs = _ :=
    hbefore.resync now
  obtain ⟨hreturned, hidle, hkept⟩ := hsynced
  have ht : t = r.state.finish (alone now).input r.calls := by
    show c.loop _ _ _ _ = _
    unfold Core.loop
    dsimp only
    rw [if_neg (not_not.2 hbefore.running), if_pos hreturned]
  obtain ⟨hfinish, hfinishNow⟩ := hidle.finish now r.calls
  rw [ht]
  exact ⟨(finish_complete rfl rfl _ _).returned, hfinish, hfinishNow.trans (hkept.trans hnow)⟩

end Idle

/-- A device that has been set up, its checks done at 0. -/
def rested : Core 32 D Unit where
  device := { Device.init with config := ⟨str "b827eb000001", (41 : ℕ), (12 : ℕ)⟩ }
  commands := []
  replies := []
  lastBeat := 0
  netLastMs := 0
  cfgLastMs := 0
  ntpLastMs := 0
  seismoLastMs := 0
  logRotationMs := 0

end Core

/-- The clock, 30 seconds apart. -/
def checkedAt (n : ℕ) : BitVec 32 := BitVec.ofNat 32 (30000 * n)

/-- A network check every 30 seconds. Open at the start are the standard descriptors, the log and
the two sockets. -/
def FdRun.alone {D : Type} [Double D] : FdRun 32 D Unit where
  core := Core.rested
  fds := ⟨{0, 1, 2, 3, 4, 5}, some 3, none, 0⟩
  calls n := Core.alone (checkedAt (n + 1))
  owned := ⟨by decide, ⟨3, by decide, rfl⟩, fun _ h => by cases h⟩
  named := fun h => by cases h

namespace FdRun

theorem due_checkedAt (n : ℕ) :
    due (checkedAt (n + 1)) (checkedAt n) CHECK_NETWORK_INTERVAL = true := by
  have hdiff : (checkedAt (n + 1)).setWidth 32 - checkedAt n = BitVec.ofNat 32 30000 := by
    rw [BitVec.setWidth_eq, checkedAt, checkedAt, Nat.mul_succ, BitVec.ofNat_add, BitVec.add_comm,
      BitVec.add_sub_cancel]
  rw [due, hdiff]
  decide

theorem coreAt_alone_succ (n : ℕ) : (alone : FdRun 32 ℝ Unit).coreAt ⟨.raspi, false⟩ 32 (n + 1) =
    (((alone : FdRun 32 ℝ Unit).coreAt ⟨.raspi, false⟩ 32 n).loop ⟨.raspi, false⟩ 32
      (Core.alone (checkedAt (n + 1))).input [[NTP.promptRound (checkedAt (n + 1))]]).core := by
  rw [coreAt]
  rfl

theorem coreAt_alone (n : ℕ) :
    ((alone : FdRun 32 ℝ Unit).coreAt ⟨.raspi, false⟩ 32 n).Idle ∧
      ((alone : FdRun 32 ℝ Unit).coreAt ⟨.raspi, false⟩ 32 n).netLastMs = checkedAt n := by
  induction n with
  | zero => exact ⟨⟨rfl, rfl, rfl, fun h => by cases h⟩, rfl⟩
  | succ n ih =>
    obtain ⟨hidle, hnetLastMs⟩ := ih
    have hdue := due_checkedAt n
    rw [← hnetLastMs] at hdue
    rw [coreAt_alone_succ]
    exact (hidle.loop hdue).2

theorem reached_alone (n : ℕ) : (alone : FdRun 32 ℝ Unit).Reached ⟨.raspi, false⟩ 32 n := by
  intro k _
  obtain ⟨hidle, hnetLastMs⟩ := coreAt_alone k
  have hdue := due_checkedAt k
  rw [← hnetLastMs] at hdue
  exact (hidle.loop hdue).1

theorem leaks_alone (n : ℕ) : (alone : FdRun 32 ℝ Unit).leaks ⟨.raspi, false⟩ 32 n ≠ 0 := by
  refine (leaks_ne_zero_iff _ _ _ n).2 (.inr ?_)
  rw [Core.opensInterface, (coreAt_alone n).2, Bool.and_eq_true]
  exact ⟨due_checkedAt n, rfl⟩

/-- After `n` calls there are at least `6 + n` descriptors open. -/
theorem not_bounded_alone :
    let r : FdRun 32 ℝ Unit := alone
    (∀ n, r.Reached ⟨.raspi, false⟩ 32 n ∧ 6 + n ≤ r.opened ⟨.raspi, false⟩ 32 n) ∧
      ¬ ∃ B, ∀ n, r.Reached ⟨.raspi, false⟩ 32 n → r.opened ⟨.raspi, false⟩ 32 n ≤ B := by
  intro r
  have hopened : ∀ n, 6 + n ≤ r.opened ⟨.raspi, false⟩ 32 n := by
    intro n
    have heq := (r.ledger ⟨.raspi, false⟩ 32).opened_eq (reached_alone n)
    have hheld : r.held ⟨.raspi, false⟩ 32 0 = 0 := rfl
    have hstart : r.opened ⟨.raspi, false⟩ 32 0 = 6 := rfl
    have hsum := calc
      n = ∑ _k ∈ Finset.range n, 1 := by rw [← Finset.card_eq_sum_ones, Finset.card_range]
      _ ≤ ∑ k ∈ Finset.range n, r.leaks ⟨.raspi, false⟩ 32 k :=
        Finset.sum_le_sum fun k _ => Nat.one_le_iff_ne_zero.2 (leaks_alone k)
    omega
  refine ⟨fun n => ⟨reached_alone n, hopened n⟩, ?_⟩
  rintro ⟨B, hB⟩
  have hle := hB B (reached_alone B)
  have hge := hopened B
  omega

end FdRun
end Terremoti
