import Terremoti.NtpRecover

/-!
# NTP eras

The server's seconds since 1900 are a 32-bit number, which starts anew in February 2036. `sync`
widens it to 64 bits and subtracts the seconds from 1900 to 1970: in the first era this is the UNIX
time, after it a negative number (`time_eq`). That is stored, and as it is below the bound for a
wrong clock the call does not return; no later round makes it return `true`
(`syncLoop_spoiled_result`). `sync_era_iff` is the line between the two.
-/

namespace Terremoti
namespace NTP
variable {w : ℕ} {τ : Type}

/-! ### The time of a reply -/

/-- The seconds since 1900, as far as the field holds them, at the UNIX time `T`. -/
def seconds (T : ℕ) : BitVec 32 := BitVec.ofNat 32 (T + 2208988800)

/-- The transmit timestamp of the reply says the UNIX time `T`. -/
def Says (T : ℕ) (d : Datagram τ) : Prop :=
  (d.data.drop 40).take 4 = (Utils.bytes32 (seconds T)).reverse

theorem hton64_take (bignum : List Byte) : Utils.hton64 (bignum.take 4) = Utils.hton64 bignum := by
  rw [Utils.hton64, List.take_take, Nat.min_self, Utils.hton64]

theorem hton64_bytes32 (x : BitVec 32) :
    Utils.hton64 (Utils.bytes32 x).reverse = x.setWidth 64 := by
  refine BitVec.eq_of_getLsbD_eq fun i hi => ?_
  simp only [Utils.hton64, Utils.bytes32, List.reverse_cons, List.reverse_nil, List.nil_append,
    List.cons_append, List.take_succ_cons, List.take_zero, List.foldl_cons, List.foldl_nil,
    BitVec.getLsbD_or, BitVec.getLsbD_shiftLeft, BitVec.getLsbD_setWidth,
    BitVec.getLsbD_extractLsb']
  grind

theorem epoch_seconds {T : ℕ} {d : Datagram τ} (h : Says T d) :
    time 64 d = ((seconds T).setWidth 64 - JAN_1970).toInt := by
  have hfield : ((d.data.take NTP_PACKET_SIZE).drop 40).take 4 = (d.data.drop 40).take 4 := by
    rw [List.drop_take, List.take_take]
    rfl
  rw [time, epoch, ← hton64_take, hfield, h, hton64_bytes32, BitVec.setWidth_eq]

theorem time_eq {T : ℕ} (hT : T < 2 ^ 32) {d : Datagram τ} (h : Says T d) :
    time 64 d = if T + 2208988800 < 2 ^ 32 then (T : ℤ) else T - 2 ^ 32 := by
  have hJan : JAN_1970.toNat = 2208988800 := rfl
  have hseconds : ((seconds T).setWidth 64).toNat = (T + 2208988800) % 2 ^ 32 := by
    rw [BitVec.toNat_setWidth_of_le (by decide), seconds, BitVec.toNat_ofNat]
  rw [epoch_seconds h, BitVec.toInt_eq_toNat_cond, BitVec.toNat_sub, hseconds, hJan]
  split
  · split <;> omega
  · split <;> omega

/-! ### The calls -/

/-- No call returns `true` once a reply with an implausible time has been stored. -/
theorem syncLoop_spoiled_result (tw : ℕ) (rounds : List (Round τ)) {x : Sync w τ}
    (hret : x.ret = true) (hts : x.ntp.unixTimeTS < coherentTime) (hres : x.result ≠ some true) :
    (syncLoop tw rounds x).result ≠ some true := by
  induction rounds generalizing x with
  | nil => exact hres
  | cons r rounds ih =>
    by_cases hr : r.address = 0
    · rw [syncLoop, if_pos hr]
      simp
    · rw [syncLoop_spin_step tw rounds hr hret hts]
      exact ih (x := { requested r.address x with queue := x.queue ++ arrivals r.polls }) hret hts
        hres

/-- The call comes to the round `r` without a reply, and `d` is the first it receives there. -/
structure ReceivesFirst (tw : ℕ) (n : NTP w) (queue : List (Datagram τ)) (earlier : List (Round τ))
    (r : Round τ) (d : Datagram τ) : Prop where
  named : n.ntpserver ≠ []
  resolves : ∀ e ∈ earlier ++ [r], e.address ≠ 0
  expires : ∀ e ∈ earlier, e.expires w = true
  running : (sync tw n queue earlier).result = none
  quiet : ∀ b ∈ Round.receivedAll w earlier queue, isReply b = false
  first : (r.received w (Round.leftAll w earlier queue)).find? isReply = some d

theorem ReceivesFirst.resume {tw : ℕ} {n : NTP w} {queue : List (Datagram τ)}
    {earlier : List (Round τ)} {r : Round τ} {d : Datagram τ}
    (h : ReceivesFirst tw n queue earlier r d) :
    ∃ y : Sync w τ, (∀ rest, sync tw n queue (earlier ++ rest) = syncLoop tw rest y) ∧
      y.ret = false ∧ y.result = none ∧ (r.received w y.queue).find? isReply = some d := by
  have hsync : ∀ rounds, sync tw n queue rounds = syncLoop tw rounds { ntp := n, queue := queue } :=
    fun _ => if_neg h.named
  have hrunning := h.running
  rw [hsync] at hrunning
  obtain ⟨y, hy, hyres, hunder⟩ := syncLoop_resume tw (x := { ntp := n, queue := queue })
    (List.forall_mem_append.1 h.resolves).1 h.expires rfl rfl hrunning fun b hb hreply => by
      rw [h.quiet b hb] at hreply
      cases hreply
  refine ⟨y, fun rest => (hsync _).trans (hy rest), ?_⟩
  rcases hunder with ⟨hret, hqueue, -⟩ | ⟨-, -, b, hb, hreply⟩
  · exact ⟨hret, hyres, by rw [hqueue]; exact h.first⟩
  · rw [h.quiet b hb] at hreply
    cases hreply

theorem sync_round (tw : ℕ) {n : NTP w} {queue : List (Datagram τ)} {earlier : List (Round τ)}
    {r : Round τ} {d : Datagram τ} (h : ReceivesFirst tw n queue earlier r d)
    (more : List (Round τ)) :
    if coherentTime ≤ time tw d then
      (sync tw n queue (earlier ++ r :: more)).result = some true ∧
        (sync tw n queue (earlier ++ r :: more)).ntp.unixTimeTS = time tw d
    else (sync tw n queue (earlier ++ r :: more)).result ≠ some true := by
  obtain ⟨y, hy, hret, hres, hfirst⟩ := h.resume
  have hr : r.address ≠ 0 := h.resolves r (by simp)
  obtain ⟨stamp, q, hloop⟩ := syncLoop_reply tw hr hret hfirst
  rw [hy, hloop more]
  split
  · rename_i htime
    rw [if_neg (not_lt.2 htime)]
    exact ⟨rfl, rfl⟩
  · rename_i htime
    rw [if_pos (not_le.1 htime)]
    refine syncLoop_spoiled_result tw more rfl (not_le.1 htime) ?_
    show y.result ≠ some true
    rw [hres]
    simp

/-- Before February 2036, and only then, a call that receives a right reply first stores its time and
returns `true`. -/
theorem sync_era_iff {T : ℕ} (hlow : 1437648361 ≤ T) (hhigh : T < 2 ^ 32) {n : NTP w}
    {queue : List (Datagram τ)} {earlier : List (Round τ)} {r : Round τ} {d : Datagram τ}
    (hfirst : ReceivesFirst 64 n queue earlier r d) (htold : Says T d) (more : List (Round τ)) :
    ((sync 64 n queue (earlier ++ r :: more)).ntp.unixTimeTS = T ∧
        (sync 64 n queue (earlier ++ r :: more)).result = some true) ↔ T < 2085978496 := by
  have hbound : coherentTime = 1437648361 := rfl
  have hcall := sync_round 64 hfirst more
  constructor
  · rintro ⟨-, hresult⟩
    by_contra hlate
    have htime : time 64 d = (T : ℤ) - 2 ^ 32 := by
      rw [time_eq hhigh htold, if_neg (by omega)]
    rw [if_neg (by omega)] at hcall
    exact hcall hresult
  · intro hera
    have htime : time 64 d = (T : ℤ) := by
      rw [time_eq hhigh htold, if_pos (by omega)]
    rw [if_pos (by omega), htime] at hcall
    exact ⟨hcall.2, hcall.1⟩

/-- A server's reply at the UNIX time `T`. -/
theorem says_serverReply (T : ℕ) (tag : τ) : Says T (serverReply (seconds T) tag) := rfl

theorem isReply_serverReply (seconds : BitVec 32) (tag : τ) :
    isReply (serverReply seconds tag) = true := by
  simp [isReply, serverReply, NTP_PACKET_SIZE]

theorem received_roundWith (d : Datagram τ) : (roundWith 0 d).received 64 [] = [d] := by
  have hwindow : window ((0 : BitVec 32).setWidth 64) (roundWith 0 d).polls =
      [⟨0, [d], 0 + 50⟩] := by
    simp [window, roundWith, inWindow, NTP_RESPONSE_TIMEOUT_VALUE]
  rw [Round.received]
  show (Fifo.pops [] ((window ((0 : BitVec 32).setWidth 64) (roundWith 0 d).polls).map _)).1 = [d]
  rw [hwindow]
  rfl

theorem receivesFirst_serverReply (T : ℕ) :
    ReceivesFirst 64 (init : NTP 64) [] [] (roundWith 0 (serverReply (seconds T) ()))
      (serverReply (seconds T) ()) where
  named := by decide
  resolves := by simp [roundWith]
  expires := by simp
  running := rfl
  quiet := by simp [Round.receivedAll]
  first := by
    rw [Round.leftAll, List.foldl_nil, received_roundWith]
    exact List.find?_cons_of_pos (isReply_serverReply (seconds T) ())

theorem sync_era_iff_today :
    1437648361 ≤ 1700000000 ∧ 1700000000 < 2 ^ 32 ∧
      (sync 64 (init : NTP 64) []
        [roundWith 0 (serverReply (seconds 1700000000) ())]).ntp.unixTimeTS = 1700000000 := by
  have h := sync_era_iff (by decide) (by decide) (receivesFirst_serverReply 1700000000)
    (says_serverReply 1700000000 ()) []
  exact ⟨by decide, by decide, (h.2 (by decide)).1⟩

/-- The second before the field starts anew, and the first after it: 7 February 2036, 06:28:16. -/
theorem sync_next_era :
    Says 2085978496 (serverReply (seconds 2085978496) ()) ∧
      ReceivesFirst 64 (init : NTP 64) [] [] (roundWith 0 (serverReply (seconds 2085978496) ()))
        (serverReply (seconds 2085978496) ()) ∧
      (sync 64 (init : NTP 64) []
        [roundWith 0 (serverReply (seconds 2085978496) ())]).ntp.unixTimeTS = -2208988800 ∧
      ∀ more, (sync 64 (init : NTP 64) []
        (roundWith 0 (serverReply (seconds 2085978496) ()) :: more)).result ≠ some true := by
  have hfirst := receivesFirst_serverReply 2085978496
  have htold := says_serverReply 2085978496 ()
  refine ⟨htold, hfirst, by decide, fun more hresult => ?_⟩
  have htime : time 64 (serverReply (seconds 2085978496) ()) = -2208988800 := by decide
  have hcall := sync_round 64 hfirst more
  rw [htime, if_neg (by decide)] at hcall
  exact hcall hresult

end NTP
end Terremoti
