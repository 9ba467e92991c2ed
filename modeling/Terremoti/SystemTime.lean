import Terremoti.UnixTime

/-!
# Setting the system clock (`NTP::execSystemTimeUpdate`)

`Utils::millis` reads `CLOCK_REALTIME`, and `sync` sets that clock to the time it has received, after
it has stored the counter. `Clocked` runs `sync` on a clock that goes on between its steps and jumps
when it is set; but for the clock it is `NTP.sync` (`sync_script`). The counter stored is a reading
of the clock as it was before it was set (`After`), so that `getUNIXTime` counts the jump as time
that has passed: `getUNIXTime_synced_iff` is the exact condition.
-/

namespace Terremoti

/-- `Utils::millis` with `CLOCK_REALTIME` at `ns` nanoseconds. -/
def Utils.millisOf (ns : ℕ) : BitVec 32 := Utils.millis (ns / 10 ^ 9) (ns % 10 ^ 9)

/-- One turn of the receive loop, in nanoseconds: the time up to its test, the datagrams that have
come since the last one, and when one is a reply, the time up to the reading of the counter, from
there to the moment the clock is set, and from there to the end of the turn. -/
structure TimedPoll (τ : Type) where
  wait : ℕ
  arrived : List (Datagram τ)
  store : ℕ
  set : ℕ
  finish : ℕ

/-- One turn of the outer loop; `delay` is the time up to the end of the delay behind the request. -/
structure TimedRound (τ : Type) where
  address : IPaddr
  delay : ℕ
  polls : List (TimedPoll τ)

/-- A time received: its seconds, and when, counted from the start of the call, the counter was
stored and the clock was set. -/
structure Taken where
  epoch : ℤ
  stored : ℕ
  set : ℕ
  deriving DecidableEq

/-- A call of `sync` under way on the clock `realtime`. How long it has taken so far and what it has
received are ghosts. -/
structure Clocked (w : ℕ) (τ : Type) where
  sync : Sync w τ
  realtime : ℕ
  age : ℕ := 0
  taken : Option Taken := none

namespace NTP

variable {w : ℕ} {τ : Type}

/-- What one turn of the receive loop can do to the time. -/
theorem receiveReply_cases (tw : ℕ) (p : Poll τ) (x : Sync w τ) :
    ((receiveReply tw p x).ret = x.ret ∧ (receiveReply tw p x).ntp = x.ntp) ∨
      ((receiveReply tw p x).ret = true ∧
        (∃ packet, (receiveReply tw p x).ntp.unixTimeTS = epoch tw packet) ∧
        (receiveReply tw p x).ntp.unixTimeUpdate = p.stamp.setWidth w) := by
  unfold receiveReply
  dsimp only
  split
  · exact .inl ⟨rfl, rfl⟩
  split
  · exact .inr ⟨rfl, ⟨_, rfl⟩, rfl⟩
  · exact .inl ⟨rfl, rfl⟩

theorem waitReply_result (tw : ℕ) (responseMill : BitVec w) (polls : List (Poll τ)) (x : Sync w τ) :
    (waitReply tw responseMill polls x).1.result = x.result := by
  induction polls generalizing x with
  | nil => rfl
  | cons p polls ih =>
    rw [waitReply]
    split
    · rw [ih, receiveReply]
      split
      · rfl
      split <;> rfl
    · rfl

theorem syncLoop_result {tw : ℕ} {rounds : List (Round τ)} {x : Sync w τ} (hx : x.result = none)
    (h : (syncLoop tw rounds x).result = some true) :
    (syncLoop tw rounds x).ret = true ∧
      coherentTime ≤ (syncLoop tw rounds x).ntp.unixTimeTS := by
  induction rounds generalizing x with
  | nil =>
    rw [syncLoop, hx] at h
    cases h
  | cons r rounds ih =>
    have hround : ∀ polls, (waitReply tw (r.responseMill.setWidth w) polls
        (requested r.address x)).1.result = none := fun polls =>
      (waitReply_result tw _ polls _).trans hx
    rw [syncLoop] at h ⊢
    split at h
    · cases h
    rename_i hr
    rw [if_neg hr]
    dsimp only at h ⊢
    split at h
    · rw [hround] at h
      cases h
    rename_i hend
    rw [if_neg hend]
    split at h
    · rename_i hts
      rw [if_pos hts]
      exact ih (hround _) h
    · rename_i hts
      rw [if_neg hts]
      exact ⟨Option.some.inj h, not_lt.1 hts⟩

theorem sync_result {tw : ℕ} {n : NTP w} {queue : List (Datagram τ)} {rounds : List (Round τ)}
    (h : (sync tw n queue rounds).result = some true) :
    (sync tw n queue rounds).ret = true ∧
      coherentTime ≤ (sync tw n queue rounds).ntp.unixTimeTS := by
  rw [sync] at h ⊢
  split at h
  · cases h
  · rename_i hserver
    rw [if_neg hserver]
    exact syncLoop_result rfl h

end NTP

namespace Clocked

variable {w : ℕ} {τ : Type}

def pass (ns : ℕ) (x : Clocked w τ) : Clocked w τ :=
  { x with realtime := x.realtime + ns, age := x.age + ns }

/-- `NTP::execSystemTimeUpdate`: `date -s @%lu`. -/
def execSystemTimeUpdate (epoch : ℤ) (x : Clocked w τ) : Clocked w τ :=
  { x with realtime := (BitVec.ofInt w epoch).toNat * 10 ^ 9 }

def receiveReply (tw : ℕ) (p : TimedPoll τ) (x : Clocked w τ) : Clocked w τ :=
  let stamp := Utils.millisOf (x.pass p.store).realtime
  let y := NTP.receiveReply tw ⟨Utils.millisOf x.realtime, p.arrived, stamp⟩ x.sync
  if y.ret = false then { x with sync := y } else
  let epoch := y.ntp.unixTimeTS
  let taken : Taken := ⟨epoch, x.age + p.store, x.age + p.store + p.set⟩
  let x := ({ x with sync := y, taken := some taken }.pass p.store).pass p.set
  (x.execSystemTimeUpdate epoch).pass p.finish

def arrivals (polls : List (TimedPoll τ)) : List (Datagram τ) :=
  (polls.map TimedPoll.arrived).flatten

def inWindow (responseMill : BitVec w) (x : Clocked w τ) : Bool :=
  decide ((Utils.millisOf x.realtime).setWidth w - responseMill < NTP_RESPONSE_TIMEOUT_VALUE)

def waitReply (tw : ℕ) (responseMill : BitVec w) : List (TimedPoll τ) → Clocked w τ → Clocked w τ × Bool
  | [], x => (x, x.sync.ret)
  | p :: polls, x =>
    let x := x.pass p.wait
    if x.sync.ret = false ∧ x.inWindow responseMill then
      waitReply tw responseMill polls (receiveReply tw p x)
    else
      ({ x with sync := { x.sync with queue := x.sync.queue ++ arrivals (p :: polls) } }, true)

def requested (r : TimedRound τ) (x : Clocked w τ) : Clocked w τ :=
  { x with sync := NTP.requested r.address x.sync }.pass r.delay

/-- One request and the wait for its reply. -/
def round (tw : ℕ) (r : TimedRound τ) (x : Clocked w τ) : Clocked w τ × Bool :=
  let x := x.requested r
  waitReply tw ((Utils.millisOf x.realtime).setWidth w) r.polls x

def syncLoop (tw : ℕ) : List (TimedRound τ) → Clocked w τ → Clocked w τ
  | [], x => x
  | r :: rounds, x =>
    if r.address = 0 then
      { x with sync := { NTP.resolved r.address x.sync with result := some false } } else
    let y := x.round tw r
    if y.2 = false then y.1
    else if y.1.sync.ntp.unixTimeTS < NTP.coherentTime then syncLoop tw rounds y.1
    else { y.1 with sync := { y.1.sync with result := some y.1.sync.ret } }

/-- `NTP::sync` with the clock at `realtime`. -/
def run (tw : ℕ) (n : NTP w) (queue : List (Datagram τ)) (realtime : ℕ)
    (rounds : List (TimedRound τ)) : Clocked w τ :=
  if n.ntpserver = [] then ⟨{ ntp := n, queue := queue, result := some false }, realtime, 0, none⟩
  else syncLoop tw rounds ⟨{ ntp := n, queue := queue }, realtime, 0, none⟩

/-! ### The calls without their clock -/

theorem receiveReply_sync (tw : ℕ) (p : TimedPoll τ) (x : Clocked w τ) :
    (receiveReply tw p x).sync = NTP.receiveReply tw
      ⟨Utils.millisOf x.realtime, p.arrived, Utils.millisOf (x.pass p.store).realtime⟩ x.sync := by
  rw [receiveReply]
  split <;> rfl

theorem waitReply_turn (tw : ℕ) {responseMill : BitVec w} {p : TimedPoll τ}
    (polls : List (TimedPoll τ)) {x : Clocked w τ} (hret : x.sync.ret = false)
    (hwindow : (x.pass p.wait).inWindow responseMill = true) :
    waitReply tw responseMill (p :: polls) x =
      waitReply tw responseMill polls (receiveReply tw p (x.pass p.wait)) := by
  rw [waitReply]
  exact if_pos ⟨hret, hwindow⟩

theorem waitReply_end (tw : ℕ) {responseMill : BitVec w} {p : TimedPoll τ}
    (polls : List (TimedPoll τ)) {x : Clocked w τ}
    (hend : ¬ (x.sync.ret = false ∧ (x.pass p.wait).inWindow responseMill)) :
    waitReply tw responseMill (p :: polls) x =
      ({ x.pass p.wait with
        sync := { x.sync with queue := x.sync.queue ++ arrivals (p :: polls) } }, true) := by
  rw [waitReply]
  exact if_neg hend

theorem waitReply_script (tw : ℕ) (responseMill : BitVec w) (polls : List (TimedPoll τ))
    (x : Clocked w τ) : ∃ script : List (Poll τ), NTP.waitReply tw responseMill script x.sync =
      ((waitReply tw responseMill polls x).1.sync, (waitReply tw responseMill polls x).2) := by
  induction polls generalizing x with
  | nil => exact ⟨[], rfl⟩
  | cons p polls ih =>
    let now := Utils.millisOf (x.pass p.wait).realtime
    by_cases htest : x.sync.ret = false ∧ (x.pass p.wait).inWindow responseMill
    · obtain ⟨script, hrest⟩ := ih (receiveReply tw p (x.pass p.wait))
      rw [receiveReply_sync] at hrest
      refine ⟨⟨now, p.arrived, Utils.millisOf ((x.pass p.wait).pass p.store).realtime⟩ :: script, ?_⟩
      rw [waitReply_turn tw polls htest.1 htest.2, NTP.waitReply]
      exact (if_pos htest).trans hrest
    · refine ⟨⟨now, p.arrived, 0⟩ :: polls.map fun p => ⟨0, p.arrived, 0⟩, ?_⟩
      rw [waitReply_end tw polls htest, NTP.waitReply]
      refine (if_neg htest).trans ?_
      simp [arrivals, NTP.arrivals, Function.comp_def]

theorem syncLoop_script (tw : ℕ) (rounds : List (TimedRound τ)) (x : Clocked w τ) :
    ∃ script : List (Round τ), NTP.syncLoop tw script x.sync = (syncLoop tw rounds x).sync := by
  induction rounds generalizing x with
  | nil => exact ⟨[], rfl⟩
  | cons r rounds ih =>
    by_cases hr : r.address = 0
    · refine ⟨[⟨r.address, 0, []⟩], ?_⟩
      rw [syncLoop, if_pos hr, NTP.syncLoop, if_pos hr]
    · obtain ⟨polls, hwait⟩ := waitReply_script tw
        ((Utils.millisOf (x.requested r).realtime).setWidth w) r.polls (x.requested r)
      obtain ⟨script, hrest⟩ := ih (x.round tw r).1
      refine ⟨⟨r.address, Utils.millisOf (x.requested r).realtime, polls⟩ :: script, ?_⟩
      have hround : NTP.waitReply tw ((Utils.millisOf (x.requested r).realtime).setWidth w) polls
          (NTP.requested r.address x.sync) = ((x.round tw r).1.sync, (x.round tw r).2) := hwait
      rw [syncLoop, if_neg hr, NTP.syncLoop, if_neg hr]
      dsimp only
      rw [hround]
      dsimp only
      split
      · rfl
      split
      · exact hrest
      · rfl

/-- But for the clock, a timed call is a call of `NTP.sync`. -/
theorem run_script (tw : ℕ) (n : NTP w) (queue : List (Datagram τ)) (realtime : ℕ)
    (rounds : List (TimedRound τ)) : ∃ script : List (Round τ),
      NTP.sync tw n queue script = (run tw n queue realtime rounds).sync := by
  rw [run]
  split
  · rename_i hserver
    refine ⟨[], ?_⟩
    rw [NTP.sync, if_pos hserver]
  · rename_i hserver
    obtain ⟨script, h⟩ := syncLoop_script tw rounds ⟨{ ntp := n, queue := queue }, realtime, 0, none⟩
    refine ⟨script, ?_⟩
    rw [NTP.sync, if_neg hserver, ← h]

/-! ### What the clock and the counter show -/

/-- Nothing has been received, and the clock has gone on from `c`. -/
structure Before (c : ℕ) (x : Clocked w τ) : Prop where
  ret : x.sync.ret = false
  realtime : x.realtime = c + x.age

/-- The time `t` has been received: the counter stored is a reading of the clock that has gone on
from `c`, and the clock goes on from `t`. -/
structure After (tw c : ℕ) (t : Taken) (x : Clocked w τ) : Prop where
  ret : x.sync.ret = true
  taken : x.taken = some t
  packet : ∃ packet, t.epoch = NTP.epoch tw packet
  unixTimeTS : x.sync.ntp.unixTimeTS = t.epoch
  unixTimeUpdate : x.sync.ntp.unixTimeUpdate = (Utils.millisOf (c + t.stored)).setWidth w
  set_le : t.set ≤ x.age
  realtime : x.realtime = (BitVec.ofInt w t.epoch).toNat * 10 ^ 9 + (x.age - t.set)

def Steady (tw c : ℕ) (x : Clocked w τ) : Prop := x.Before c ∨ ∃ t, x.After tw c t

theorem After.pass {tw c : ℕ} {t : Taken} {x : Clocked w τ} (h : x.After tw c t) (ns : ℕ) :
    (x.pass ns).After tw c t where
  ret := h.ret
  taken := h.taken
  packet := h.packet
  unixTimeTS := h.unixTimeTS
  unixTimeUpdate := h.unixTimeUpdate
  set_le := h.set_le.trans (Nat.le_add_right _ _)
  realtime := by
    have hset := h.set_le
    simp only [Clocked.pass, h.realtime]
    omega

theorem Before.pass {c : ℕ} {x : Clocked w τ} (h : x.Before c) (ns : ℕ) : (x.pass ns).Before c where
  ret := h.ret
  realtime := by simp only [Clocked.pass, h.realtime, Nat.add_assoc]

theorem Steady.pass {tw c : ℕ} {x : Clocked w τ} (h : x.Steady tw c) (ns : ℕ) :
    (x.pass ns).Steady tw c := by
  rcases h with h | ⟨t, h⟩
  · exact .inl (h.pass ns)
  · exact .inr ⟨t, h.pass ns⟩

/-- What is no part of the time may change. -/
theorem Steady.of_sync {tw c : ℕ} {x : Clocked w τ} (h : x.Steady tw c) {s : Sync w τ}
    (hret : s.ret = x.sync.ret) (hTS : s.ntp.unixTimeTS = x.sync.ntp.unixTimeTS)
    (hUpdate : s.ntp.unixTimeUpdate = x.sync.ntp.unixTimeUpdate) :
    ({ x with sync := s } : Clocked w τ).Steady tw c := by
  rcases h with h | ⟨t, h⟩
  · exact .inl ⟨hret.trans h.ret, h.realtime⟩
  · exact .inr ⟨t, hret.trans h.ret, h.taken, h.packet, hTS.trans h.unixTimeTS,
      hUpdate.trans h.unixTimeUpdate, h.set_le, h.realtime⟩

theorem Before.receiveReply {c : ℕ} {x : Clocked w τ} (h : x.Before c) (tw : ℕ) (p : TimedPoll τ) :
    (receiveReply tw p x).Steady tw c := by
  unfold Clocked.receiveReply
  dsimp only
  rcases NTP.receiveReply_cases tw
    ⟨Utils.millisOf x.realtime, p.arrived, Utils.millisOf (x.pass p.store).realtime⟩ x.sync with
    ⟨hret, hntp⟩ | ⟨hret, ⟨packet, hTS⟩, hUpdate⟩
  · rw [if_pos (hret.trans h.ret)]
    exact .inl ⟨hret.trans h.ret, h.realtime⟩
  · rw [if_neg (by simp [hret])]
    refine .inr ⟨_, hret, rfl, ⟨packet, hTS⟩, rfl, hUpdate.trans ?_, ?_, ?_⟩
    · simp only [Clocked.pass, h.realtime, Nat.add_assoc]
    · simp only [Clocked.pass, execSystemTimeUpdate]
      omega
    · simp only [Clocked.pass, execSystemTimeUpdate]
      omega

theorem Steady.waitReply {tw c : ℕ} {x : Clocked w τ} (h : x.Steady tw c) (responseMill : BitVec w)
    (polls : List (TimedPoll τ)) : (waitReply tw responseMill polls x).1.Steady tw c := by
  induction polls generalizing x with
  | nil => exact h
  | cons p polls ih =>
    by_cases htest : x.sync.ret = false ∧ (x.pass p.wait).inWindow responseMill
    · rw [waitReply_turn tw polls htest.1 htest.2]
      rcases h with h | ⟨t, h⟩
      · exact ih ((h.pass p.wait).receiveReply tw p)
      · have hret := h.ret
        rw [htest.1] at hret
        cases hret
    · rw [waitReply_end tw polls htest]
      exact (h.pass p.wait).of_sync rfl rfl rfl

theorem Steady.syncLoop {tw c : ℕ} {x : Clocked w τ} (h : x.Steady tw c)
    (rounds : List (TimedRound τ)) : (syncLoop tw rounds x).Steady tw c := by
  induction rounds generalizing x with
  | nil => exact h
  | cons r rounds ih =>
    rw [Clocked.syncLoop]
    split
    · exact h.of_sync rfl rfl rfl
    · have hsent : ({ x with sync := NTP.requested r.address x.sync } : Clocked w τ).Steady tw c :=
        h.of_sync rfl rfl rfl
      have hround : (x.round tw r).1.Steady tw c := (hsent.pass r.delay).waitReply _ _
      dsimp only
      split
      · exact hround
      split
      · exact ih hround
      · exact hround.of_sync rfl rfl rfl

/-- A call that succeeds has received a time, and not an implausible one. -/
theorem run_after {tw : ℕ} {n : NTP w} {queue : List (Datagram τ)} {realtime : ℕ}
    {rounds : List (TimedRound τ)}
    (h : (run tw n queue realtime rounds).sync.result = some true) :
    ∃ t, (run tw n queue realtime rounds).After tw realtime t ∧ NTP.coherentTime ≤ t.epoch := by
  have hsteady : (run tw n queue realtime rounds).Steady tw realtime := by
    have hstart : ∀ result, (⟨{ ntp := n, queue := queue, result := result }, realtime, 0, none⟩ :
        Clocked w τ).Steady tw realtime := fun _ => .inl ⟨rfl, rfl⟩
    rw [run]
    split
    · exact hstart _
    · exact (hstart _).syncLoop rounds
  obtain ⟨script, hscript⟩ := run_script tw n queue realtime rounds
  rw [← hscript] at h
  obtain ⟨hret, hclock⟩ := NTP.sync_result h
  rw [hscript] at hret hclock
  rcases hsteady with hbefore | ⟨t, hafter⟩
  · rw [hbefore.ret] at hret
    cases hret
  · exact ⟨t, hafter, hafter.unixTimeTS ▸ hclock⟩

end Clocked

/-! ### The time between two syncs -/

namespace NTP

variable {w : ℕ}

/-- `now` is within one second of `d` milliseconds after `E`. -/
def Near (now : BitVec w) (E : ℤ) (d : ℕ) : Prop := |(now.toNat : ℚ) - (E + d / 1000)| ≤ 1

theorem near_iff {now : BitVec w} {E : ℤ} {q : ℕ} (hnow : (now.toNat : ℤ) = E + q) (d : ℕ) :
    Near now E d ↔ 1000 * q ≤ d + 1000 ∧ d ≤ 1000 * q + 1000 := by
  have hq : (now.toNat : ℚ) = E + q := by exact_mod_cast hnow
  have hdiff : (now.toNat : ℚ) - (E + d / 1000) = (1000 * q - d) / 1000 := by
    rw [hq]
    ring
  have hle : (1000 * q - d : ℚ) / 1000 ≤ 1 ↔ 1000 * q ≤ d + 1000 := by
    rw [div_le_iff₀ (by norm_num), sub_le_iff_le_add']
    exact_mod_cast Iff.rfl
  have hge : -1 ≤ (1000 * q - d : ℚ) / 1000 ↔ d ≤ 1000 * q + 1000 := by
    rw [le_div_iff₀ (by norm_num), neg_one_mul, neg_le_sub_iff_le_add]
    exact_mod_cast Iff.rfl
  rw [Near, hdiff, abs_le, hle, hge, and_comm]

theorem le_elapsed (w : ℕ) (u : BitVec 32) (k : ℕ) : k ≤ elapsed w u k := by
  unfold elapsed
  split
  · exact le_rfl
  · exact Nat.le_add_right _ _

theorem toNat_getUNIXTime (hw : 32 ≤ w) {n : NTP w} {u : BitVec 32}
    (hupdate : n.unixTimeUpdate = u.setWidth w) (hnonneg : 0 ≤ n.unixTimeTS)
    (hlt : n.unixTimeTS < 2 ^ 31) {k : ℕ} (hk : k < 2 ^ 32) :
    ((n.getUNIXTime (Counter.read u k)).toNat : ℤ) =
      n.unixTimeTS + (elapsed w u k / 1000 : ℕ) := by
  have hpow : 2 ^ 32 ≤ 2 ^ w := Nat.pow_le_pow_right (by decide) hw
  have helapsed := elapsed_lt hw u hk
  obtain ⟨e, he⟩ := Int.eq_ofNat_of_zero_le hnonneg
  rw [getUNIXTime_read hw hupdate hk, he, BitVec.ofInt_natCast, ← BitVec.ofNat_add,
    BitVec.toNat_ofNat, Nat.mod_eq_of_lt (by omega), Nat.cast_add]

/-- A counter that is `o` ahead when the time starts to run: the seconds it shows are right for a
time of up to `2 ^ 31` milliseconds exactly when it is at most one second ahead and, if `unsigned
long` is wider than the counter, the counter does not wrap. -/
theorem near_ahead_iff (hw : 32 ≤ w) {n : NTP w} {u : BitVec 32}
    (hupdate : n.unixTimeUpdate = u.setWidth w) (hnonneg : 0 ≤ n.unixTimeTS)
    (hlt : n.unixTimeTS < 2 ^ 31) {o : ℕ} (ho : o < 2 ^ 32) :
    (∀ d < 2 ^ 31, Near (n.getUNIXTime (Counter.read u (o + d))) n.unixTimeTS d) ↔
      o ≤ 1000 ∧ (w = 32 ∨ u.toNat + o + 2 ^ 31 ≤ 2 ^ 32) := by
  have hnear : ∀ d, Near (n.getUNIXTime (Counter.read u (o + d))) n.unixTimeTS d ↔
      1000 * (elapsed w u ((o + d) % 2 ^ 32) / 1000) ≤ d + 1000 ∧
        d ≤ 1000 * (elapsed w u ((o + d) % 2 ^ 32) / 1000) + 1000 := by
    intro d
    have hk : (o + d) % 2 ^ 32 < 2 ^ 32 := Nat.mod_lt _ (by decide)
    rw [← Counter.read_mod]
    exact near_iff (toNat_getUNIXTime hw hupdate hnonneg hlt hk) d
  constructor
  · intro h
    have hahead : o ≤ 1000 := by
      by_contra hfar
      by_cases hsum : o + (1000 - o % 1000) % 1000 < 2 ^ 32
      · -- the first time at which the seconds shown change
        have hd := ((hnear _).1 (h ((1000 - o % 1000) % 1000) (by omega))).1
        have hle := le_elapsed w u ((o + (1000 - o % 1000) % 1000) % 2 ^ 32)
        omega
      · have hd := ((hnear 0).1 (h 0 (by decide))).1
        have hle := le_elapsed w u ((o + 0) % 2 ^ 32)
        omega
    refine ⟨hahead, or_iff_not_imp_left.2 fun hwide => ?_⟩
    by_contra hwrap
    have hd := ((hnear _).1 (h (2 ^ 31 - 1) (by decide))).1
    have hpow : 2 ^ 33 ≤ 2 ^ w := Nat.pow_le_pow_right (by decide) (by omega)
    rw [Nat.mod_eq_of_lt (by omega), elapsed, if_neg (by omega)] at hd
    omega
  · rintro ⟨hahead, hwrap⟩ d hd
    have hdiv := (elapsed_div_eq_iff hw u (o + d)).2 (hwrap.imp_right (by omega))
    rw [hnear, Nat.mod_eq_of_lt (by omega), hdiv]
    omega

end NTP

namespace Clocked

variable {w : ℕ} {τ : Type}

/-- How far the counter is ahead of the one stored when a call returns that took `age` and began with
the clock at `c`, up to full turns. -/
def ahead (c : ℕ) (t : Taken) (age : ℕ) : ℕ :=
  ((t.epoch * 1000 + ((age - t.set) / 10 ^ 6 : ℕ) - ((c + t.stored) / 10 ^ 6 : ℕ)) % 2 ^ 32).toNat

theorem ahead_lt (c : ℕ) (t : Taken) (age : ℕ) : ahead c t age < 2 ^ 32 := by
  unfold ahead
  omega

/-- The counter `d` milliseconds after the return. -/
theorem After.millisOf (hw : 32 ≤ w) {tw c : ℕ} {t : Taken} {x : Clocked w τ} (h : x.After tw c t)
    (hnonneg : 0 ≤ t.epoch) (hlt : t.epoch < 2 ^ 31) (d : ℕ) :
    Utils.millisOf (x.realtime + d * 10 ^ 6) =
      Counter.read (Utils.millisOf (c + t.stored)) (ahead c t x.age + d) := by
  have hpow : 2 ^ 32 ≤ 2 ^ w := Nat.pow_le_pow_right (by decide) hw
  obtain ⟨e, he⟩ := Int.eq_ofNat_of_zero_le hnonneg
  have hepoch : (BitVec.ofInt w t.epoch).toNat = e := by
    rw [he, BitVec.ofInt_natCast, BitVec.toNat_ofNat, Nat.mod_eq_of_lt (by omega)]
  have hms : (x.realtime + d * 10 ^ 6) / 10 ^ 6 = e * 1000 + (x.age - t.set) / 10 ^ 6 + d := by
    rw [h.realtime, hepoch]
    omega
  rw [Utils.millisOf, Utils.millisOf, Utils.millis_eq_ofNat, Utils.millis_eq_ofNat, hms,
    Counter.read, ← BitVec.ofNat_add, ahead, he]
  refine BitVec.eq_of_toNat_eq ?_
  rw [BitVec.toNat_ofNat, BitVec.toNat_ofNat]
  omega

/-- After a successful call that received the time `t`, `getUNIXTime` is right to a second for `2 ^ 31`
milliseconds exactly when the clock that the counter was stored from was, up to full turns of the
counter, at most one second behind the clock at the return, and not ahead of it, and `unsigned long`
has the 32 bits of the counter or the counter does not wrap in that time. -/
theorem getUNIXTime_synced_iff (hw : 32 ≤ w) {tw : ℕ} (htw : tw = 32 ∨ tw = 64) {n : NTP w}
    {queue : List (Datagram τ)} {realtime : ℕ} {rounds : List (TimedRound τ)}
    (h : (run tw n queue realtime rounds).sync.result = some true) :
    let x := run tw n queue realtime rounds
    ∃ t, x.taken = some t ∧ x.sync.ntp.unixTimeTS = t.epoch ∧ NTP.coherentTime ≤ t.epoch ∧
      ((∀ d < 2 ^ 31, NTP.Near
          (x.sync.ntp.getUNIXTime (Utils.millisOf (x.realtime + d * 10 ^ 6))) t.epoch d) ↔
        ahead realtime t x.age ≤ 1000 ∧ (w = 32 ∨
          (Utils.millisOf (realtime + t.stored)).toNat + ahead realtime t x.age + 2 ^ 31 ≤
            2 ^ 32)) := by
  intro x
  obtain ⟨t, hafter, hcoherent⟩ := run_after h
  obtain ⟨packet, hpacket⟩ := hafter.packet
  have hlt : t.epoch < 2 ^ 31 := hpacket ▸ NTP.epoch_lt htw packet
  have hnonneg : 0 ≤ t.epoch := le_trans (by decide) hcoherent
  refine ⟨t, hafter.taken, hafter.unixTimeTS, hcoherent, ?_⟩
  have hTS : x.sync.ntp.unixTimeTS = t.epoch := hafter.unixTimeTS
  have hmillis : ∀ d, Utils.millisOf (x.realtime + d * 10 ^ 6) = _ := hafter.millisOf hw hnonneg hlt
  rw [← NTP.near_ahead_iff hw hafter.unixTimeUpdate (hTS ▸ hnonneg) (hTS ▸ hlt)
    (ahead_lt realtime t x.age), hTS]
  exact forall₂_congr fun d _ => by rw [hmillis]

/-- One request, answered within a millisecond of the first test. -/
def answered (d : Datagram Unit) : TimedRound Unit where
  address := 0xC0A80001
  delay := 500 * 10 ^ 6
  polls := [⟨10 ^ 6, [d], 0, 50 * 10 ^ 6, 10 * 10 ^ 6⟩]

theorem getUNIXTime_synced_iff_slow :
    let x := run 32 (NTP.init : NTP 32) [] (1499999999 * 10 ^ 9)
      [answered (NTP.serverReply 3708988800 ())]
    x.sync.ntp.unixTimeTS = 1500000000 ∧ ∀ d < 2 ^ 31,
      NTP.Near (x.sync.ntp.getUNIXTime (Utils.millisOf (x.realtime + d * 10 ^ 6))) 1500000000 d := by
  intro x
  have htaken : x.taken = some ⟨1500000000, 501 * 10 ^ 6, 551 * 10 ^ 6⟩ := by decide +kernel
  have hresult : x.sync.result = some true := by decide +kernel
  obtain ⟨t, ht, hTS, -, hiff⟩ :=
    getUNIXTime_synced_iff (le_refl 32) (.inl rfl : 32 = 32 ∨ 32 = 64) hresult
  obtain rfl := Option.some.inj (htaken.symm.trans ht)
  exact ⟨hTS, hiff.2 ⟨by decide +kernel, .inl rfl⟩⟩

/-- A Raspberry Pi, which has no clock of its own, 20 seconds after its clock began at 1970: from the
return on `getUNIXTime` is twelve days ahead. -/
theorem synced_from_1970 :
    let x := run 32 (NTP.init : NTP 32) [] (20 * 10 ^ 9) [answered (NTP.serverReply 3708988800 ())]
    x.sync.result = some true ∧ x.sync.ntp.unixTimeTS = 1500000000 ∧
      x.sync.ntp.getUNIXTime (Utils.millisOf (x.realtime + 0 * 10 ^ 6)) = 1501056393 ∧
      ¬ NTP.Near (x.sync.ntp.getUNIXTime (Utils.millisOf (x.realtime + 0 * 10 ^ 6))) 1500000000 0 := by
  intro x
  have hnow : x.sync.ntp.getUNIXTime (Utils.millisOf (x.realtime + 0 * 10 ^ 6)) = 1501056393 := by
    decide +kernel
  refine ⟨by decide +kernel, by decide +kernel, hnow, ?_⟩
  rw [hnow, NTP.near_iff (q := 1056393) (by decide)]
  decide

end Clocked
end Terremoti
