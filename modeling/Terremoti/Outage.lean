import Terremoti.Core
import Terremoti.NtpRecover
import Terremoti.Queries

/-!
# A time-server outage (`loop`, `NTP::sync`)

On a clock that is not taken to be wrong an attempt is one round of `NTP::sync`: the lookup fails, a
reply comes, or the window closes (`Round.Ends`), and `sync` returns (`NTP.sync_quiet`,
`NTP.sync_answered`). The loop around it stops for a reply only. `Quiet` is its invariant;
`loop_waiting` and `loop_answered` are the call of `loop` while no attempt has got a reply and from
the first reply on, and `loop_returns_iff` puts them together. In an outage that does not end, the
detector's tick is never reached (`loop_unresolved`).
-/

namespace Terremoti

namespace Round
variable {τ : Type}

/-- The reply a round gets that begins with `queue` on the socket. -/
def reply (w : ℕ) (r : Round τ) (queue : List (Datagram τ)) : Option (Datagram τ) :=
  if r.address = 0 then none else (r.received w queue).find? NTP.isReply

def unread (w : ℕ) (r : Round τ) (queue : List (Datagram τ)) : List (Datagram τ) :=
  if r.address = 0 then queue else r.left w queue

def Ends (w : ℕ) (r : Round τ) (queue : List (Datagram τ)) : Prop :=
  r.address = 0 ∨ r.reply w queue ≠ none ∨ r.expires w = true

end Round

/-- The queue of the socket before the `n`th of a stream of attempts, as long as none gets a
reply. -/
def queueAt {τ : Type} (w : ℕ) (attempt : ℕ → Round τ) (queue : List (Datagram τ)) :
    ℕ → List (Datagram τ)
  | 0 => queue
  | n + 1 => (attempt n).unread w (queueAt w attempt queue n)

def replyAt {τ : Type} (w : ℕ) (attempt : ℕ → Round τ) (queue : List (Datagram τ)) (n : ℕ) :
    Option (Datagram τ) :=
  (attempt n).reply w (queueAt w attempt queue n)

/-! ### One attempt -/

namespace NTP
variable {w : ℕ} {τ : Type} (tw : ℕ) {n : NTP w} {queue : List (Datagram τ)} {r : Round τ}

/-- A call without a reply on a plausible clock: it returns `false` and keeps the time. -/
theorem sync_quiet (hnamed : n.ntpserver ≠ []) (hclock : coherentTime ≤ n.unixTimeTS)
    (hends : r.Ends w queue) (hnone : r.reply w queue = none) (more : List (Round τ)) :
    sync tw n queue (r :: more) =
      { ntp := { n with lastNTPServer := r.address }
        queue := r.unread w queue
        sent := if r.address = 0 then [] else [sendNTPpacket r.address]
        result := some false } := by
  rw [sync, if_neg hnamed]
  by_cases hr : r.address = 0
  · rw [syncLoop, if_pos hr, Round.unread, if_pos hr, if_pos hr]
    rfl
  · have hexpires : r.expires w = true := (hends.resolve_left hr).resolve_left (not_not.2 hnone)
    rw [Round.reply, if_neg hr] at hnone
    rw [syncLoop_quiet tw more hr rfl hnone, hexpires, if_neg (by simp),
      if_neg (not_lt.2 hclock), Round.unread, if_neg hr, if_neg hr]
    rfl

theorem sync_answered (hnamed : n.ntpserver ≠ []) {d : Datagram τ}
    (hd : r.reply w queue = some d) (htime : coherentTime ≤ time tw d) (more : List (Round τ)) :
    (sync tw n queue (r :: more)).result = some true ∧
      (sync tw n queue (r :: more)).ntp.unixTimeTS = time tw d := by
  have hr : r.address ≠ 0 := by
    intro hr
    rw [Round.reply, if_pos hr] at hd
    cases hd
  rw [Round.reply, if_neg hr] at hd
  obtain ⟨stamp, q, h⟩ := syncLoop_reply tw (x := { ntp := n, queue := queue }) hr rfl hd
  rw [sync, if_neg hnamed, h more, if_neg (not_lt.2 htime)]
  exact ⟨rfl, rfl⟩

end NTP

/-! ### The loop around the attempts -/

/-- The first reply is `d`, to the `m`th attempt. -/
def FirstReply {τ : Type} (w : ℕ) (attempt : ℕ → Round τ) (queue : List (Datagram τ)) (m : ℕ)
    (d : Datagram τ) : Prop :=
  (∀ k < m, replyAt w attempt queue k = none) ∧ replyAt w attempt queue m = some d

theorem firstReply_or_quiet {τ : Type} (w : ℕ) (attempt : ℕ → Round τ)
    (queue : List (Datagram τ)) (n : ℕ) :
    (∀ k < n, replyAt w attempt queue k = none) ∨
      ∃ m < n, ∃ d, FirstReply w attempt queue m d := by
  induction n with
  | zero => exact .inl (by simp)
  | succ n ih =>
    rcases ih with hnone | ⟨m, hm, d, hd⟩
    · cases hreply : replyAt w attempt queue n with
      | none =>
        refine .inl fun k hk => ?_
        rcases Nat.lt_succ_iff_lt_or_eq.1 hk with hk | rfl
        · exact hnone k hk
        · exact hreply
      | some d => exact .inr ⟨n, Nat.lt_succ_self n, d, hnone, hreply⟩
    · exact .inr ⟨m, Nat.lt_succ_of_lt hm, d, hd⟩

namespace Core
variable {w : ℕ} {D τ : Type} (tw : ℕ) {c : Core w D τ} {attempt : ℕ → Round τ}
  (more : ℕ → List (Round τ))

def scripts (attempt : ℕ → Round τ) (more : ℕ → List (Round τ)) (n : ℕ) : List (Round τ) :=
  attempt n :: more n

/-- The loop before its `n`th attempt, none having got a reply. -/
structure Quiet (c : Core w D τ) (attempt : ℕ → Round τ) (n : ℕ) (c' : Core w D τ) : Prop where
  ready : c'.Ready
  replies : c'.replies = queueAt w attempt c.replies n
  seismoLastMs : c'.seismoLastMs = c.seismoLastMs

theorem Quiet.step {n : ℕ} {c' : Core w D τ} (h : Quiet c attempt n c')
    (hends : (attempt n).Ends w (queueAt w attempt c.replies n))
    (hnone : replyAt w attempt c.replies n = none) :
    (c'.sync tw (scripts attempt more n)).2 = some false ∧
      Quiet c attempt (n + 1) (c'.sync tw (scripts attempt more n)).1 := by
  have hround := NTP.sync_quiet tw h.ready.named h.ready.clock (h.replies ▸ hends)
    (h.replies ▸ hnone) (more n)
  rw [sync, scripts, hround]
  refine ⟨rfl, ⟨h.ready.named, h.ready.clock⟩, ?_, h.seismoLastMs⟩
  rw [queueAt, ← h.replies]

theorem Quiet.answered {n : ℕ} {c' : Core w D τ} (h : Quiet c attempt n c') {d : Datagram τ}
    (hd : replyAt w attempt c.replies n = some d) (htime : NTP.coherentTime ≤ NTP.time tw d) :
    (c'.sync tw (scripts attempt more n)).2 = some true ∧
      (c'.sync tw (scripts attempt more n)).1.device.ntp.unixTimeTS = NTP.time tw d ∧
      (c'.sync tw (scripts attempt more n)).1.seismoLastMs = c.seismoLastMs := by
  rw [replyAt, ← h.replies] at hd
  obtain ⟨hresult, hclock⟩ := NTP.sync_answered tw h.ready.named hd htime (more n)
  exact ⟨hresult, hclock, h.seismoLastMs⟩

/-- Each attempt ends, as far as the loop gets, and a reply carries a plausible time. -/
structure Network (w tw : ℕ) (attempt : ℕ → Round τ) (queue : List (Datagram τ)) : Prop where
  ends : ∀ n, (∀ k < n, replyAt w attempt queue k = none) →
    (attempt n).Ends w (queueAt w attempt queue n)
  clock : ∀ n d, (∀ k < n, replyAt w attempt queue k = none) →
    replyAt w attempt queue n = some d → NTP.coherentTime ≤ NTP.time tw d

variable {tw} (hready : c.Ready) (hnet : Network w tw attempt c.replies)
include hready hnet

theorem quiet_after {n : ℕ} (hnone : ∀ k < n, replyAt w attempt c.replies k = none) :
    Quiet c attempt n (Retry.after (sync tw) (scripts attempt more) c n) ∧
      ∀ k < n, Retry.outcome (sync tw) (scripts attempt more) c k = some false := by
  induction n with
  | zero => exact ⟨⟨hready, rfl, rfl⟩, by simp⟩
  | succ n ih =>
    have hbefore : ∀ k < n, replyAt w attempt c.replies k = none :=
      fun k hk => hnone k (Nat.lt_succ_of_lt hk)
    obtain ⟨hquiet, hfail⟩ := ih hbefore
    have hstep := hquiet.step tw more (hnet.ends n hbefore)
      (hnone n (Nat.lt_succ_self n))
    refine ⟨hstep.2, fun k hk => ?_⟩
    rcases Nat.lt_succ_iff_lt_or_eq.1 hk with hk | rfl
    · exact hfail k hk
    · exact hstep.1

theorem run_quiet {n : ℕ} (hnone : ∀ k < n, replyAt w attempt c.replies k = none) :
    (Retry.run (sync tw) (Retry.first (scripts attempt more) n) c).returned = false ∧
      (Retry.run (sync tw) (Retry.first (scripts attempt more) n) c).calls = n := by
  rw [Retry.run_waiting (quiet_after more hready hnet hnone).2]
  exact ⟨rfl, rfl⟩

theorem run_answered {m n : ℕ} {d : Datagram τ}
    (hfirst : FirstReply w attempt c.replies m d) (hn : m < n) :
    ∃ c', Retry.run (sync tw) (Retry.first (scripts attempt more) n) c = ⟨c', m + 1, true⟩ ∧
      c'.device.ntp.unixTimeTS = NTP.time tw d ∧ c'.seismoLastMs = c.seismoLastMs := by
  obtain ⟨hquiet, hfail⟩ := quiet_after more hready hnet hfirst.1
  have htime := hnet.clock m d hfirst.1 hfirst.2
  obtain ⟨hresult, hanswered⟩ := hquiet.answered tw more hfirst.2 htime
  exact ⟨_, Retry.run_succeeds hfail hresult hn, hanswered⟩

end Core

/-! ### The call of `loop` -/

/-- The requests of the tick return. -/
structure LoopInput.Served {w : ℕ} {D τ : Type} (i : LoopInput w D τ) : Prop where
  trace : i.waits.trace = false
  alert : i.waits.alert = false

namespace Core
variable {w : ℕ} {D τ : Type} [DoubleText D] [Double D] (b : Build) {tw : ℕ} {i : LoopInput w D τ}
  {c : Core w D τ} {attempt : ℕ → Round τ} (more : ℕ → List (Round τ))

section Turn
variable (hready : c.Ready) (hnames : c.Names b i)
  (hrunning : (c.beforeSync b i).device.status = .running) (hserved : i.Served)
  (hnet : Network w tw attempt c.replies)
include hready hnames hrunning

section Served
include hserved

theorem loop_undue (hdue : due i.ntp.test c.ntpLastMs NTP_SYNC_INTERVAL = false)
    (attempts : List (List (Round τ))) :
    (c.loop b tw i attempts).Complete 0
      (due i.seismo.test c.seismoLastMs SEISMOMETER_TICK_INTERVAL) := by
  obtain ⟨-, hframe⟩ := beforeSync_ready b hready hnames
  rw [← hframe.ntpLastMs] at hdue
  rw [loop_idle b tw _ hrunning hdue, ← hframe.seismoLastMs]
  exact finish_complete hserved.trace hserved.alert 0 _

end Served

variable (hdue : due i.ntp.test c.ntpLastMs NTP_SYNC_INTERVAL = true)
include hnet hdue

theorem loop_waiting {n : ℕ} (hnone : ∀ k < n, replyAt w attempt c.replies k = none) :
    let t := c.loop b tw i (Retry.first (scripts attempt more) n)
    t.returned = false ∧ t.syncs = n ∧ t.tick = none := by
  obtain ⟨hready₁, hframe⟩ := beforeSync_ready b hready hnames
  rw [← hframe.ntpLastMs] at hdue
  rw [← hframe.replies] at hnet hnone
  obtain ⟨hreturned, hcalls⟩ := run_quiet more hready₁ hnet hnone
  rw [loop_due b tw _ hrunning hdue, if_neg (by simp [hreturned])]
  exact ⟨rfl, hcalls, rfl⟩

include hserved in
theorem loop_answered {m n : ℕ} {d : Datagram τ} (hfirst : FirstReply w attempt c.replies m d)
    (hn : m < n) :
    (c.loop b tw i (Retry.first (scripts attempt more) n)).Complete (m + 1)
      (due i.seismo.test c.seismoLastMs SEISMOMETER_TICK_INTERVAL) := by
  obtain ⟨hready₁, hframe⟩ := beforeSync_ready b hready hnames
  rw [← hframe.ntpLastMs] at hdue
  rw [← hframe.replies] at hnet hfirst
  obtain ⟨c', hrun, -, hseismo⟩ := run_answered more hready₁ hnet hfirst hn
  rw [loop_due b tw _ hrunning hdue, hrun, ← hframe.seismoLastMs, ← hseismo]
  exact finish_complete hserved.trace hserved.alert (m + 1) _

end Turn

/-- In a state with a server name and a plausible clock, whatever the network does, a call of `loop`
that does not reboot or upgrade the device, whose pings and HTTP requests return, and that loses no
server name makes attempts up to the first that gets a reply. So it ends, if a synchronisation is
due, exactly when one does, and with no attempt if none is due; and when it ends it has ticked if
that was due. -/
theorem loop_returns_iff (hready : c.Ready) (hnames : c.Names b i)
    (hrunning : (c.beforeSync b i).device.status = .running) (hserved : i.Served)
    (hnet : Network w tw attempt c.replies) :
    let turn := fun n => c.loop b tw i (Retry.first (scripts attempt more) n)
    let syncDue := due i.ntp.test c.ntpLastMs NTP_SYNC_INTERVAL
    let tickDue := due i.seismo.test c.seismoLastMs SEISMOMETER_TICK_INTERVAL
    ((∃ n, (turn n).returned = true) ↔
      (syncDue = true → ∃ m d, FirstReply w attempt c.replies m d)) ∧
    (∀ n, (turn n).returned = true → (turn n).tick.isSome = tickDue) ∧
    (∀ n, syncDue = false → (turn n).Complete 0 tickDue) ∧
    (∀ m d, syncDue = true → FirstReply w attempt c.replies m d → ∀ n, m < n →
      (turn n).Complete (m + 1) tickDue) ∧
    (∀ n, syncDue = true → (∀ k < n, replyAt w attempt c.replies k = none) →
      (turn n).returned = false ∧ (turn n).syncs = n ∧ (turn n).tick = none) := by
  intro turn syncDue tickDue
  have hundue : ∀ n, syncDue = false → (turn n).Complete 0 tickDue :=
    fun n hdue => loop_undue b hready hnames hrunning hserved hdue _
  have hanswered : ∀ m d, syncDue = true → FirstReply w attempt c.replies m d → ∀ n, m < n →
      (turn n).Complete (m + 1) tickDue :=
    fun m d hdue hfirst n hn => loop_answered b more hready hnames hrunning hserved hnet hdue hfirst
      hn
  have hwaiting : ∀ n, syncDue = true → (∀ k < n, replyAt w attempt c.replies k = none) →
      (turn n).returned = false ∧ (turn n).syncs = n ∧ (turn n).tick = none :=
    fun n hdue hnone => loop_waiting b more hready hnames hrunning hnet hdue hnone
  -- a call that has returned is one of the first two kinds
  have hreturned : ∀ n, (turn n).returned = true → syncDue = false ∨
      ∃ m < n, ∃ d, FirstReply w attempt c.replies m d := by
    intro n hret
    cases hdue : syncDue with
    | false => exact .inl rfl
    | true =>
      rcases firstReply_or_quiet w attempt c.replies n with hnone | hfirst
      · rw [(hwaiting n hdue hnone).1] at hret
        cases hret
      · exact .inr hfirst
  refine ⟨⟨?_, fun h => ?_⟩, fun n hret => ?_, hundue, hanswered, hwaiting⟩
  · rintro ⟨n, hret⟩ hdue
    rcases hreturned n hret with hundue | ⟨m, -, d, hfirst⟩
    · rw [hundue] at hdue
      cases hdue
    · exact ⟨m, d, hfirst⟩
  · cases hdue : syncDue with
    | false => exact ⟨0, (hundue 0 hdue).returned⟩
    | true =>
      obtain ⟨m, d, hfirst⟩ := h hdue
      exact ⟨m + 1, (hanswered m d hdue hfirst _ (Nat.lt_succ_self m)).returned⟩
  · cases hdue : syncDue with
    | false => exact (hundue n hdue).tick
    | true =>
      obtain ⟨m, hm, d, hfirst⟩ := (hreturned n hret).resolve_left (by simp [hdue])
      exact (hanswered m d hdue hfirst n hm).tick

/-! ### An hour after the last synchronisation -/

def idle : Core w D Unit where
  device := { Device.init with ntp := { NTP.init with unixTimeTS := NTP.coherentTime } }
  commands := []
  replies := []
  lastBeat := 0
  netLastMs := 0
  cfgLastMs := 0
  ntpLastMs := 0
  seismoLastMs := 0
  logRotationMs := 0

def hourly : LoopInput w D Unit where
  beat := ⟨0, 0⟩
  watchdogFile := true
  arrived := []
  command := calmInput
  net := ⟨0, 0⟩
  mac_address := none
  pings := refusedPings
  cfg := ⟨0, 0⟩
  resp := ⟨.HTTP_CONNECTION_TIMEOUT, 0, none⟩
  traceStart := 0
  ntp := ⟨3600000, 3605000⟩
  seismo := ⟨3605000, 3605001⟩
  ts := 3605000
  accel := (0 : ℕ)
  traceTest := 3605000
  clock := ⟨3605000, 3605000, 3605000, 3605000, 3605000⟩
  rotation := 3605001

def unresolved : Round Unit := ⟨0, 0, []⟩

theorem idle_hourly :
    (idle : Core 64 ℝ Unit).Ready ∧ (idle : Core 64 ℝ Unit).Names ⟨.linux_x86, false⟩ hourly ∧
      ((idle : Core 64 ℝ Unit).beforeSync ⟨.linux_x86, false⟩ hourly).device.status = .running :=
  ⟨⟨by decide, le_refl NTP.coherentTime⟩, fun hdue => absurd hdue (by decide), rfl⟩

/-- The name of the server never resolves: the call does not return, however many attempts it makes,
and does not come to the tick, which is due. -/
theorem loop_unresolved :
    let c : Core 64 ℝ Unit := idle
    let i : LoopInput 64 ℝ Unit := hourly
    c.Ready ∧ due i.seismo.test c.seismoLastMs SEISMOMETER_TICK_INTERVAL = true ∧
      ∀ n, let t := c.loop ⟨.linux_x86, false⟩ 64 i (Retry.first (fun _ => [unresolved]) n)
        t.returned = false ∧ t.syncs = n ∧ t.tick = none := by
  obtain ⟨hready, hnames, hrunning⟩ := idle_hourly
  have hnet : Network 64 64 (fun _ => unresolved) [] :=
    ⟨fun n _ => .inl rfl, fun n d _ h => by cases h⟩
  refine ⟨hready, by decide, fun n => ?_⟩
  exact loop_waiting _ (fun _ => []) hready hnames hrunning hnet (by decide) fun k _ => rfl

/-- The lookup fails once, then a reply comes: two attempts, and the tick. -/
theorem loop_returns_iff_second :
    let d := NTP.serverReply 3708988800 ()
    let attempt := fun n => if n = 0 then unresolved else NTP.roundWith 0 d
    ((idle : Core 64 ℝ Unit).loop ⟨.linux_x86, false⟩ 64 hourly
      (Retry.first (scripts attempt fun _ => []) 2)).Complete 2 true := by
  intro d attempt
  have hreply : replyAt 64 attempt [] 1 = some d := by
    have hreceived : (NTP.roundWith 0 (NTP.serverReply 3708988800 ())).received 64 [] =
        [NTP.serverReply 3708988800 ()] := rfl
    show (NTP.roundWith 0 (NTP.serverReply 3708988800 ())).reply 64 [] = _
    rw [Round.reply, hreceived]
    rfl
  have hfirst : FirstReply 64 attempt [] 1 d :=
    ⟨fun k hk => by rw [Nat.lt_one_iff.1 hk]; rfl, hreply⟩
  have hreached : ∀ n, (∀ k < n, replyAt 64 attempt [] k = none) → n = 0 ∨ n = 1 := by
    intro n h
    by_contra hn
    rw [h 1 (by omega)] at hreply
    cases hreply
  have hnet : Network 64 64 attempt [] := by
    refine ⟨fun n h => ?_, fun n d' h hd => ?_⟩
    · rcases hreached n h with rfl | rfl
      · exact .inl rfl
      · exact .inr (.inl (by rw [← replyAt, hreply]; simp))
    · rcases hreached n h with rfl | rfl
      · cases hd
      · rw [hreply] at hd
        obtain rfl := Option.some.inj hd
        decide
  obtain ⟨hready, hnames, hrunning⟩ := idle_hourly
  exact (loop_returns_iff _ (fun _ => []) hready hnames hrunning ⟨rfl, rfl⟩ hnet).2.2.2.1 1 _
    (by decide) hfirst 2 (by omega)

end Core
end Terremoti
