import Terremoti.NTP

/-!
# Bad time replies (`NTP::sync`)

What a call of `sync` makes of the datagrams it receives before the first one with a plausible time.
`Round.receivedAll` is what a reader that polls through every window takes, round by round.
`syncLoop_resume` follows the call up to a round: either no reply has been received and the call
listens (`ret` clear), or a bad reply has, and then `ret` is set on an implausible clock.
`syncLoop_spin` is the latter state: `ret` is not cleared between rounds, so no window is opened and
the outer loop repeats as long as the name resolves. `sync_recovers_iff` draws the line between the
two.
-/

namespace Terremoti

namespace Round
variable {τ : Type}

/-- What a reader that polls through the windows of some rounds receives. -/
def receivedAll (w : ℕ) : List (Round τ) → List (Datagram τ) → List (Datagram τ)
  | [], _ => []
  | r :: rounds, queue => r.received w queue ++ receivedAll w rounds (r.left w queue)

def leftAll (w : ℕ) (rounds : List (Round τ)) (queue : List (Datagram τ)) : List (Datagram τ) :=
  rounds.foldl (fun queue r => r.left w queue) queue

end Round

namespace NTP
variable {w : ℕ} {τ : Type}

/-! ### After a bad reply -/

theorem syncLoop_spin_step (tw : ℕ) {r : Round τ} (rounds : List (Round τ)) {x : Sync w τ}
    (hr : r.address ≠ 0) (hret : x.ret = true) (hts : x.ntp.unixTimeTS < coherentTime) :
    syncLoop tw (r :: rounds) x =
      syncLoop tw rounds
        { requested r.address x with queue := x.queue ++ arrivals r.polls } := by
  rw [syncLoop, if_neg hr, waitReply_of_ret tw _ _ (x := requested r.address x) hret]
  dsimp only
  rw [if_neg (by simp),
    if_pos (show (requested r.address x).ntp.unixTimeTS < coherentTime from hts)]
  rfl

/-- The outer loop is stuck: rounds that resolve the name leave the call running, whatever arrives,
and leave it in a state of the same kind. -/
theorem syncLoop_spin (tw : ℕ) (rounds : List (Round τ)) {x : Sync w τ}
    (hr : ∀ r ∈ rounds, r.address ≠ 0) (hret : x.ret = true)
    (hts : x.ntp.unixTimeTS < coherentTime) :
    ∃ y : Sync w τ, (∀ rest, syncLoop tw (rounds ++ rest) x = syncLoop tw rest y) ∧
      y.ret = true ∧ y.ntp.unixTimeTS < coherentTime ∧ y.result = x.result := by
  induction rounds generalizing x with
  | nil => exact ⟨x, fun _ => rfl, hret, hts, rfl⟩
  | cons r rounds ih =>
    obtain ⟨hr0, hr⟩ := List.forall_mem_cons.1 hr
    obtain ⟨y, hy, hyret, hyts, hyres⟩ := ih hr
      (x := { requested r.address x with queue := x.queue ++ arrivals r.polls }) hret hts
    refine ⟨y, fun rest => ?_, hyret, hyts, hyres⟩
    rw [List.cons_append, syncLoop_spin_step tw _ hr0 hret hts, hy]

theorem syncLoop_spin_result (tw : ℕ) (rounds : List (Round τ)) {x : Sync w τ}
    (hr : ∀ r ∈ rounds, r.address ≠ 0) (hret : x.ret = true)
    (hts : x.ntp.unixTimeTS < coherentTime) :
    (syncLoop tw rounds x).result = x.result := by
  obtain ⟨y, hy, -, -, hres⟩ := syncLoop_spin tw rounds hr hret hts
  have h := hy []
  rw [List.append_nil] at h
  rw [h, ← hres, syncLoop]

/-! ### Up to a round -/

/-- The states in which a call may be when it comes to its next round. -/
inductive Underway (queue : List (Datagram τ)) (heard : List (Datagram τ)) (y : Sync w τ) : Prop
  | clear (hret : y.ret = false) (hqueue : y.queue = queue)
      (hheard : ∀ b ∈ heard, isReply b = false)
  | spoiled (hret : y.ret = true) (hts : y.ntp.unixTimeTS < coherentTime)
      (hheard : ∃ b ∈ heard, isReply b = true)

/-- A round that neither returns nor goes on waiting, entered with `ret` clear. -/
theorem syncLoop_resume_step (tw : ℕ) {r : Round τ} {x : Sync w τ} (hr : r.address ≠ 0)
    (hexpires : r.expires w = true) (hret : x.ret = false) (hres : x.result = none)
    (hrunning : ∃ rest, (syncLoop tw (r :: rest) x).result = none)
    (hbad : ∀ b ∈ r.received w x.queue, isReply b = true → time tw b < coherentTime) :
    ∃ y : Sync w τ, (∀ rest, syncLoop tw (r :: rest) x = syncLoop tw rest y) ∧ y.result = none ∧
      Underway (r.left w x.queue) (r.received w x.queue) y := by
  cases hfind : (r.received w x.queue).find? isReply with
  | none =>
    have hquiet := fun rest => syncLoop_quiet tw rest hr hret hfind
    simp only [hexpires, Bool.true_eq_false, if_false] at hquiet
    obtain ⟨rest₀, hrest₀⟩ := hrunning
    by_cases hts : x.ntp.unixTimeTS < coherentTime
    · simp only [hts, if_true] at hquiet
      refine ⟨_, hquiet, hres, .clear hret rfl fun b hb => ?_⟩
      exact Bool.eq_false_iff.2 (List.find?_eq_none.1 hfind b hb)
    · -- on a plausible clock the call would have returned
      rw [hquiet rest₀, if_neg hts] at hrest₀
      simp at hrest₀
  | some b =>
    have hb := List.mem_of_find?_eq_some hfind
    have hreply := List.find?_some hfind
    obtain ⟨stamp, queue, hloop⟩ : ∃ stamp queue, ∀ rest, syncLoop tw (r :: rest) x =
        syncLoop tw rest (store tw (b.data.take NTP_PACKET_SIZE) b.tag stamp
          { requested r.address x with queue := queue }) := by
      obtain ⟨stamp, queue, h⟩ := syncLoop_reply tw hr hret hfind
      refine ⟨stamp, queue, fun rest => ?_⟩
      rw [h rest, if_pos (hbad b hb hreply)]
    exact ⟨_, hloop, hres, .spoiled rfl (hbad b hb hreply) ⟨b, hb, hreply⟩⟩

theorem syncLoop_resume (tw : ℕ) {earlier : List (Round τ)} {x : Sync w τ}
    (hr : ∀ e ∈ earlier, e.address ≠ 0) (hexpires : ∀ e ∈ earlier, e.expires w = true)
    (hret : x.ret = false) (hres : x.result = none)
    (hrunning : (syncLoop tw earlier x).result = none)
    (hbad : ∀ b ∈ Round.receivedAll w earlier x.queue,
      isReply b = true → time tw b < coherentTime) :
    ∃ y : Sync w τ, (∀ rest, syncLoop tw (earlier ++ rest) x = syncLoop tw rest y) ∧
      y.result = none ∧
      Underway (Round.leftAll w earlier x.queue) (Round.receivedAll w earlier x.queue) y := by
  induction earlier generalizing x with
  | nil => exact ⟨x, fun _ => rfl, hres, .clear hret rfl (by simp [Round.receivedAll])⟩
  | cons e earlier ih =>
    obtain ⟨hr0, hr⟩ := List.forall_mem_cons.1 hr
    obtain ⟨he0, hexpires⟩ := List.forall_mem_cons.1 hexpires
    rw [Round.receivedAll, List.forall_mem_append] at hbad
    obtain ⟨z, hz, hzres, hunder⟩ :=
      syncLoop_resume_step tw hr0 he0 hret hres ⟨earlier, hrunning⟩ hbad.1
    rcases hunder with ⟨hzret, hzqueue, hzheard⟩ | ⟨hzret, hzts, b, hb, hreply⟩
    · rw [hz] at hrunning
      obtain ⟨y, hy, hyres, hunder⟩ := ih hr hexpires hzret hzres hrunning (hzqueue ▸ hbad.2)
      refine ⟨y, fun rest => by rw [List.cons_append, hz, hy], hyres, ?_⟩
      rw [hzqueue] at hunder
      rcases hunder with ⟨hyret, hyqueue, hyheard⟩ | ⟨hyret, hyts, b, hb, hreply⟩
      · exact .clear hyret hyqueue (List.forall_mem_append.2 ⟨hzheard, hyheard⟩)
      · exact .spoiled hyret hyts ⟨b, List.mem_append_right _ hb, hreply⟩
    · obtain ⟨y, hy, hyret, hyts, hyres⟩ := syncLoop_spin tw earlier hr hzret hzts
      refine ⟨y, fun rest => by rw [List.cons_append, hz, hy], hyres.trans hzres, ?_⟩
      exact .spoiled hyret hyts ⟨b, List.mem_append_left _ hb, hreply⟩

/-! ### The round in which a good reply is received -/

/-- With `ret` still clear, a round whose first reply is good returns its time. -/
theorem syncLoop_good (tw : ℕ) {r : Round τ} {x : Sync w τ} {before after : List (Datagram τ)}
    {d : Datagram τ} (hr : r.address ≠ 0) (hret : x.ret = false)
    (hreceived : r.received w x.queue = before ++ d :: after) (hd : isReply d = true)
    (htime : coherentTime ≤ time tw d) (hbefore : ∀ b ∈ before, isReply b = false)
    (rest : List (Round τ)) :
    (syncLoop tw (r :: rest) x).result = some true ∧
      (syncLoop tw (r :: rest) x).ntp.unixTimeTS = time tw d := by
  have hfind : (r.received w x.queue).find? isReply = some d := by
    rw [hreceived, List.find?_append, List.find?_eq_none.2 fun b hb => by simp [hbefore b hb],
      Option.none_or, List.find?_cons_of_pos hd]
  obtain ⟨stamp, queue, h⟩ := syncLoop_reply tw hr hret hfind
  rw [h rest, if_neg (not_lt.2 htime)]
  exact ⟨rfl, rfl⟩

theorem syncLoop_bad (tw : ℕ) {r : Round τ} {x : Sync w τ} {b : Datagram τ} (hr : r.address ≠ 0)
    (hret : x.ret = false) (hfind : (r.received w x.queue).find? isReply = some b)
    (hbad : time tw b < coherentTime) {rest : List (Round τ)} (hrest : ∀ e ∈ rest, e.address ≠ 0) :
    (syncLoop tw (r :: rest) x).result = x.result := by
  obtain ⟨stamp, queue, h⟩ := syncLoop_reply tw hr hret hfind
  rw [h rest, if_pos hbad]
  exact syncLoop_spin_result tw rest hrest rfl hbad

/-- A call that comes to the round `r` and would receive there, after short datagrams and replies
with an implausible time, a datagram `d` with a plausible one: it returns `true` with the time of
`d` at the end of the round exactly when `d` is the first full datagram of the call, and otherwise
no further round in which the name resolves ever ends it. -/
theorem sync_recovers_iff (tw : ℕ) {n : NTP w} {queue : List (Datagram τ)}
    {earlier : List (Round τ)} {r : Round τ} {before after : List (Datagram τ)} {d : Datagram τ}
    (hserver : n.ntpserver ≠ []) (hresolves : ∀ e ∈ earlier ++ [r], e.address ≠ 0)
    (hexpires : ∀ e ∈ earlier, e.expires w = true)
    (hrunning : (sync tw n queue earlier).result = none)
    (hreceived : r.received w (Round.leftAll w earlier queue) = before ++ d :: after)
    (hd : isReply d = true) (htime : coherentTime ≤ time tw d)
    (hbad : ∀ b ∈ Round.receivedAll w earlier queue ++ before,
      isReply b = true → time tw b < coherentTime) :
    (((sync tw n queue (earlier ++ [r])).result = some true ∧
        (sync tw n queue (earlier ++ [r])).ntp.unixTimeTS = time tw d) ↔
      ∀ b ∈ Round.receivedAll w earlier queue ++ before, isReply b = false) ∧
    ((∃ rest, (∀ e ∈ rest, e.address ≠ 0) ∧
        (sync tw n queue (earlier ++ r :: rest)).result ≠ none) ↔
      ∀ b ∈ Round.receivedAll w earlier queue ++ before, isReply b = false) := by
  simp only [sync, if_neg hserver] at hrunning ⊢
  obtain ⟨hresolves, hr⟩ := List.forall_mem_append.1 hresolves
  replace hr := hr r (List.mem_singleton_self r)
  rw [List.forall_mem_append] at hbad
  obtain ⟨y, hy, hyres, hunder⟩ :=
    syncLoop_resume tw (x := { ntp := n, queue := queue }) hresolves hexpires rfl rfl hrunning hbad.1
  have hy1 := hy [r]
  by_cases hfirst : ∀ b ∈ Round.receivedAll w earlier queue ++ before, isReply b = false
  · rw [List.forall_mem_append] at hfirst
    rcases hunder with ⟨hret, hqueue, -⟩ | ⟨-, -, b, hb, hreply⟩
    · have hgood := syncLoop_good tw hr hret (hqueue ▸ hreceived) hd htime hfirst.2
      rw [hy1]
      refine ⟨iff_of_true (hgood []) (List.forall_mem_append.2 hfirst),
        iff_of_true ⟨[], by simp, ?_⟩ (List.forall_mem_append.2 hfirst)⟩
      rw [hy1, (hgood []).1]
      simp
    · rw [hfirst.1 b hb] at hreply
      cases hreply
  · -- a bad reply came first: the call is stuck whatever follows
    have hstuck : ∀ rest : List (Round τ), (∀ e ∈ rest, e.address ≠ 0) →
        (syncLoop tw (earlier ++ r :: rest) { ntp := n, queue := queue }).result = none := by
      intro rest hrest
      rw [hy]
      rcases hunder with ⟨hret, hqueue, hheard⟩ | ⟨hret, hts, -⟩
      · obtain ⟨b, hb, hreply⟩ : ∃ b ∈ before, isReply b = true := by
          by_contra hnone
          refine hfirst (List.forall_mem_append.2 ⟨hheard, fun b hb => ?_⟩)
          exact Bool.eq_false_iff.2 fun h => hnone ⟨b, hb, h⟩
        obtain ⟨b', hfirst⟩ : ∃ b', before.find? isReply = some b' :=
          Option.isSome_iff_exists.1 (List.find?_isSome.2 ⟨b, hb, hreply⟩)
        have hfind : (r.received w y.queue).find? isReply = some b' := by
          rw [hqueue, hreceived, List.find?_append, hfirst, Option.some_or]
        have hlt := hbad.2 b' (List.mem_of_find?_eq_some hfirst) (List.find?_some hfirst)
        exact (syncLoop_bad tw hr hret hfind hlt hrest).trans hyres
      · exact (syncLoop_spin_result tw _ (List.forall_mem_cons.2 ⟨hr, hrest⟩) hret hts).trans hyres
    refine ⟨iff_of_false (fun h => ?_) hfirst, iff_of_false ?_ hfirst⟩
    · rw [hstuck [] (by simp)] at h
      cases h.1
    · rintro ⟨rest, hrest, hres⟩
      exact hres (hstuck rest hrest)

/-- A datagram of 48 bytes, zero but for the seconds since 1900 of the transmit timestamp. -/
def serverReply (seconds : BitVec 32) (tag : τ) : Datagram τ where
  src := 0x0A000001
  port := 123
  data := List.replicate 40 0 ++
    [seconds.extractLsb' 24 8, seconds.extractLsb' 16 8, seconds.extractLsb' 8 8,
      seconds.extractLsb' 0 8] ++ List.replicate 4 0
  tag := tag

def roundWith (start : BitVec 32) (d : Datagram τ) : Round τ where
  address := 0x0A000001
  responseMill := start
  polls := [⟨start, [d], start + 50⟩, ⟨start + 5000, [], start + 5000⟩]

/-- On the initial clock, a good reply in the second round, after a truncated one in the first. -/
theorem sync_recovers_iff_truncated :
    (sync 64 (init : NTP 64) []
      [roundWith 0 { serverReply 3708988800 () with data := [] },
        roundWith 10000 (serverReply 3708988800 ())]).result = some true := by
  have hrunning : (sync 64 (init : NTP 64) []
      [roundWith 0 { serverReply 3708988800 () with data := [] }]).result = none := by decide
  have hreceived : (roundWith 10000 (serverReply 3708988800 ())).received 64
      (Round.leftAll 64 [roundWith 0 { serverReply 3708988800 () with data := [] }] []) =
      [] ++ serverReply 3708988800 () :: [] := rfl
  have h := (sync_recovers_iff 64 (by decide) (by simp [roundWith]) (by decide)
    hrunning hreceived (by decide) (by decide) (by decide)).1
  exact (h.2 (by decide)).1

/-- A reply with a zero transmit timestamp in the first round, a good reply in the second: the call
has not returned after the second round, nor does it after any further ones. -/
theorem sync_zero_timestamp :
    (roundWith 0 (serverReply 0 ())).received 64 [] = [serverReply 0 ()] ∧
    (roundWith 10000 (serverReply 3708988800 ())).received 64 [] = [serverReply 3708988800 ()] ∧
    time 64 (serverReply 0 ()) < coherentTime ∧ coherentTime ≤ time 64 (serverReply 3708988800 ()) ∧
    ∀ rest : List (Round Unit), (∀ e ∈ rest, e.address ≠ 0) →
      (sync 64 (init : NTP 64) [] (roundWith 0 (serverReply 0 ()) ::
        roundWith 10000 (serverReply 3708988800 ()) :: rest)).result = none := by
  refine ⟨rfl, rfl, by decide, by decide, fun rest hrest => ?_⟩
  rw [sync, if_neg (by decide)]
  exact syncLoop_bad 64 (x := { ntp := init, queue := [] }) (b := serverReply 0 ()) (by decide) rfl
    rfl (by decide) (List.forall_mem_cons.2 ⟨by decide, hrest⟩)

end NTP
end Terremoti
