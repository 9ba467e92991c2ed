import Terremoti.NtpRecover

/-!
# Replies and requests (`NTP::sync`, `Udp::receive`)

Runs of `sync` calls over one socket queue. `Udp::receive` is called without a source address and
nothing in a packet is compared with the request, so a call takes its time from the first datagram
of 48 bytes it finds, in order of arrival, be it left over from before the call, late for an earlier
call, or sent by somebody else: `sync_first` for one call, `calls_first` for every call of a run.
`Honest` is a network that delivers replies after their requests, at any time and in any order; it
may keep a reply for the call after (`sync_late_reply`).
-/

namespace Terremoti

/-- Where a datagram on the NTP socket comes from: a time server's reply to request `round` of call
`call`, or anything else. -/
inductive Origin
  | reply (call round : ℕ)
  | foreign
  deriving DecidableEq

/-- A call of `sync`: the server configured for it, the datagrams that reached the socket since the
call before, and its rounds. -/
structure Call (τ : Type) where
  ntpserver : List Byte
  before : List (Datagram τ)
  rounds : List (Round τ)

/-- A call as it took place: what was in the socket queue when it began, its rounds, and its end. -/
structure Called (w : ℕ) (τ : Type) where
  start : NTP w
  pending : List (Datagram τ)
  rounds : List (Round τ)
  out : Sync w τ

namespace NTP
variable {w : ℕ} {τ : Type}

def calls (tw : ℕ) : NTP w → List (Datagram τ) → List (Call τ) → List (Called w τ)
  | _, _, [] => []
  | n, queue, c :: rest =>
    let n := n.setNTPServer c.ntpserver
    let out := sync tw n (queue ++ c.before) c.rounds
    ⟨n, queue ++ c.before, c.rounds, out⟩ ::
      if out.result = none then [] else calls tw out.ntp out.queue rest

def callArrivals (rounds : List (Round τ)) : List (Datagram τ) :=
  (rounds.map fun r => NTP.arrivals r.polls).flatten

/-! ### One call -/

/-- What a call may have done to the clock, given the datagrams in order of arrival: nothing, or it
holds the time of the first full datagram. -/
def StoresFirst (tw : ℕ) (n : NTP w) (queue : List (Datagram τ)) (out : Sync w τ) : Prop :=
  (out.stored = none ∧ out.ntp.unixTimeTS = n.unixTimeTS) ∨
  ∃ d, queue.find? isReply = some d ∧ out.stored = some d.tag ∧ out.ntp.unixTimeTS = time tw d

theorem StoresFirst.prepend {tw : ℕ} {n : NTP w} {queue short : List (Datagram τ)} {out : Sync w τ}
    (h : StoresFirst tw n queue out) (hshort : short.find? isReply = none) :
    StoresFirst tw n (short ++ queue) out := by
  rcases h with h | ⟨d, hd, h⟩
  · exact .inl h
  · exact .inr ⟨d, by rw [List.find?_append, hshort, Option.none_or, hd], h⟩

theorem syncLoop_first (tw : ℕ) (rounds : List (Round τ)) {x : Sync w τ}
    (hret : x.ret = false) (hstored : x.stored = none) :
    StoresFirst tw x.ntp (x.queue ++ callArrivals rounds) (syncLoop tw rounds x) := by
  induction rounds generalizing x with
  | nil => exact .inl ⟨hstored, rfl⟩
  | cons r rounds ih =>
    by_cases hr : r.address = 0
    · rw [syncLoop, if_pos hr]
      exact .inl ⟨hstored, rfl⟩
    have harrivals : x.queue ++ callArrivals (r :: rounds) =
        r.received w x.queue ++ (r.left w x.queue ++ callArrivals rounds) := by
      rw [← List.append_assoc, Round.received_append_left, List.append_assoc]
      rfl
    rw [harrivals]
    cases hfind : (r.received w x.queue).find? isReply with
    | none =>
      refine StoresFirst.prepend ?_ hfind
      rw [syncLoop_quiet tw rounds hr hret hfind]
      split
      · exact .inl ⟨hstored, rfl⟩
      split
      · exact ih (x := { requested r.address x with queue := r.left w x.queue }) hret hstored
      · exact .inl ⟨hstored, rfl⟩
    | some d =>
      obtain ⟨stamp, queue, h⟩ := syncLoop_reply tw hr hret hfind
      refine .inr ⟨d, by rw [List.find?_append, hfind, Option.some_or], ?_⟩
      rw [h rounds]
      split
      · obtain ⟨hts, htag⟩ := syncLoop_of_ret tw rounds (x := store tw
          (d.data.take NTP_PACKET_SIZE) d.tag stamp { requested r.address x with queue := queue }) rfl
        exact ⟨htag, hts⟩
      · exact ⟨rfl, rfl⟩

theorem sync_first (tw : ℕ) (n : NTP w) (queue : List (Datagram τ)) (rounds : List (Round τ)) :
    StoresFirst tw n (queue ++ callArrivals rounds) (sync tw n queue rounds) := by
  rw [sync]
  split
  · exact .inl ⟨rfl, rfl⟩
  · exact syncLoop_first tw rounds (x := { ntp := n, queue := queue }) rfl rfl

/-! ### Runs of calls -/

/-- Whenever a call of a run sets the clock, the value is that of the first full datagram among
those pending when the call began and those that arrived during it; otherwise it leaves it alone. -/
theorem calls_first (tw : ℕ) (n : NTP w) (queue : List (Datagram τ)) (cs : List (Call τ)) :
    ∀ c ∈ calls tw n queue cs,
      StoresFirst tw c.start (c.pending ++ callArrivals c.rounds) c.out := by
  induction cs generalizing n queue with
  | nil => simp [calls]
  | cons c cs ih =>
    rw [calls, List.forall_mem_cons]
    refine ⟨sync_first tw _ _ _, ?_⟩
    split
    · simp
    · exact ih _ _

def FromCall (i : ℕ) (o : Origin) : Prop := ∃ round, o = .reply i round

/-- In every run, a call that sets the clock takes the time of the first full datagram in its queue,
and so from a reply to one of its own requests exactly when that datagram is one. -/
theorem calls_matched_iff (tw : ℕ) (n : NTP w) (queue : List (Datagram Origin))
    (cs : List (Call Origin)) {i : ℕ} {c : Called w Origin} {o : Origin}
    (hc : (calls tw n queue cs)[i]? = some c) (hset : c.out.stored = some o) :
    ∃ d, (c.pending ++ callArrivals c.rounds).find? isReply = some d ∧
      c.out.ntp.unixTimeTS = time tw d ∧ (FromCall i o ↔ FromCall i d.tag) := by
  rcases calls_first tw n queue cs c (List.mem_of_getElem? hc) with
    ⟨hnone, -⟩ | ⟨d, hd, hstored, hts⟩
  · rw [hnone] at hset
    cases hset
  · obtain rfl : d.tag = o := Option.some.inj (hstored.symm.trans hset)
    exact ⟨d, hd, hts, Iff.rfl⟩

/-- The request has been sent, after the calls `done` and `now` requests of the next one. -/
def requestedBy (done : List (Called w Origin)) (now : ℕ) : Origin → Bool
  | .foreign => true
  | .reply call round =>
    match done[call]? with
    | some c => decide (round < c.out.sent.length)
    | none => decide (call = done.length ∧ round < now)

/-- The network of a run delivers a reply only after its request, at whatever time. -/
def Honest (tw : ℕ) (n : NTP w) (cs : List (Call Origin)) : Prop :=
  ∀ c ∈ cs.zipIdx, let done := (calls tw n [] cs).take c.2
    (∀ d ∈ c.1.before, requestedBy done 0 d.tag = true) ∧
    ∀ r ∈ c.1.rounds.zipIdx, ∀ d ∈ arrivals r.1.polls, requestedBy done (r.2 + 1) d.tag = true

def lateReply : List (Call Origin) :=
  [{ ntpserver := str "pool", before := [], rounds := [⟨0x0A000001, 0, [⟨5000, [], 0⟩]⟩] },
   { ntpserver := str "pool", before := [serverReply 3708988800 (.reply 0 0)],
     rounds := [roundWith 3600000 (serverReply 3708992400 (.reply 1 0))] }]

/-- The second call returns `true` with the hour-old time of the reply to the first, and leaves its
own reply in the queue for the next. -/
theorem sync_late_reply :
    let n : NTP 64 := { init with unixTimeTS := 1500000000 }
    Honest 64 n lateReply ∧
    (calls 64 n [] lateReply).map (fun c => (c.out.result, c.out.stored)) =
      [(some false, none), (some true, some (.reply 0 0))] ∧
    (calls 64 n [] lateReply).map (fun c => (c.out.ntp.unixTimeTS, c.out.queue.map (·.tag))) =
      [(1500000000, []), (1500000000, [.reply 1 0])] := by
  refine ⟨?_, ?_, ?_⟩
  · unfold Honest; decide
  · decide
  · decide

/-- It is the first full datagram in the queue of the second call, and no reply to that call. -/
theorem calls_matched_iff_late :
    let n : NTP 64 := { init with unixTimeTS := 1500000000 }
    ∃ c d, (calls 64 n [] lateReply)[1]? = some c ∧
      (c.pending ++ callArrivals c.rounds).find? isReply = some d ∧
      c.out.ntp.unixTimeTS = time 64 d ∧ ¬FromCall 1 d.tag := by
  intro n
  obtain ⟨c, hc⟩ : ∃ c, (calls 64 n [] lateReply)[1]? = some c := ⟨_, rfl⟩
  have hset : c.out.stored = some (.reply 0 0) := by
    obtain rfl := Option.some.inj hc
    decide
  obtain ⟨d, hd, hts, hiff⟩ := calls_matched_iff 64 n [] lateReply hc hset
  refine ⟨c, d, hc, hd, hts, fun hfrom => ?_⟩
  obtain ⟨round, hround⟩ := hiff.2 hfrom
  cases hround

end NTP
end Terremoti
