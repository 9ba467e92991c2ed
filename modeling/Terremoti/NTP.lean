import Terremoti.Lib.Fifo
import Terremoti.Udp
import Terremoti.Utils

/-!
# The NTP client (`net/NTP.cpp`)

`unsigned long` has `w` bits and `time_t` has `tw`. `sync` is `NTP::sync` run against a script of
what the environment does in each round of its outer loop (the name lookup, the clock, the datagrams
that reach the socket before each poll); a script may end before the call does, and then
`Sync.result` is still `none`.
-/

namespace Terremoti

/-- The static fields of `class NTP` but the socket. -/
structure NTP (w : ℕ) where
  unixTimeTS : ℤ
  unixTimeUpdate : BitVec w
  lastNTPServer : IPaddr
  ntpserver : List Byte

/-- One turn of the receive loop: the clock at its test, the datagrams that reached the socket since
the last turn, and the clock when a reply is stored. -/
structure Poll (τ : Type) where
  now : BitVec 32
  arrived : List (Datagram τ)
  stamp : BitVec 32

/-- One turn of the outer loop: the address the server name resolves to (`0` when the lookup fails),
the clock when the request has been sent, and the polls. -/
structure Round (τ : Type) where
  address : IPaddr
  responseMill : BitVec 32
  polls : List (Poll τ)

/-- A call of `sync` under way. `stored` is a ghost: where the time stored came from. -/
structure Sync (w : ℕ) (τ : Type) where
  ntp : NTP w
  queue : List (Datagram τ)
  ret : Bool := false
  sent : List Sent := []
  stored : Option τ := none
  result : Option Bool := none

namespace NTP

def NTP_PACKET_SIZE : ℕ := 48
def JAN_1970 : BitVec 64 := 2208988800

/-- The bound below which the clock is taken to be wrong. -/
def coherentTime : ℤ := 1437648361

variable {w : ℕ} {τ : Type}

def init : NTP w := ⟨0, 0, 0, str "europe.pool.ntp.org"⟩

def setNTPServer (ntpserver : List Byte) (n : NTP w) : NTP w := { n with ntpserver := ntpserver }

def getUNIXTime (now : BitVec 32) (n : NTP w) : BitVec w :=
  BitVec.ofInt w n.unixTimeTS + (now.setWidth w - n.unixTimeUpdate) / 1000

/-- The request: all zeros but for the header and the reference identifier. -/
def packetBuffer : List Byte :=
  [0xE3, 0, 6, 0xEC] ++ List.replicate 8 0 ++ [49, 0x4E, 49, 52] ++ List.replicate 32 0

def sendNTPpacket (address : IPaddr) : Sent := Udp.send packetBuffer address 123

/-- `epoch`: the four bytes from offset 40, less the seconds from 1900 to 1970, as a `time_t`. -/
def epoch (tw : ℕ) (packet : List Byte) : ℤ :=
  ((Utils.hton64 (packet.drop 40) - JAN_1970).setWidth tw).toInt

def isReply (d : Datagram τ) : Bool := decide (NTP_PACKET_SIZE ≤ d.data.length)

def time (tw : ℕ) (d : Datagram τ) : ℤ := epoch tw (d.data.take NTP_PACKET_SIZE)

/-- The body of the receive loop once a whole packet is there: `packet` is its contents. -/
def store (tw : ℕ) (packet : List Byte) (tag : τ) (stamp : BitVec 32) (x : Sync w τ) : Sync w τ :=
  { x with
    ntp := { x.ntp with
      unixTimeTS := epoch tw packet, unixTimeUpdate := stamp.setWidth w }
    ret := true
    stored := some tag }

def receiveReply (tw : ℕ) (p : Poll τ) (x : Sync w τ) : Sync w τ :=
  let r := Udp.receive NTP_PACKET_SIZE (x.queue ++ p.arrived)
  let x := { x with queue := r.2 }
  match r.1 with
  | none => x
  | some d => if d.data.length ≥ NTP_PACKET_SIZE then store tw d.data d.tag p.stamp x else x

def arrivals (polls : List (Poll τ)) : List (Datagram τ) := (polls.map Poll.arrived).flatten

def inWindow (responseMill : BitVec w) (p : Poll τ) : Bool :=
  decide (p.now.setWidth w - responseMill < NTP_RESPONSE_TIMEOUT_VALUE)

/-- The receive loop. The flag says whether it has ended; datagrams go on arriving after that. -/
def waitReply (tw : ℕ) (responseMill : BitVec w) : List (Poll τ) → Sync w τ → Sync w τ × Bool
  | [], x => (x, x.ret)
  | p :: polls, x =>
    if x.ret = false ∧ inWindow responseMill p then
      waitReply tw responseMill polls (receiveReply tw p x)
    else ({ x with queue := x.queue ++ arrivals (p :: polls) }, true)

def resolved (address : IPaddr) (x : Sync w τ) : Sync w τ :=
  { x with ntp := { x.ntp with lastNTPServer := address } }

def requested (address : IPaddr) (x : Sync w τ) : Sync w τ :=
  { resolved address x with sent := x.sent ++ [sendNTPpacket address] }

def syncLoop (tw : ℕ) : List (Round τ) → Sync w τ → Sync w τ
  | [], x => x
  | r :: rounds, x =>
    if r.address = 0 then { resolved r.address x with result := some false } else
    let y := waitReply tw (r.responseMill.setWidth w) r.polls (requested r.address x)
    if y.2 = false then y.1
    else if y.1.ntp.unixTimeTS < coherentTime then syncLoop tw rounds y.1
    else { y.1 with result := some y.1.ret }

def sync (tw : ℕ) (n : NTP w) (queue : List (Datagram τ)) (rounds : List (Round τ)) : Sync w τ :=
  if n.ntpserver = [] then { ntp := n, queue := queue, result := some false }
  else syncLoop tw rounds { ntp := n, queue := queue }

/-! ### The receive loop -/

theorem receiveReply_nil (tw : ℕ) {p : Poll τ} {x : Sync w τ} (h : x.queue ++ p.arrived = []) :
    receiveReply tw p x = { x with queue := [] } := by
  simp [receiveReply, h, Udp.receive]

theorem receiveReply_cons (tw : ℕ) {p : Poll τ} {x : Sync w τ} {d : Datagram τ}
    {queue : List (Datagram τ)} (h : x.queue ++ p.arrived = d :: queue) :
    receiveReply tw p x =
      if isReply d then
        store tw (d.data.take NTP_PACKET_SIZE) d.tag p.stamp { x with queue := queue }
      else { x with queue := queue } := by
  have hlen : (d.data.take NTP_PACKET_SIZE).length ≥ NTP_PACKET_SIZE ↔ isReply d = true := by
    simp [isReply]
  simp only [receiveReply, h, Udp.receive, hlen]

theorem waitReply_of_ret (tw : ℕ) (responseMill : BitVec w) (polls : List (Poll τ)) {x : Sync w τ}
    (h : x.ret = true) :
    waitReply tw responseMill polls x = ({ x with queue := x.queue ++ arrivals polls }, true) := by
  cases polls with
  | nil =>
    refine Prod.ext ?_ h
    show x = { x with queue := x.queue ++ [] }
    rw [List.append_nil]
  | cons p polls => rw [waitReply, if_neg (by simp [h])]

def window (responseMill : BitVec w) (polls : List (Poll τ)) : List (Poll τ) :=
  polls.takeWhile (inWindow responseMill)

/-- What arrives from the poll on whose test the time-out has passed. -/
def lateArrivals (responseMill : BitVec w) (polls : List (Poll τ)) : List (Datagram τ) :=
  arrivals (polls.dropWhile (inWindow responseMill))

/-- The reader of the window: the first reply it takes, and the queue when all have arrived. -/
def firstReply (responseMill : BitVec w) (polls : List (Poll τ)) (queue : List (Datagram τ)) :
    Option (Datagram τ) × List (Datagram τ) :=
  let u := Fifo.popUntil isReply queue ((window responseMill polls).map Poll.arrived)
  (u.1, u.2 ++ lateArrivals responseMill polls)

theorem arrivals_split (responseMill : BitVec w) (polls : List (Poll τ)) :
    arrivals polls = ((window responseMill polls).map Poll.arrived).flatten ++
      lateArrivals responseMill polls := by
  rw [lateArrivals, arrivals, arrivals, ← List.flatten_append, ← List.map_append, window,
    List.takeWhile_append_dropWhile]

/-- What the receive loop does, started with `ret` clear. -/
theorem waitReply_spec (tw : ℕ) (responseMill : BitVec w) (polls : List (Poll τ)) {x : Sync w τ}
    (hret : x.ret = false) :
    (∃ d stamp, (firstReply responseMill polls x.queue).1 = some d ∧
      waitReply tw responseMill polls x =
        (store tw (d.data.take NTP_PACKET_SIZE) d.tag stamp
          { x with queue := (firstReply responseMill polls x.queue).2 }, true)) ∨
    ((firstReply responseMill polls x.queue).1 = none ∧
      waitReply tw responseMill polls x =
        ({ x with queue := (firstReply responseMill polls x.queue).2 },
          !polls.all (inWindow responseMill))) := by
  induction polls generalizing x with
  | nil =>
    refine .inr ⟨rfl, Prod.ext ?_ hret⟩
    show x = { x with queue := x.queue ++ [] }
    rw [List.append_nil]
  | cons p polls ih =>
    cases hw : inWindow responseMill p with
    | false =>
      refine .inr ⟨by simp [firstReply, window, hw, Fifo.popUntil], ?_⟩
      rw [waitReply, if_neg (by simp [hw])]
      simp [firstReply, window, lateArrivals, hw, Fifo.popUntil]
    | true =>
      have hwin : window responseMill (p :: polls) = p :: window responseMill polls := by
        simp [window, hw]
      have hlate : lateArrivals responseMill (p :: polls) = lateArrivals responseMill polls := by
        simp [lateArrivals, hw]
      rw [waitReply, if_pos ⟨hret, hw⟩, List.all_cons, hw, Bool.true_and]
      cases hq : x.queue ++ p.arrived with
      | nil =>
        have hfirst : firstReply responseMill (p :: polls) x.queue =
            firstReply responseMill polls [] := by
          simp only [firstReply, hwin, hlate, List.map_cons, Fifo.popUntil, hq]
        rw [receiveReply_nil tw hq, hfirst]
        exact ih (x := { x with queue := [] }) hret
      | cons d queue =>
        rw [receiveReply_cons tw hq]
        by_cases hd : isReply d = true
        · -- the first reply: everything else that arrives stays queued
          have hfirst : firstReply responseMill (p :: polls) x.queue =
              (some d, queue ++ arrivals polls) := by
            simp only [firstReply, hwin, hlate, List.map_cons, Fifo.popUntil, hq, hd, if_true,
              arrivals_split responseMill polls, List.append_assoc]
          rw [hfirst, if_pos hd, waitReply_of_ret tw _ _ rfl]
          exact .inl ⟨d, p.stamp, rfl, rfl⟩
        · have hfirst : firstReply responseMill (p :: polls) x.queue =
              firstReply responseMill polls queue := by
            simp only [firstReply, hwin, hlate, List.map_cons, Fifo.popUntil, hq, hd,
              Bool.false_eq_true, if_false]
          rw [hfirst, if_neg hd]
          exact ih (x := { x with queue := queue }) hret

end NTP

/-! ### One round -/

namespace Round
variable {w : ℕ} {τ : Type}

def expires (w : ℕ) (r : Round τ) : Bool :=
  !r.polls.all (NTP.inWindow (r.responseMill.setWidth w : BitVec w))

/-- What reaches a reader that receives throughout the window. -/
def received (w : ℕ) (r : Round τ) (queue : List (Datagram τ)) : List (Datagram τ) :=
  (Fifo.pops queue
    ((NTP.window (r.responseMill.setWidth w : BitVec w) r.polls).map Poll.arrived)).1

/-- What such a reader leaves queued for the next round. -/
def left (w : ℕ) (r : Round τ) (queue : List (Datagram τ)) : List (Datagram τ) :=
  (Fifo.pops queue
    ((NTP.window (r.responseMill.setWidth w : BitVec w) r.polls).map Poll.arrived)).2 ++
      NTP.lateArrivals (r.responseMill.setWidth w : BitVec w) r.polls

theorem received_append_left (w : ℕ) (r : Round τ) (queue : List (Datagram τ)) :
    r.received w queue ++ r.left w queue = queue ++ NTP.arrivals r.polls := by
  rw [received, left, ← List.append_assoc, Fifo.pops_append, List.append_assoc,
    ← NTP.arrivals_split]

theorem firstReply_eq (r : Round τ) (queue : List (Datagram τ)) :
    (NTP.firstReply (r.responseMill.setWidth w : BitVec w) r.polls queue).1 =
      (r.received w queue).find? NTP.isReply :=
  Fifo.popUntil_eq_find? _ _ _

theorem firstReply_left {r : Round τ} {queue : List (Datagram τ)}
    (h : (r.received w queue).find? NTP.isReply = none) :
    (NTP.firstReply (r.responseMill.setWidth w : BitVec w) r.polls queue).2 = r.left w queue := by
  rw [← firstReply_eq] at h
  exact congrArg (· ++ _) (Fifo.popUntil_none h)

end Round

namespace NTP
variable {w : ℕ} {τ : Type}

/-- A round in which no reply is received: the call goes on waiting, comes to its next round, or
returns `false` on a plausible clock. -/
theorem syncLoop_quiet (tw : ℕ) {r : Round τ} (rounds : List (Round τ)) {x : Sync w τ}
    (hr : r.address ≠ 0) (hret : x.ret = false)
    (hnone : (r.received w x.queue).find? isReply = none) :
    let y := { requested r.address x with queue := r.left w x.queue }
    syncLoop tw (r :: rounds) x =
      if r.expires w = false then y
      else if x.ntp.unixTimeTS < coherentTime then syncLoop tw rounds y
      else { y with result := some false } := by
  intro y
  rw [syncLoop, if_neg hr]
  rcases waitReply_spec tw (r.responseMill.setWidth w) r.polls (x := requested r.address x) hret with
    ⟨d, stamp, hd, -⟩ | ⟨-, hwait⟩
  · rw [Round.firstReply_eq] at hd
    exact absurd (hnone.symm.trans hd) (by simp)
  · have hleft := Round.firstReply_left hnone
    rw [hwait]
    dsimp only
    rw [show (requested r.address x).queue = x.queue from rfl, hleft]
    simp only [Round.expires, y, requested, resolved, hret]

theorem syncLoop_reply (tw : ℕ) {r : Round τ} {x : Sync w τ} {d : Datagram τ} (hr : r.address ≠ 0)
    (hret : x.ret = false) (hd : (r.received w x.queue).find? isReply = some d) :
    ∃ stamp queue,
      let y := store tw (d.data.take NTP_PACKET_SIZE) d.tag stamp
        { requested r.address x with queue := queue }
      ∀ rounds, syncLoop tw (r :: rounds) x =
        if time tw d < coherentTime then syncLoop tw rounds y
        else { y with result := some true } := by
  rcases waitReply_spec tw (r.responseMill.setWidth w) r.polls (x := requested r.address x) hret with
    ⟨d', stamp, hd', hwait⟩ | ⟨hnone, -⟩
  · rw [Round.firstReply_eq] at hd'
    obtain rfl : d = d' := Option.some.inj (hd.symm.trans hd')
    refine ⟨stamp, (firstReply (r.responseMill.setWidth w) r.polls x.queue).2, fun rounds => ?_⟩
    rw [syncLoop, if_neg hr, hwait]
    rfl
  · rw [Round.firstReply_eq] at hnone
    exact absurd (hnone.symm.trans hd) (by simp)

/-- Once a reply is stored no later round of the call receives anything: the stored time and where
it came from stay. -/
theorem syncLoop_of_ret (tw : ℕ) (rounds : List (Round τ)) {x : Sync w τ} (h : x.ret = true) :
    (syncLoop tw rounds x).ntp.unixTimeTS = x.ntp.unixTimeTS ∧
      (syncLoop tw rounds x).stored = x.stored := by
  induction rounds generalizing x with
  | nil => exact ⟨rfl, rfl⟩
  | cons r rounds ih =>
    rw [syncLoop]
    split
    · exact ⟨rfl, rfl⟩
    rw [waitReply_of_ret tw _ _ (x := requested r.address x) h]
    dsimp only
    rw [if_neg (by simp)]
    split
    · exact ih (x := { requested r.address x with queue := _ }) h
    · exact ⟨rfl, rfl⟩

end NTP
end Terremoti
