import Terremoti.Lib.Descriptors
import Terremoti.Udp
import Terremoti.Utils

/-!
# Pings (`net/NetworkManager.cpp`)

`ping` runs against what its system calls return, `PingCalls`, and the table of open descriptors.
The turns of its receive loop are a list, one `Poll` per turn, which may end before the loop does:
`result` is `none` then. The raw socket hands over IP packets, header included, of every ICMP
message of the host. The branch of the BSD systems is not modelled.
-/

namespace Terremoti
namespace NetworkManager

def ICMP_ECHOREPLY : Byte := 0
def ICMP_ECHO : Byte := 8

/-! ### The checksum -/

def checksumLoop : List Byte → BitVec 32 → BitVec 32
  | lo :: hi :: buf, sum => checksumLoop buf (sum + (hi ++ lo).setWidth 32)
  | [b], sum => sum + b.setWidth 32
  | [], sum => sum

def checksum (b : List Byte) : BitVec 16 :=
  let sum := checksumLoop b 0
  let sum := (sum >>> 16) + (sum &&& 0xFFFF)
  let sum := sum + (sum >>> 16)
  (~~~sum).setWidth 16

/-! ### The echo request -/

/-- A 16-bit integer in memory. -/
def bytes16 (x : BitVec 16) : List Byte := [x.extractLsb' 0 8, x.extractLsb' 8 8]

/-- The 56 bytes of `ICMP_PACKET::msg`. -/
def msg : List Byte := (List.range 55).map (fun i => BitVec.ofNat 8 (i + '0'.toNat)) ++ [0]

def icmpPacket (checksum id sequence : BitVec 16) : List Byte :=
  [ICMP_ECHO, 0] ++ bytes16 checksum ++ bytes16 id ++ bytes16 sequence ++ msg

/-- The checksum is that of the packet with a zero in its place. -/
def echoRequest (pid : BitVec 32) (sequenceNumber : BitVec 16) : List Byte :=
  let id := pid.setWidth 16
  icmpPacket (checksum (icmpPacket 0 id sequenceNumber)) id sequenceNumber

/-! ### The receive loop -/

/-- A turn of the receive loop: the clock in its condition, the packet `recvfrom` has taken from the
socket, if any, and what `buf[20]`, which nothing initialises, held before. -/
structure Poll where
  millis : BitVec 32
  recvfrom : Option (List Byte)
  garbage : Byte

/-- The condition of the loop. -/
def waiting (w : ℕ) (startms waitms millis : BitVec 32) : Bool :=
  decide (millis.setWidth w < startms.setWidth w + waitms.setWidth w)

/-- `recvfrom` has returned more than 0, and `buf[20]` says it is a reply. -/
def Poll.accepted (p : Poll) : Bool :=
  match p.recvfrom with
  | some packet => packet ≠ [] ∧ (packet.take 1500).getD 20 p.garbage = ICMP_ECHOREPLY
  | none => false

def receiveLoop (w : ℕ) (startms waitms : BitVec 32) : List Poll → Option Bool
  | [] => none
  | p :: polls =>
    if waiting w startms waitms p.millis then
      if p.accepted then some true else receiveLoop w startms waitms polls
    else some false

/-! ### The functions -/

/-- What the calls in `ping` return: whether the ICMP protocol is known, which system calls succeed,
the process's identifier, the clock before the loop, and its turns. -/
structure PingCalls where
  getprotobyname : Bool
  socket : Bool
  setsockopt : Bool
  fcntl : Bool
  pid : BitVec 32
  sendto : Bool
  startms : BitVec 32
  polls : List Poll

/-- What a call of `ping` leaves: its result, if it has returned, the open descriptors, the request
if it has been sent, and whether it has ended in `platformReboot`, which does not return. -/
structure Pinged where
  result : Option Bool
  table : Finset ℕ
  sent : Option Sent := none
  reboot : Bool := false

def ping (w : ℕ) (address : IPaddr) (waitms : BitVec 32) (sequenceNumber : BitVec 16)
    (c : PingCalls) (table : Finset ℕ) : Pinged :=
  if c.getprotobyname = false then ⟨none, table, none, true⟩
  else if c.socket = false then { result := some false, table := table }
  else
    let (sd, table) := Descriptors.acquire table
    if c.setsockopt = false then { result := some false, table := table }
    else if c.fcntl = false then { result := some false, table := table }
    else if c.sendto = false then { result := some false, table := table }
    else
      let sent := some ⟨address, 0, echoRequest c.pid sequenceNumber⟩
      match receiveLoop w c.startms waitms c.polls with
      | some r => { result := some r, table := Descriptors.release sd table, sent := sent }
      | none => { result := none, table := table, sent := sent }

/-- The calls before the receive loop succeed. -/
structure PingCalls.Sends (c : PingCalls) : Prop where
  getprotobyname : c.getprotobyname = true
  socket : c.socket = true
  setsockopt : c.setsockopt = true
  fcntl : c.fcntl = true
  sendto : c.sendto = true

/-- `IPaddr(8, 8, 8, 8)`. -/
def pingAddress : IPaddr := 0x08080808

/-- `latency`, with its readings of the clock before the two pings and after them; `some none` is
`-1`. -/
def latency (w : ℕ) (first second : PingCalls) (start₁ start₂ stop : BitVec 32)
    (table : Finset ℕ) : Option (Option (BitVec w)) × Finset ℕ :=
  let p := ping w pingAddress 1000 1 first table
  match p.result with
  | some true => (some (some (stop.setWidth w - start₁.setWidth w)), p.table)
  | some false =>
    let p := ping w pingAddress 1000 2 second p.table
    match p.result with
    | some true => (some (some (stop.setWidth w - start₂.setWidth w)), p.table)
    | some false => (some none, p.table)
    | none => (none, p.table)
  | none => (none, p.table)

/-- `isConnectedToInternet(true)`. -/
def isConnectedToInternet (w : ℕ) (first second : PingCalls) (table : Finset ℕ) :
    Option Bool × Finset ℕ :=
  let p := ping w pingAddress 1000 1 first table
  match p.result with
  | some true => (some true, p.table)
  | some false =>
    let p := ping w pingAddress 1000 2 second p.table
    (p.result, p.table)
  | none => (none, p.table)

/-- The two pings `latency` and `isConnectedToInternet` make, the second if the first fails. -/
structure Pings where
  first : PingCalls
  second : PingCalls

/-- A ping ends in `platformReboot`. -/
def Pings.reboots (w : ℕ) (p : Pings) : Bool :=
  let ping₁ := ping w pingAddress 1000 1 p.first ∅
  let ping₂ := ping w pingAddress 1000 2 p.second ping₁.table
  ping₁.reboot || decide (ping₁.result = some false) && ping₂.reboot

/-! ### What a ping does -/

section Ping
variable {w : ℕ} {address : IPaddr} {waitms : BitVec 32} {sequenceNumber : BitVec 16}
  {c : PingCalls} {table : Finset ℕ}

theorem ping_of_unknown (h : c.getprotobyname = false) :
    ping w address waitms sequenceNumber c table = ⟨none, table, none, true⟩ := if_pos h

/-- Before the receive loop there is nothing to report. -/
theorem ping_result_of_not_sends (hproto : c.getprotobyname = true) (h : ¬c.Sends) :
    (ping w address waitms sequenceNumber c table).result = some false := by
  unfold ping
  rw [if_neg (by simp [hproto])]
  split
  · rfl
  · rename_i hsocket
    dsimp only
    split
    · rfl
    · rename_i hsetsockopt
      split
      · rfl
      · rename_i hfcntl
        split
        · rfl
        · rename_i hsendto
          rw [Bool.not_eq_false] at hsocket hsetsockopt hfcntl hsendto
          exact absurd ⟨hproto, hsocket, hsetsockopt, hfcntl, hsendto⟩ h

theorem ping_of_sends (h : c.Sends) :
    ping w address waitms sequenceNumber c table =
      let r := receiveLoop w c.startms waitms c.polls
      { result := r
        table := if r.isSome then table else (Descriptors.acquire table).2
        sent := some ⟨address, 0, echoRequest c.pid sequenceNumber⟩ } := by
  obtain ⟨hproto, hsocket, hsetsockopt, hfcntl, hsendto⟩ := h
  unfold ping
  rw [if_neg (by simp [hproto]), if_neg (by simp [hsocket])]
  dsimp only
  rw [if_neg (by simp [hsetsockopt]), if_neg (by simp [hfcntl]), if_neg (by simp [hsendto])]
  cases receiveLoop w c.startms waitms c.polls with
  | none => rfl
  | some r =>
    dsimp only
    rw [Descriptors.release_acquire]
    rfl

theorem ping_result_of_sends (h : c.Sends) :
    (ping w address waitms sequenceNumber c table).result =
      receiveLoop w c.startms waitms c.polls := by
  rw [ping_of_sends h]

/-- A ping that has returned `true` came through the receive loop. -/
theorem ping_result_eq_true_iff :
    (ping w address waitms sequenceNumber c table).result = some true ↔
      c.Sends ∧ receiveLoop w c.startms waitms c.polls = some true := by
  by_cases h : c.Sends
  · rw [ping_result_of_sends h, and_iff_right h]
  · refine iff_of_false ?_ fun hr => h hr.1
    cases hproto : c.getprotobyname with
    | false =>
      rw [ping_of_unknown hproto]
      simp
    | true =>
      rw [ping_result_of_not_sends hproto h]
      simp

/-- A ping reboots only if the protocol is not known. -/
theorem ping_reboot (h : c.getprotobyname = true) :
    (ping w address waitms sequenceNumber c table).reboot = false := by
  unfold ping
  rw [if_neg (by simp [h])]
  dsimp only
  split_ifs
  · rfl
  · rfl
  · rfl
  · rfl
  · cases receiveLoop w c.startms waitms c.polls <;> rfl

end Ping

/-- What returns if its pings do. -/
theorem isConnectedToInternet_returns {w : ℕ} {first second : PingCalls} (table : Finset ℕ)
    (hfirst : ∀ t, (ping w pingAddress 1000 1 first t).result ≠ none)
    (hsecond : ∀ t, (ping w pingAddress 1000 2 second t).result ≠ none) :
    ∃ r, (isConnectedToInternet w first second table).1 = some r := by
  refine Option.ne_none_iff_exists'.1 ?_
  unfold isConnectedToInternet
  dsimp only
  split
  · exact Option.some_ne_none true
  · exact hsecond _
  · rename_i hnone
    exact absurd hnone (hfirst table)

end NetworkManager
end Terremoti
