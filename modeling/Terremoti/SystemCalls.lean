import Terremoti.Descriptors
import Terremoti.NetworkManager

/-!
# Descriptors when system calls fail

`Fds` takes every system call to succeed; here each may fail. `ping` closes its socket only after the
receive loop: if the socket is there and one of the calls up to `sendto` fails, or the loop does not
end, it stays open (`ping_gives_back_iff`), one more for each ping of an outage (`ping_outage`).
`Tcp::connectTo` forgets the
socket if `connect` or `select` fails, and `stop` takes the number 0 for no connection
(`connectTo_stop_table_iff`). Where nothing fails both agree with `Fds`.
-/

namespace Terremoti
namespace NetworkManager
variable {w : ℕ} {address : IPaddr} {waitms : BitVec 32} {sequenceNumber : BitVec 16}
  {c : PingCalls} {table : Finset ℕ}

/-- There is a socket, and a call on it fails before the receive loop. -/
structure PingCalls.Abandons (c : PingCalls) : Prop where
  getprotobyname : c.getprotobyname = true
  socket : c.socket = true
  fails : c.setsockopt = false ∨ c.fcntl = false ∨ c.sendto = false

theorem ping_of_abandons (h : c.Abandons) :
    ping w address waitms sequenceNumber c table =
      { result := some false, table := (Descriptors.acquire table).2 } := by
  unfold ping
  rw [if_neg (by simp [h.getprotobyname]), if_neg (by simp [h.socket])]
  dsimp only
  split
  · rfl
  · rename_i hsetsockopt
    split
    · rfl
    · rename_i hfcntl
      split
      · rfl
      · rename_i hsendto
        rcases h.fails with hfails | hfails | hfails
        · exact absurd hfails hsetsockopt
        · exact absurd hfails hfcntl
        · exact absurd hfails hsendto

/-- Without a socket nothing is opened. -/
theorem ping_table_of_not_socket (h : ¬(c.getprotobyname = true ∧ c.socket = true)) :
    (ping w address waitms sequenceNumber c table).table = table := by
  unfold ping
  split
  · rfl
  · rename_i hproto
    split
    · rfl
    · rename_i hsocket
      rw [Bool.not_eq_false] at hproto hsocket
      exact absurd ⟨hproto, hsocket⟩ h

theorem PingCalls.Sends.not_abandons (h : c.Sends) : ¬c.Abandons := by
  rintro ⟨-, -, hfails | hfails | hfails⟩
  · rw [h.setsockopt] at hfails
    cases hfails
  · rw [h.fcntl] at hfails
    cases hfails
  · rw [h.sendto] at hfails
    cases hfails

theorem PingCalls.sends_or_abandons (h : c.getprotobyname = true ∧ c.socket = true) :
    c.Sends ∨ c.Abandons := by
  obtain ⟨hproto, hsocket⟩ := h
  cases hsetsockopt : c.setsockopt with
  | false => exact .inr ⟨hproto, hsocket, .inl hsetsockopt⟩
  | true =>
    cases hfcntl : c.fcntl with
    | false => exact .inr ⟨hproto, hsocket, .inr (.inl hfcntl)⟩
    | true =>
      cases hsendto : c.sendto with
      | false => exact .inr ⟨hproto, hsocket, .inr (.inr hsendto)⟩
      | true => exact .inl ⟨hproto, hsocket, hsetsockopt, hfcntl, hsendto⟩

/-- A turn of the receive loop is its last: the deadline is not ahead, or a reply is there. -/
def PingCalls.Ends (w : ℕ) (waitms : BitVec 32) (c : PingCalls) : Prop :=
  ∃ p ∈ c.polls, waiting w c.startms waitms p.millis = false ∨ p.accepted = true

theorem receiveLoop_isSome_iff {startms : BitVec 32} {polls : List Poll} :
    (receiveLoop w startms waitms polls).isSome = true ↔
      ∃ p ∈ polls, waiting w startms waitms p.millis = false ∨ p.accepted = true := by
  induction polls with
  | nil => simp [receiveLoop]
  | cons p polls ih =>
    rw [receiveLoop]
    simp only [List.exists_mem_cons_iff]
    cases hwaiting : waiting w startms waitms p.millis with
    | false => exact iff_of_true rfl (.inl (.inl rfl))
    | true =>
      cases haccepted : p.accepted with
      | true => exact iff_of_true rfl (.inl (.inr rfl))
      | false =>
        rw [if_pos rfl, if_neg Bool.false_ne_true, ih]
        simp

/-- A ping returns with what it opened closed exactly if the protocol is known, no call on its socket
fails and, once the request has been sent, the receive loop ends. -/
theorem ping_gives_back_iff :
    let p := ping w address waitms sequenceNumber c table
    p.result.isSome = true ∧ p.table = table ↔
      c.getprotobyname = true ∧ ¬c.Abandons ∧ (c.Sends → c.Ends w waitms) := by
  intro p
  by_cases hproto : c.getprotobyname = true
  swap
  · rw [show p = _ from ping_of_unknown (Bool.eq_false_iff.2 hproto)]
    exact iff_of_false (fun h => Bool.noConfusion h.1) fun h => hproto h.1
  rw [and_iff_right hproto]
  by_cases hsends : c.Sends
  · have hresult : p.result.isSome = true ↔ c.Ends w waitms := by
      rw [show p.result = _ from ping_result_of_sends hsends]
      exact receiveLoop_isSome_iff
    rw [hresult, and_iff_right hsends.not_abandons, forall_prop_of_true hsends]
    refine and_iff_left_of_imp fun hends => ?_
    rw [show p = _ from ping_of_sends hsends]
    exact if_pos (receiveLoop_isSome_iff.2 hends)
  · have hresult : p.result = some false := ping_result_of_not_sends hproto hsends
    rw [hresult, and_iff_right (show (some false).isSome = true from rfl),
      and_iff_left fun h => absurd h hsends]
    by_cases hsocket : c.socket = true
    · have habandons := (PingCalls.sends_or_abandons ⟨hproto, hsocket⟩).resolve_left hsends
      rw [show p = _ from ping_of_abandons habandons]
      exact iff_of_false (Descriptors.acquire_ne table) (not_not.2 habandons)
    · exact iff_of_true (ping_table_of_not_socket fun h => hsocket h.2) fun h => hsocket h.socket

/-- In an outage every ping leaves one more. -/
theorem ping_outage (h : c.Abandons) (n : ℕ) (table : Finset ℕ) :
    ((fun t => (ping w address waitms sequenceNumber c t).table)^[n] table).card =
      table.card + n := by
  induction n generalizing table with
  | zero => rfl
  | succ n ih =>
    rw [Function.iterate_succ_apply, ih, ping_of_abandons h, Descriptors.card_acquire]
    omega

end NetworkManager

/-! ### TCP connections -/

/-- What `connect` and `select` return. -/
inductive ConnectResult
  | connected
  | inProgress
  | failed

inductive SelectResult
  | ready
  | timeout
  | failed

/-- What the calls in `Tcp::connectTo` return; `peek` is the `recv` in `connected`. What `fcntl`
returns is not looked at. -/
structure ConnectCalls where
  socket : Bool
  connect : ConnectResult
  select : SelectResult
  peek : ℤ

/-- A `Tcp` object and the open descriptors. -/
structure Tcp where
  fd : ℕ
  table : Finset ℕ

namespace Tcp

/-- `Tcp::Tcp`. -/
def fresh (table : Finset ℕ) : Tcp := ⟨0, table⟩

def connected (peek : ℤ) (t : Tcp) : Bool := decide (0 < t.fd) && decide (peek ≠ 0)

def connectTo (c : ConnectCalls) (t : Tcp) : Bool × Tcp :=
  if c.socket = false then (false, ⟨0, t.table⟩)
  else
    let (fd, table) := Descriptors.acquire t.table
    match c.connect with
    | .failed => (false, ⟨0, table⟩)
    | .connected | .inProgress =>
      match c.select with
      | .failed => (false, ⟨0, table⟩)
      | .timeout => (false, ⟨0, Descriptors.release fd table⟩)
      | .ready => (connected c.peek ⟨fd, table⟩, ⟨fd, table⟩)

def stop (t : Tcp) : Tcp := if t.fd ≤ 0 then t else ⟨0, Descriptors.release t.fd t.table⟩

theorem stop_of_zero (table : Finset ℕ) : stop ⟨0, table⟩ = ⟨0, table⟩ := if_pos le_rfl

/-- The ways through `connectTo` that give the socket back. -/
inductive Closes (c : ConnectCalls) (table : Finset ℕ) : Prop
  | noSocket (h : c.socket = false)
  | timeout (hconnect : c.connect ≠ .failed) (hselect : c.select = .timeout)
  | ready (hconnect : c.connect ≠ .failed) (hselect : c.select = .ready) (hstdin : 0 ∈ table)

/-- A socket that `connectTo` has left to `stop`. -/
theorem stop_acquired_iff (table : Finset ℕ) :
    (stop ⟨(Descriptors.acquire table).1, (Descriptors.acquire table).2⟩).table = table ↔
      0 ∈ table := by
  rw [← Descriptors.lowest_pos_iff]
  unfold stop
  split
  · rename_i hzero
    exact iff_of_false (Descriptors.acquire_ne table) (Nat.not_lt.2 hzero)
  · rename_i hpos
    exact iff_of_true (Descriptors.release_acquire table) (Nat.lt_of_not_le hpos)

/-- A socket that `connectTo` has forgotten. -/
theorem stop_forgotten (table : Finset ℕ) :
    (stop ⟨0, (Descriptors.acquire table).2⟩).table ≠ table := by
  rw [stop_of_zero]
  exact Descriptors.acquire_ne table

/-- `connectTo` after `socket` and `connect`. -/
theorem connectTo_of_connect {c : ConnectCalls} (hsocket : c.socket = true)
    (hconnect : c.connect ≠ .failed) (t : Tcp) :
    (connectTo c t).2 =
      match c.select with
      | .failed => ⟨0, (Descriptors.acquire t.table).2⟩
      | .timeout => ⟨0, t.table⟩
      | .ready => ⟨(Descriptors.acquire t.table).1, (Descriptors.acquire t.table).2⟩ := by
  rw [connectTo, if_neg (by simp [hsocket])]
  dsimp only
  cases hc : c.connect with
  | failed => exact absurd hc hconnect
  | connected | inProgress =>
    cases c.select with
    | failed | ready => rfl
    | timeout =>
      dsimp only
      rw [Descriptors.release_acquire]

theorem closes_iff {c : ConnectCalls} {table : Finset ℕ} (hsocket : c.socket = true)
    (hconnect : c.connect ≠ .failed) :
    Closes c table ↔ c.select = .timeout ∨ c.select = .ready ∧ 0 ∈ table := by
  constructor
  · rintro (h | ⟨-, h⟩ | ⟨-, h, hstdin⟩)
    · rw [hsocket] at h
      cases h
    · exact .inl h
    · exact .inr ⟨h, hstdin⟩
  · rintro (h | ⟨h, hstdin⟩)
    · exact .timeout hconnect h
    · exact .ready hconnect h hstdin

theorem connectTo_stop_table_iff {c : ConnectCalls} {t : Tcp} :
    (stop (connectTo c t).2).table = t.table ↔ Closes c t.table := by
  cases hsocket : c.socket with
  | false =>
    have hconnectTo : connectTo c t = (false, ⟨0, t.table⟩) := if_pos hsocket
    rw [hconnectTo, stop_of_zero]
    exact iff_of_true rfl (.noSocket hsocket)
  | true =>
    by_cases hconnect : c.connect = .failed
    · have hforgotten : (connectTo c t).2 = ⟨0, (Descriptors.acquire t.table).2⟩ := by
        rw [connectTo, if_neg (by simp [hsocket])]
        dsimp only
        rw [hconnect]
      rw [hforgotten]
      refine iff_of_false (stop_forgotten t.table) ?_
      rintro (h | ⟨h, -⟩ | ⟨h, -, -⟩)
      · rw [hsocket] at h
        cases h
      · exact h hconnect
      · exact h hconnect
    · rw [connectTo_of_connect hsocket hconnect, closes_iff hsocket hconnect]
      cases c.select with
      | failed => exact iff_of_false (stop_forgotten t.table) (by simp)
      | timeout =>
        rw [stop_of_zero]
        exact iff_of_true rfl (.inl rfl)
      | ready =>
        rw [stop_acquired_iff]
        simp

end Tcp

/-- With descriptors as the state, `ping` returns and the two helpers give back what they took in
these cases, and in no other. -/
theorem helpers_give_back_iff (w : ℕ) (table : Finset ℕ) :
    (∀ address waitms sequenceNumber (c : NetworkManager.PingCalls),
      let p := NetworkManager.ping w address waitms sequenceNumber c table
      p.result.isSome = true ∧ p.table = table ↔
        c.getprotobyname = true ∧ ¬c.Abandons ∧ (c.Sends → c.Ends w waitms)) ∧
    ∀ c : ConnectCalls,
      ((Tcp.stop (Tcp.connectTo c (Tcp.fresh table)).2).table = table ↔ Tcp.Closes c table) :=
  ⟨fun _ _ _ _ => NetworkManager.ping_gives_back_iff, fun _ => Tcp.connectTo_stop_table_iff⟩

/-- A ping that cannot send. -/
def unsent : NetworkManager.PingCalls := ⟨true, true, true, true, 1, false, 0, []⟩

/-- The network is unreachable: the ping cannot send, and the connection is refused at once. -/
theorem helpers_keep_unreachable :
    (NetworkManager.ping 64 NetworkManager.pingAddress 1000 1 unsent {0, 1, 2}).table ≠ {0, 1, 2} ∧
      (Tcp.stop (Tcp.connectTo ⟨true, .failed, .ready, 0⟩ (Tcp.fresh {0, 1, 2})).2).table ≠
        {0, 1, 2} :=
  ⟨Descriptors.acquire_ne {0, 1, 2}, Tcp.stop_forgotten {0, 1, 2}⟩

/-! ### Where nothing fails -/

namespace Fds

/-- `Fds.ping` is a ping whose system calls succeed. -/
theorem ping_table {w : ℕ} {address : IPaddr} {waitms : BitVec 32} {sequenceNumber : BitVec 16}
    {c : NetworkManager.PingCalls} (h : c.Sends) (s : Fds)
    (hreturned :
      (NetworkManager.ping w address waitms sequenceNumber c s.table).result.isSome = true) :
    (NetworkManager.ping w address waitms sequenceNumber c s.table).table = s.ping.table := by
  rw [NetworkManager.ping_result_of_sends h] at hreturned
  rw [ping_eq, NetworkManager.ping_of_sends h]
  exact if_pos hreturned

/-- And `Fds.tcpConnectTo` a connection whose calls succeed, but for the timeout of `select`. -/
theorem tcpConnectTo_table {c : ConnectCalls} (hsocket : c.socket = true)
    (hconnect : c.connect ≠ .failed) {connected : Bool}
    (hselect : c.select = if connected then .ready else .timeout) (s : Fds) :
    (Tcp.connectTo c (Tcp.fresh s.table)).2 =
      ⟨(s.tcpConnectTo connected).1, (s.tcpConnectTo connected).2.table⟩ := by
  rw [Tcp.connectTo_of_connect hsocket hconnect, hselect]
  cases connected with
  | true => rfl
  | false =>
    show (⟨0, s.table⟩ : Tcp) = ⟨0, s.transient.table⟩
    rw [transient_eq]

end Fds
end Terremoti
