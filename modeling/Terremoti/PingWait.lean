import Terremoti.NetworkManager

/-!
# Waiting for the echo

The receive loop of `ping` compares the millisecond counter with `startms + waitms`, where the rest
of the program compares a difference with the interval. Up to `2 ^ 31` ms after the start this is
right if and only if the counter does not wrap by then (`ping_on_time_iff`): a 32-bit `unsigned
long` makes a ping across the wrap fail at once, a 64-bit one keeps it waiting.

Of a packet the loop reads one byte, the type of an ICMP message behind an IP header without
options. Whose reply it is, and to which request, it does not ask (`ping_own_echo_iff`).
-/

namespace Terremoti
namespace NetworkManager

variable {w : ℕ}

/-! ### The deadline -/

theorem waiting_eq (startms waitms millis : BitVec 32) :
    waiting w startms waitms millis = decide (Counter.before w startms waitms millis) := rfl

/-- Nothing the loop takes from the socket looks like a reply. -/
def Quiet (polls : List Poll) : Prop := ∀ p ∈ polls, p.accepted = false

/-- Turns of the loop at the times `ts`, in milliseconds after the clock showed `startms`. -/
def TurnsAt (startms : BitVec 32) (ts : List ℕ) (polls : List Poll) : Prop :=
  polls.map Poll.millis = ts.map (Counter.read startms)

/-- At every evaluation in the `2 ^ 31` ms after the start, the condition says whether less than
`waitms` ms have passed; and with no reply the loop gives up at the first one where they have. -/
structure OnTime (w : ℕ) (startms waitms : BitVec 32) : Prop where
  condition : ∀ t ≤ 2 ^ 31,
    (waiting w startms waitms (Counter.read startms t) = true ↔ t < waitms.toNat)
  returns : ∀ ts polls, TurnsAt startms ts polls → (∀ t ∈ ts, t ≤ 2 ^ 31) → Quiet polls →
    receiveLoop w startms waitms polls = if ∀ t ∈ ts, t < waitms.toNat then none else some false

theorem receiveLoop_quiet {startms waitms : BitVec 32} {ts : List ℕ}
    (h : ∀ t ∈ ts, (waiting w startms waitms (Counter.read startms t) = true ↔ t < waitms.toNat))
    {polls : List Poll} (hturns : TurnsAt startms ts polls) (hquiet : Quiet polls) :
    receiveLoop w startms waitms polls =
      if ∀ t ∈ ts, t < waitms.toNat then none else some false := by
  induction polls generalizing ts with
  | nil =>
    rw [List.map_eq_nil_iff.1 (Eq.symm hturns)]
    simp [receiveLoop]
  | cons p polls ih =>
    cases ts with
    | nil => cases hturns
    | cons t ts =>
      obtain ⟨hmillis, hrest⟩ := List.cons_eq_cons.1 hturns
      have ht := h t (List.mem_cons_self ..)
      have hp := hquiet p (List.mem_cons_self ..)
      rw [receiveLoop, hmillis]
      split
      · rename_i hwaiting
        rw [hp, if_neg Bool.false_ne_true, ih (fun u hu => h u (List.mem_cons_of_mem _ hu)) hrest
          fun q hq => hquiet q (List.mem_cons_of_mem _ hq)]
        simp [ht.1 hwaiting]
      · rename_i hover
        have hlate : ¬t < waitms.toNat := fun hlt => hover (ht.2 hlt)
        simp [hlate]

theorem waiting_iff (hw : 32 ≤ w) (startms : BitVec 32) {waitms : BitVec 32}
    (hwait : waitms.toNat < 2 ^ 31) :
    (∀ t ≤ 2 ^ 31, (waiting w startms waitms (Counter.read startms t) = true ↔
      t < waitms.toNat)) ↔ startms.toNat + 2 ^ 31 < 2 ^ 32 := by
  rw [← Counter.before_read_iff hw hwait.le (by decide)]
  refine forall₂_congr fun t _ => ?_
  rw [waiting_eq, decide_eq_true_iff]

theorem ping_on_time_iff (hw : 32 ≤ w) (startms : BitVec 32) {waitms : BitVec 32}
    (hwait : waitms.toNat < 2 ^ 31) :
    OnTime w startms waitms ↔ startms.toNat + 2 ^ 31 < 2 ^ 32 := by
  rw [← waiting_iff hw startms hwait]
  constructor
  · intro h
    exact h.condition
  · intro hcondition
    exact ⟨hcondition, fun ts polls hturns hts hquiet =>
      receiveLoop_quiet (fun t ht => hcondition t (hts t ht)) hturns hquiet⟩

theorem ping_on_time_noon :
    (1000 : BitVec 32).toNat < 2 ^ 31 ∧
      (OnTime 64 0x12345678 1000 ↔ (0x12345678 : BitVec 32).toNat + 2 ^ 31 < 2 ^ 32) :=
  ⟨by decide, ping_on_time_iff (by decide) _ (by decide)⟩

/-- Half a second before the counter wraps, a ping for a second fails at once, or waits on. -/
theorem ping_not_on_time : ¬OnTime 32 0xFFFFFE0C 1000 ∧ ¬OnTime 64 0xFFFFFE0C 1000 := by
  constructor
  · intro h
    have hfirst := h.condition 0 (by decide)
    revert hfirst
    decide
  · intro h
    have hlate := h.condition 1500 (by decide)
    revert hlate
    decide

/-- With an `unsigned long` wider than the counter, a ping whose deadline lies behind the wrap waits
for a reply without end. -/
theorem receiveLoop_wrapping (hw : 32 < w) {startms waitms : BitVec 32}
    (hwrap : 2 ^ 32 ≤ startms.toNat + waitms.toNat) {polls : List Poll} (hquiet : Quiet polls) :
    receiveLoop w startms waitms polls = none := by
  have hpow : 2 ^ 33 ≤ 2 ^ w := Nat.pow_le_pow_right (by decide) hw
  have hwaiting : ∀ millis, waiting w startms waitms millis = true := by
    intro millis
    rw [waiting, decide_eq_true_eq, BitVec.lt_def, BitVec.toNat_add, BitVec.toNat_setWidth,
      BitVec.toNat_setWidth, BitVec.toNat_setWidth]
    have hmillis := millis.isLt
    have hstart := startms.isLt
    have hwait := waitms.isLt
    rw [Nat.mod_eq_of_lt (show millis.toNat < 2 ^ w by omega),
      Nat.mod_eq_of_lt (show startms.toNat < 2 ^ w by omega),
      Nat.mod_eq_of_lt (show waitms.toNat < 2 ^ w by omega), Nat.mod_eq_of_lt (by omega)]
    omega
  induction polls with
  | nil => rfl
  | cons p polls ih =>
    rw [receiveLoop, if_pos (hwaiting p.millis), hquiet p (List.mem_cons_self ..),
      if_neg Bool.false_ne_true]
    exact ih fun q hq => hquiet q (List.mem_cons_of_mem _ hq)

/-! ### Whose echo it is -/

/-- The header length field of an IP packet, in bytes. -/
def headerLength (packet : List Byte) : ℕ := 4 * (packet.getD 0 0 &&& 0x0F).toNat

/-- An ICMP echo reply from `address` with an identifier and a sequence number, in an IP packet whose
header may have options. -/
structure IsReply (address : IPaddr) (id sequence : BitVec 16) (packet : List Byte) : Prop where
  source : (packet.drop 12).take 4 = (Utils.bytes32 address).reverse
  type : packet[headerLength packet]? = some ICMP_ECHOREPLY
  id : (packet.drop (headerLength packet + 4)).take 2 = bytes16 id
  sequence : (packet.drop (headerLength packet + 6)).take 2 = bytes16 sequence

/-- The turn has taken such a reply from the socket. -/
def Poll.Reply (address : IPaddr) (id sequence : BitVec 16) (p : Poll) : Prop :=
  ∃ packet, p.recvfrom = some packet ∧ IsReply address id sequence packet

/-- Once the ping has returned `true`, one of the turns so far has taken a reply to its request. -/
def OwnEcho (w : ℕ) (address : IPaddr) (waitms : BitVec 32) (sequenceNumber : BitVec 16)
    (c : PingCalls) (table : Finset ℕ) : Prop :=
  ∀ polls, polls <+: c.polls →
    (ping w address waitms sequenceNumber { c with polls := polls } table).result = some true →
      ∃ p ∈ polls, p.Reply address (c.pid.setWidth 16) sequenceNumber

/-- Whatever is taken for a reply, while the loop is waiting, is a reply to the request or comes after
one. -/
def Guarded (w : ℕ) (address : IPaddr) (waitms : BitVec 32) (sequenceNumber : BitVec 16)
    (c : PingCalls) : Prop :=
  ∀ pre p post, c.polls = pre ++ p :: post →
    (∀ q ∈ pre ++ [p], waiting w c.startms waitms q.millis = true) → p.accepted = true →
      ∃ q ∈ pre ++ [p], q.Reply address (c.pid.setWidth 16) sequenceNumber

/-- The turn that returns `true` is the first or one of the rest. -/
theorem exists_accepted_cons_iff {startms waitms : BitVec 32} {p : Poll} {polls : List Poll} :
    (∃ pre q post, p :: polls = pre ++ q :: post ∧
        (∀ r ∈ pre ++ [q], waiting w startms waitms r.millis = true) ∧ q.accepted = true) ↔
      waiting w startms waitms p.millis = true ∧ (p.accepted = true ∨
        ∃ pre q post, polls = pre ++ q :: post ∧
          (∀ r ∈ pre ++ [q], waiting w startms waitms r.millis = true) ∧ q.accepted = true) := by
  constructor
  · rintro ⟨pre, q, post, heq, hpre, hq⟩
    rcases pre with _ | ⟨p', pre⟩
    · obtain ⟨rfl, -⟩ := List.cons_eq_cons.1 heq
      exact ⟨hpre p (List.mem_singleton_self p), .inl hq⟩
    · obtain ⟨rfl, rfl⟩ := List.cons_eq_cons.1 heq
      obtain ⟨hp, hpre⟩ := List.forall_mem_cons.1 hpre
      exact ⟨hp, .inr ⟨pre, q, post, rfl, hpre, hq⟩⟩
  · rintro ⟨hp, haccepted | ⟨pre, q, post, rfl, hpre, hq⟩⟩
    · exact ⟨[], p, polls, rfl, by simpa using hp, haccepted⟩
    · exact ⟨p :: pre, q, post, rfl, List.forall_mem_cons.2 ⟨hp, hpre⟩, hq⟩

theorem receiveLoop_eq_true_iff {startms waitms : BitVec 32} {polls : List Poll} :
    receiveLoop w startms waitms polls = some true ↔
      ∃ pre p post, polls = pre ++ p :: post ∧
        (∀ q ∈ pre ++ [p], waiting w startms waitms q.millis = true) ∧ p.accepted = true := by
  induction polls with
  | nil =>
    refine iff_of_false (by simp [receiveLoop]) ?_
    rintro ⟨pre, p, post, heq, -⟩
    simp at heq
  | cons p polls ih =>
    rw [receiveLoop, exists_accepted_cons_iff, ← ih]
    split
    · rename_i hwaiting
      rw [and_iff_right hwaiting]
      split
      · rename_i haccepted
        exact iff_of_true rfl (.inl haccepted)
      · rename_i haccepted
        exact (or_iff_right haccepted).symm
    · rename_i hover
      exact iff_of_false (by simp) fun h => hover h.1

theorem sends_polls_iff {c : PingCalls} {polls : List Poll} :
    ({ c with polls := polls } : PingCalls).Sends ↔ c.Sends :=
  ⟨fun h => ⟨h.1, h.2, h.3, h.4, h.5⟩, fun h => ⟨h.1, h.2, h.3, h.4, h.5⟩⟩

theorem ownEcho_iff {address : IPaddr} {waitms : BitVec 32} {sequenceNumber : BitVec 16}
    {c : PingCalls} {table : Finset ℕ} :
    OwnEcho w address waitms sequenceNumber c table ↔
      (c.Sends → Guarded w address waitms sequenceNumber c) := by
  constructor
  · intro h hsends pre p post hpolls hpre hp
    have htrue : receiveLoop w c.startms waitms (pre ++ [p]) = some true :=
      receiveLoop_eq_true_iff.2 ⟨pre, p, [], rfl, hpre, hp⟩
    have hprefix : pre ++ [p] <+: c.polls := by
      rw [hpolls]
      exact ⟨post, by simp⟩
    exact h (pre ++ [p]) hprefix (ping_result_eq_true_iff.2 ⟨sends_polls_iff.2 hsends, htrue⟩)
  · intro h polls hprefix hresult
    obtain ⟨hsends, htrue⟩ := ping_result_eq_true_iff.1 hresult
    obtain ⟨pre, p, post, rfl, hpre, hp⟩ := receiveLoop_eq_true_iff.1 htrue
    obtain ⟨rest, hrest⟩ := hprefix
    have hpolls : c.polls = pre ++ p :: (post ++ rest) := by rw [← hrest]; simp
    obtain ⟨q, hq, hreply⟩ := h (sends_polls_iff.1 hsends) pre p _ hpolls hpre hp
    refine ⟨q, ?_, hreply⟩
    rw [List.append_cons]
    exact List.mem_append_left post hq

/-- Once `latency` has reported a time for its second ping, one of the turns of this has taken a
reply to its request. -/
def LatencyOwnEcho (w : ℕ) (first second : PingCalls) (start₁ start₂ stop : BitVec 32)
    (table : Finset ℕ) : Prop :=
  ∀ polls, polls <+: second.polls → ∀ ms : BitVec w,
    (latency w first { second with polls := polls } start₁ start₂ stop table).1 = some (some ms) →
      ∃ p ∈ polls, p.Reply pingAddress (second.pid.setWidth 16) 2

/-- After a first ping that has failed, the second one decides. -/
theorem latency_second_iff {first second : PingCalls} {start₁ start₂ stop : BitVec 32}
    {table : Finset ℕ} (hfirst : (ping w pingAddress 1000 1 first table).result = some false) :
    (∃ ms : BitVec w, (latency w first second start₁ start₂ stop table).1 = some (some ms)) ↔
      (ping w pingAddress 1000 2 second
        (ping w pingAddress 1000 1 first table).table).result = some true := by
  unfold latency
  dsimp only
  rw [hfirst]
  dsimp only
  split
  · rename_i hsecond
    exact iff_of_true ⟨_, rfl⟩ hsecond
  · rename_i hsecond
    rw [hsecond]
    simp
  · rename_i hsecond
    rw [hsecond]
    simp

theorem ping_own_echo_iff (w : ℕ) :
    (∀ address waitms sequenceNumber c table,
      (OwnEcho w address waitms sequenceNumber c table ↔
        (c.Sends → Guarded w address waitms sequenceNumber c))) ∧
    ∀ first second start₁ start₂ stop table,
      (ping w pingAddress 1000 1 first table).result = some false →
        (LatencyOwnEcho w first second start₁ start₂ stop table ↔
          (second.Sends → Guarded w pingAddress 1000 2 second)) := by
  refine ⟨fun address waitms sequenceNumber c table => ownEcho_iff, ?_⟩
  intro first second start₁ start₂ stop table hfirst
  let left := (ping w pingAddress 1000 1 first table).table
  have hsecond : OwnEcho w pingAddress 1000 2 second left ↔ _ := ownEcho_iff
  rw [← hsecond]
  refine forall₂_congr fun polls _ => ?_
  rw [← forall_exists_index (q := fun _ => _), latency_second_iff hfirst]

/-! ### Packets of other pings -/

/-- The header of an IP packet of `length` bytes, without options, that carries an ICMP message. -/
def ipHeader (check length : BitVec 16) (source destination : IPaddr) : List Byte :=
  [0x45, 0] ++ (bytes16 length).reverse ++ [0, 0, 0, 0, 64, 1] ++ bytes16 check ++
    (Utils.bytes32 source).reverse ++ (Utils.bytes32 destination).reverse

def ipPacket (source destination : IPaddr) (icmp : List Byte) : List Byte :=
  let length := BitVec.ofNat 16 (20 + icmp.length)
  ipHeader (checksum (ipHeader 0 length source destination)) length source destination ++ icmp

def replyMessage (check id sequence : BitVec 16) (data : List Byte) : List Byte :=
  [ICMP_ECHOREPLY, 0] ++ bytes16 check ++ bytes16 id ++ bytes16 sequence ++ data

def echoReply (id sequence : BitVec 16) (data : List Byte) : List Byte :=
  replyMessage (checksum (replyMessage 0 id sequence data)) id sequence data

theorem isReply_ipHeader_iff {check length check' id id' sequence sequence' : BitVec 16}
    {source destination address : IPaddr} {data : List Byte} :
    IsReply address id' sequence'
        (ipHeader check length source destination ++ replyMessage check' id sequence data) ↔
      (Utils.bytes32 source).reverse = (Utils.bytes32 address).reverse ∧
        bytes16 id = bytes16 id' ∧ bytes16 sequence = bytes16 sequence' := by
  have hlength : headerLength (ipHeader check length source destination ++
      replyMessage check' id sequence data) = 20 := by
    show 4 * ((0x45 : Byte) &&& 0x0F).toNat = 20
    decide
  constructor
  · rintro ⟨hsource, -, hid, hsequence⟩
    rw [hlength] at hid hsequence
    exact ⟨hsource, hid, hsequence⟩
  · rintro ⟨hsource, hid, hsequence⟩
    refine ⟨hsource, ?_, ?_, ?_⟩
    · rw [hlength]
      rfl
    · rw [hlength]
      exact hid
    · rw [hlength]
      exact hsequence

theorem isReply_ipPacket_iff {source destination address : IPaddr}
    {id id' sequence sequence' : BitVec 16} {data : List Byte} :
    IsReply address id' sequence' (ipPacket source destination (echoReply id sequence data)) ↔
      (Utils.bytes32 source).reverse = (Utils.bytes32 address).reverse ∧
        bytes16 id = bytes16 id' ∧ bytes16 sequence = bytes16 sequence' :=
  isReply_ipHeader_iff

theorem accepted_iff {millis : BitVec 32} {packet : List Byte} {garbage : Byte} :
    Poll.accepted ⟨millis, some packet, garbage⟩ = true ↔
      packet ≠ [] ∧ (packet.take 1500).getD 20 garbage = ICMP_ECHOREPLY :=
  decide_eq_true_iff

/-- A reply in a packet without options is taken for one, whosoever it is. -/
theorem accepted_ipPacket (source destination : IPaddr) (id sequence : BitVec 16) (data : List Byte)
    (millis : BitVec 32) (garbage : Byte) :
    Poll.accepted ⟨millis, some (ipPacket source destination (echoReply id sequence data)), garbage⟩ =
      true := by
  unfold ipPacket echoReply
  dsimp only
  generalize checksum _ = check
  generalize checksum _ = check'
  rw [accepted_iff]
  exact ⟨List.cons_ne_nil _ _, rfl⟩

/-- A ping of process 0x1234 whose system calls succeed, with the turns `polls`. -/
def pinging (polls : List Poll) : PingCalls :=
  ⟨true, true, true, true, 0x1234, true, 0x12345678, polls⟩

theorem pinging_sends (polls : List Poll) : (pinging polls).Sends := ⟨rfl, rfl, rfl, rfl, rfl⟩

/-- Nothing comes until after the deadline. -/
def silent : PingCalls := pinging [⟨0x12345A80, none, 0⟩]

theorem ping_silent (table : Finset ℕ) :
    (ping 64 pingAddress 1000 1 silent table).result = some false := by
  rw [silent, ping_result_of_sends (pinging_sends _)]
  decide

/-- The first packet comes a millisecond after the start. -/
def hears (packet : List Byte) : PingCalls := pinging [⟨0x12345679, some packet, 0⟩]

theorem ping_hears {address : IPaddr} {sequenceNumber : BitVec 16} {table : Finset ℕ}
    {packet : List Byte} (h : Poll.accepted ⟨0x12345679, some packet, 0⟩ = true) :
    (ping 64 address 1000 sequenceNumber (hears packet) table).result = some true := by
  have hwaiting : waiting 64 0x12345678 1000 0x12345679 = true := by decide
  refine ping_result_eq_true_iff.2 ⟨pinging_sends _, ?_⟩
  show (if waiting 64 0x12345678 1000 0x12345679 then _ else _) = _
  rw [if_pos hwaiting, if_pos h]

theorem not_reply_hears {address : IPaddr} {id sequence : BitVec 16} {packet : List Byte}
    (h : ¬IsReply address id sequence packet) :
    ¬∃ p ∈ (hears packet).polls, p.Reply address id sequence := by
  rintro ⟨p, hp, packet', hpacket, hreply⟩
  rw [List.mem_singleton.1 hp] at hpacket
  exact h (Option.some.inj hpacket ▸ hreply)

/-- The reply to the second ping of `latency`. -/
def ownReply : List Byte := ipPacket pingAddress 0xC0A8010A (echoReply 0x1234 2 msg)

/-- `latency` reports its second ping, which has heard the reply to its own request. -/
theorem ping_own_echo_second :
    (∃ ms : BitVec 64, (latency 64 silent (hears ownReply) 0 0 0 ∅).1 = some (some ms)) ∧
      LatencyOwnEcho 64 silent (hears ownReply) 0 0 0 ∅ := by
  refine ⟨(latency_second_iff (ping_silent ∅)).2 (ping_hears (accepted_ipPacket ..)), ?_⟩
  refine ((ping_own_echo_iff 64).2 silent (hears ownReply) 0 0 0 ∅ (ping_silent ∅)).2 fun _ => ?_
  rintro pre p post hpolls - -
  have hp : p ∈ (hears ownReply).polls := by
    rw [hpolls]
    exact List.mem_append_right pre List.mem_cons_self
  refine ⟨p, List.mem_append_right pre (List.mem_singleton_self p), ownReply, ?_, ?_⟩
  · rw [List.mem_singleton.1 hp]
  · exact isReply_ipPacket_iff.2 ⟨rfl, by decide, by decide⟩

/-- The reply of 1.1.1.1 to another process's ping. -/
def foreignReply : List Byte := ipPacket 0x01010101 0xC0A8010A (echoReply 7 1 msg)

/-- The reply to the first ping of `latency`. -/
def lateReply : List Byte := ipPacket pingAddress 0xC0A8010A (echoReply 0x1234 1 msg)

/-- Either is taken for the reply asked for, the late one by the second ping of `latency`. -/
theorem ping_foreign_echo :
    ¬OwnEcho 64 pingAddress 1000 1 (hears foreignReply) ∅ ∧
      (ping 64 pingAddress 1000 1 silent ∅).result = some false ∧
      ¬LatencyOwnEcho 64 silent (hears lateReply) 0 0 0 ∅ := by
  refine ⟨fun h => ?_, ping_silent ∅, fun h => ?_⟩
  · have hecho := h _ (List.prefix_refl _) (ping_hears (accepted_ipPacket ..))
    refine not_reply_hears (fun hreply => ?_) hecho
    have hid := (isReply_ipPacket_iff.1 hreply).2.1
    revert hid
    decide
  · have hreport : ∃ ms : BitVec 64,
        (latency 64 silent (hears lateReply) 0 0 0 ∅).1 = some (some ms) :=
      (latency_second_iff (ping_silent ∅)).2 (ping_hears (accepted_ipPacket ..))
    obtain ⟨ms, hms⟩ := hreport
    have hecho := h _ (List.prefix_refl _) ms hms
    refine not_reply_hears (fun hreply => ?_) hecho
    have hsequence := (isReply_ipPacket_iff.1 hreply).2.2
    revert hsequence
    decide

end NetworkManager
end Terremoti
