import Terremoti.CommandInterface
import Terremoti.Lib.Layout

/-!
# The `GETINFO_REPLY` packet

`sendPacket` writes the fields of the packet one after another into zeroed memory, each where the
one before ended; the offsets behind the first string depend on the data (`infoFields`,
`sendPacket_infoFields`). `Info` is what a receiver can tell of a packet: `Info.decode` walks over
the fields again and finds the strings by their NULs.
-/

namespace Terremoti

inductive InfoField
  | magic
  | command
  | mac
  | syslogServer
  | threshold
  | uptime
  | unixts
  | softwareVersion
  | freeRam
  | latency
  | ntpServer
  | httpBaseAddress
  | platformName
  | accelerometerName
  | statProbeSpeed
  deriving DecidableEq

/-- `memcpy` and an offset `n` further on. -/
def block (label : InfoField) (bytes : List Byte) (n : ℕ) : Layout.Field InfoField Byte :=
  ⟨label, bytes, 0, n - bytes.length⟩

/-- `strncpy` of `n` bytes and an offset behind the terminator. -/
def chars (label : InfoField) (s : List Byte) (n : ℕ) : Layout.Field InfoField Byte :=
  let items := (cstr s).take n
  ⟨label, items, n - items.length, min s.length n + 1 - items.length⟩

def infoFields (pkt : PACKET) : List (Layout.Field InfoField Byte) :=
  [block .magic magic 5,
    block .command [pkt.type.toByte] 1,
    block .mac (List.ofFn pkt.mac) 6,
    block .syslogServer (Utils.bytes32 pkt.syslogServer) 4,
    block .threshold (Utils.bytes32 pkt.threshold) 4,
    block .uptime (Utils.bytes32 pkt.uptime) 4,
    block .unixts (Utils.bytes32 pkt.unixts) 4,
    block .softwareVersion (pkt.softwareVersion.take 4) 4,
    block .freeRam (Utils.bytes32 pkt.freeRam) 4,
    block .latency (Utils.bytes32 pkt.latency) 4,
    block .ntpServer (Utils.bytes32 pkt.ntpServer) 4,
    chars .httpBaseAddress pkt.httpBaseAddress 169,
    chars .platformName pkt.platformName 19,
    chars .accelerometerName pkt.accelerometerName 9,
    block .statProbeSpeed (Utils.bytes32 pkt.statProbeSpeed) 4]

/-! ### The writes -/

theorem next_block {label : InfoField} {bytes : List Byte} {n : ℕ} (h : bytes.length ≤ n)
    (offset : ℕ) : (block label bytes n).next offset = offset + n := by
  simp only [block, Layout.Field.next]
  omega

theorem next_chars (label : InfoField) (s : List Byte) (n offset : ℕ) :
    (chars label s n).next offset = offset + min s.length n + 1 := by
  have hle : (cstr s).length ≤ s.length := (List.takeWhile_sublist _).length_le
  simp only [chars, Layout.Field.next, List.length_take]
  omega

theorem size_block (label : InfoField) (bytes : List Byte) (n : ℕ) :
    (block label bytes n).items.length + (block label bytes n).pad = bytes.length := rfl

theorem size_chars (label : InfoField) (s : List Byte) (n : ℕ) :
    (chars label s n).items.length + (chars label s n).pad = n := by
  have hle := List.length_take_le n (cstr s)
  exact Nat.add_sub_of_le hle

section
variable (pkt : PACKET)

theorem next_mac (offset : ℕ) :
    (block .mac (List.ofFn pkt.mac) 6).next offset = offset + 6 :=
  next_block (by rw [List.length_ofFn]) offset

theorem next_bytes32 (label : InfoField) (x : BitVec 32) (offset : ℕ) :
    (block label (Utils.bytes32 x) 4).next offset = offset + 4 := next_block le_rfl offset

theorem next_version (offset : ℕ) :
    (block .softwareVersion (pkt.softwareVersion.take 4) 4).next offset = offset + 4 :=
  next_block (List.length_take_le 4 _) offset

theorem next_magic (offset : ℕ) : (block .magic magic 5).next offset = offset + 5 :=
  next_block (by decide) offset

theorem next_command (offset : ℕ) :
    (block .command [pkt.type.toByte] 1).next offset = offset + 1 := next_block le_rfl offset

end

theorem sendPacket_infoFields (b : Build) (mac : Fin 6 → Byte) {pkt : PACKET}
    (h : pkt.type = .GETINFO_REPLY) :
    (sendPacket b mac pkt).data =
      Layout.writeFields 0 0 (infoFields pkt) (List.replicate PACKET_SIZE 0) := by
  rw [sendPacket_data, if_neg (by rw [h]; decide), if_pos h, header]
  simp only [infoFields, Layout.writeFields, next_magic, next_command, next_mac, next_bytes32,
    next_version, next_chars]
  simp only [block, List.replicate_zero, List.append_nil]
  rfl

theorem writes_infoFields (pkt : PACKET) :
    ∀ x ∈ Layout.writes 0 (infoFields pkt), x.1 + x.2 ≤ 248 := by
  have h32 : ∀ x, (Utils.bytes32 x).length = 4 := fun _ => rfl
  have hmagic : magic.length = 5 := by decide
  have hversion := List.length_take_le 4 pkt.softwareVersion
  simp only [infoFields, Layout.writes, next_magic, next_command, next_mac, next_bytes32,
    next_version, next_chars, size_block, size_chars, List.forall_mem_cons, h32, hmagic,
    List.length_ofFn, List.length_singleton]
  refine ⟨?_, ?_, ?_, ?_, ?_, ?_, ?_, ?_, ?_, ?_, ?_, ?_, ?_, ?_, ?_, by simp⟩
  all_goals omega

theorem length_text_infoFields (pkt : PACKET) : (Layout.text 0 (infoFields pkt)).length ≤ 248 := by
  have hlen := Layout.length_append_text 0 [] (infoFields pkt)
  rw [List.nil_append, List.length_nil] at hlen
  rw [hlen]
  simp only [infoFields, Layout.finish, List.foldl_cons, List.foldl_nil, next_magic, next_command,
    next_mac, next_bytes32, next_version, next_chars]
  omega

/-- The fields stand in the packet one after another, and zeros behind them. -/
theorem sendPacket_text (b : Build) (mac : Fin 6 → Byte) {pkt : PACKET}
    (h : pkt.type = .GETINFO_REPLY) :
    (sendPacket b mac pkt).data = (Layout.text 0 (infoFields pkt)).rightpad PACKET_SIZE 0 := by
  have hwrites : ∀ x ∈ Layout.writes 0 (infoFields pkt), x.1 + x.2 ≤ PACKET_SIZE :=
    fun x hx => (writes_infoFields pkt x hx).trans (by decide)
  have hend : (Layout.text 0 (infoFields pkt)).length ≤ PACKET_SIZE :=
    (length_text_infoFields pkt).trans (by decide)
  rw [sendPacket_infoFields b mac h]
  exact Layout.writeFields_rightpad (p := []) hwrites hend

theorem ranges_infoFields (pkt : PACKET) :
    ∃ n₁ n₂ n₃ n₄ o₂ o₃ o₄, Layout.ranges 0 (infoFields pkt) =
      [(.magic, 0, 5), (.command, 5, 1), (.mac, 6, 6), (.syslogServer, 12, 4), (.threshold, 16, 4),
        (.uptime, 20, 4), (.unixts, 24, 4), (.softwareVersion, 28, n₁), (.freeRam, 32, 4),
        (.latency, 36, 4), (.ntpServer, 40, 4), (.httpBaseAddress, 44, n₂), (.platformName, o₂, n₃),
        (.accelerometerName, o₃, n₄), (.statProbeSpeed, o₄, 4)] := by
  simp only [infoFields, Layout.ranges, next_magic, next_command, next_mac, next_bytes32,
    next_version, next_chars]
  exact ⟨_, _, _, _, _, _, _, rfl⟩

/-! ### What a receiver reads -/

@[ext] structure Info where
  mac : Fin 6 → Byte
  syslogServer : BitVec 32
  threshold : BitVec 32
  uptime : BitVec 32
  unixts : BitVec 32
  softwareVersion : List Byte
  freeRam : BitVec 32
  latency : BitVec 32
  ntpServer : BitVec 32
  httpBaseAddress : List Byte
  platformName : List Byte
  accelerometerName : List Byte
  statProbeSpeed : BitVec 32

namespace Info

def decode (buf : List Byte) : Info :=
  let httpBaseAddress := cstr (buf.drop 44)
  let offset := 44 + (httpBaseAddress.length + 1)
  let platformName := cstr (buf.drop offset)
  let offset := offset + (platformName.length + 1)
  let accelerometerName := cstr (buf.drop offset)
  let offset := offset + (accelerometerName.length + 1)
  { mac := fun i => buf.getD (6 + i) 0
    syslogServer := Utils.load32 (buf.drop 12)
    threshold := Utils.load32 (buf.drop 16)
    uptime := Utils.load32 (buf.drop 20)
    unixts := Utils.load32 (buf.drop 24)
    softwareVersion := Buffer.read buf 28 4
    freeRam := Utils.load32 (buf.drop 32)
    latency := Utils.load32 (buf.drop 36)
    ntpServer := Utils.load32 (buf.drop 40)
    httpBaseAddress := httpBaseAddress
    platformName := platformName
    accelerometerName := accelerometerName
    statProbeSpeed := Utils.load32 (buf.drop offset) }

/-- The bytes in front of the strings. -/
def head (i : Info) : List Byte :=
  magic ++ ([12] ++ (List.ofFn i.mac ++ (Utils.bytes32 i.syslogServer ++
    (Utils.bytes32 i.threshold ++ (Utils.bytes32 i.uptime ++ (Utils.bytes32 i.unixts ++
      (i.softwareVersion ++ (Utils.bytes32 i.freeRam ++ (Utils.bytes32 i.latency ++
        Utils.bytes32 i.ntpServer)))))))))

def encode (i : Info) : List Byte :=
  i.head ++ (i.httpBaseAddress ++ 0 :: (i.platformName ++ 0 :: (i.accelerometerName ++
    0 :: Utils.bytes32 i.statProbeSpeed)))

/-- Four bytes of version, and strings that end where their NUL stands. -/
structure Sound (i : Info) : Prop where
  softwareVersion : i.softwareVersion.length = 4
  httpBaseAddress : 0 ∉ i.httpBaseAddress
  platformName : 0 ∉ i.platformName
  accelerometerName : 0 ∉ i.accelerometerName

theorem length_head {i : Info} (h : i.Sound) : i.head.length = 44 := by
  have hmagic : magic.length = 5 := by decide
  have h32 : ∀ x, (Utils.bytes32 x).length = 4 := fun _ => rfl
  simp only [head, List.length_append, hmagic, List.length_singleton, List.length_ofFn, h32,
    h.softwareVersion]

/-- Behind a string and its NUL. -/
theorem drop_string {buf s t : List Byte} {offset : ℕ} (h : buf.drop offset = s ++ 0 :: t) :
    buf.drop (offset + (s.length + 1)) = t := by
  rw [← List.drop_drop, h, List.drop_length_add_append]
  rfl

theorem load32_drop {buf : List Byte} {x : BitVec 32} {k : ℕ}
    (h : buf.drop k = Utils.bytes32 x ++ buf.drop (k + 4)) : Utils.load32 (buf.drop k) = x := by
  rw [h, Utils.load32_bytes32]

/-- The strings, each found behind the one before, and the number at the end. -/
theorem decode_strings {buf s₁ s₂ s₃ t : List Byte} {x : BitVec 32}
    (h : buf.drop 44 = s₁ ++ 0 :: (s₂ ++ 0 :: (s₃ ++ 0 :: (Utils.bytes32 x ++ t))))
    (h₁ : 0 ∉ s₁) (h₂ : 0 ∉ s₂) (h₃ : 0 ∉ s₃) :
    (decode buf).httpBaseAddress = s₁ ∧ (decode buf).platformName = s₂ ∧
      (decode buf).accelerometerName = s₃ ∧ (decode buf).statProbeSpeed = x := by
  have hdrop₂ := drop_string h
  have hdrop₃ := drop_string hdrop₂
  have hdrop₄ := drop_string hdrop₃
  have hbase : cstr (buf.drop 44) = s₁ := by rw [h, cstr_append_nul h₁]
  have hplatform : cstr (buf.drop (44 + (s₁.length + 1))) = s₂ := by
    rw [hdrop₂, cstr_append_nul h₂]
  have haccel : cstr (buf.drop (44 + (s₁.length + 1) + (s₂.length + 1))) = s₃ := by
    rw [hdrop₃, cstr_append_nul h₃]
  simp only [decode, hbase, hplatform, haccel, hdrop₄, Utils.load32_bytes32, and_self]

theorem decode_encode {i : Info} (h : i.Sound) (n : ℕ) : decode (i.encode.rightpad n 0) = i := by
  obtain ⟨z, hz⟩ : ∃ z, i.encode.rightpad n 0 = i.head ++ (i.httpBaseAddress ++ 0 ::
      (i.platformName ++ 0 :: (i.accelerometerName ++ 0 :: (Utils.bytes32 i.statProbeSpeed ++ z)))) :=
    ⟨List.replicate (n - i.encode.length) 0, by
      simp only [List.rightpad, encode, List.append_assoc, List.cons_append]⟩
  rw [hz]
  have hstrings (s : List Byte) : (i.head ++ s).drop 44 = s := List.drop_left' (length_head h)
  obtain ⟨hbase, hplatform, haccel, hspeed⟩ := decode_strings (hstrings (i.httpBaseAddress ++ 0 ::
    (i.platformName ++ 0 :: (i.accelerometerName ++ 0 :: (Utils.bytes32 i.statProbeSpeed ++ z)))))
    h.httpBaseAddress h.platformName h.accelerometerName
  obtain ⟨v₀, v₁, v₂, v₃, hversion⟩ := List.length_eq_four.1 h.softwareVersion
  ext1
  case mac => exact funext fun | 0 => rfl | 1 => rfl | 2 => rfl | 3 => rfl | 4 => rfl | 5 => rfl
  case softwareVersion =>
    simp only [decode, head, hversion]
    rfl
  case httpBaseAddress => exact hbase
  case platformName => exact hplatform
  case accelerometerName => exact haccel
  case statProbeSpeed => exact hspeed
  -- the numbers at fixed offsets
  all_goals
    simp only [decode, head, hversion]
    exact load32_drop (by rfl)

end Info

/-- A `GETINFO_REPLY` with four bytes of version and strings without NULs. -/
structure InfoPacket extends PACKET where
  reply : type = .GETINFO_REPLY
  version : softwareVersion.length = 4
  httpBaseAddress_nul : 0 ∉ httpBaseAddress
  platformName_nul : 0 ∉ platformName
  accelerometerName_nul : 0 ∉ accelerometerName

namespace InfoPacket

/-- The fields of the packet, with the strings cut to what there is room for. -/
def info (p : InfoPacket) : Info where
  mac := p.mac
  syslogServer := p.syslogServer
  threshold := p.threshold
  uptime := p.uptime
  unixts := p.unixts
  softwareVersion := p.softwareVersion
  freeRam := p.freeRam
  latency := p.latency
  ntpServer := p.ntpServer
  httpBaseAddress := p.httpBaseAddress.take 169
  platformName := p.platformName.take 19
  accelerometerName := p.accelerometerName.take 9
  statProbeSpeed := p.statProbeSpeed

/-- The reply to `GETINFO` of a device whose base URL has no NUL. -/
def ofDevice {w : ℕ} {D : Type} [DoubleText D] (b : Build) (i : CommandInput w)
    (echo : Option (BitVec w)) (c : Cmd w D) (h : 0 ∉ c.device.baseUrl) : InfoPacket where
  toPACKET := { c.info b i echo with type := .GETINFO_REPLY }
  reply := rfl
  version := show SOFTWARE_VERSION.length = 4 by decide
  httpBaseAddress_nul := h
  platformName_nul := show 0 ∉ b.platform.getPlatformName by cases b.platform <;> decide
  accelerometerName_nul := show 0 ∉ b.platform.getAccelerometerName by cases b.platform <;> decide

theorem info_sound (p : InfoPacket) : p.info.Sound where
  softwareVersion := p.version
  httpBaseAddress := fun h => p.httpBaseAddress_nul (List.mem_of_mem_take h)
  platformName := fun h => p.platformName_nul (List.mem_of_mem_take h)
  accelerometerName := fun h => p.accelerometerName_nul (List.mem_of_mem_take h)

theorem text_block {label : InfoField} {bytes : List Byte} {n : ℕ} (h : n ≤ bytes.length) :
    (block label bytes n).items ++ List.replicate (block label bytes n).gap 0 = bytes := by
  simp only [block, Nat.sub_eq_zero_of_le h, List.replicate_zero, List.append_nil]

theorem text_chars (label : InfoField) {s : List Byte} (h : 0 ∉ s) (n : ℕ) :
    (chars label s n).items ++ List.replicate (chars label s n).gap 0 = s.take n ++ [0] := by
  have hgap : min s.length n + 1 - min n s.length = 1 := by omega
  simp only [chars, cstr_of_notMem h, List.length_take, hgap, List.replicate_one]

theorem text_infoFields (p : InfoPacket) :
    Layout.text 0 (infoFields p.toPACKET) = p.info.encode := by
  have hversion : p.softwareVersion.take 4 = p.softwareVersion :=
    List.take_of_length_le p.version.le
  have h32 : ∀ (label : InfoField) (x : BitVec 32),
      (block label (Utils.bytes32 x) 4).items ++
        List.replicate (block label (Utils.bytes32 x) 4).gap 0 = Utils.bytes32 x :=
    fun _ _ => text_block le_rfl
  simp only [infoFields, Layout.text, List.flatMap_cons, List.flatMap_nil, hversion, h32,
    text_block (show 5 ≤ magic.length by decide),
    text_block (show 6 ≤ (List.ofFn p.mac).length by rw [List.length_ofFn]),
    text_block p.version.ge, text_chars _ p.httpBaseAddress_nul, text_chars _ p.platformName_nul,
    text_chars _ p.accelerometerName_nul, p.reply]
  simp only [Info.encode, Info.head, List.append_assoc, List.append_nil]
  rfl

/-- The `GETINFO_REPLY` is written within the packet; a receiver reads from it the fields as they
are and the strings as far as there is room for them; and two packets are the same only if they
agree on that. -/
theorem sendPacket_info (b b' : Build) (mac mac' : Fin 6 → Byte) (p q : InfoPacket) :
    (sendPacket b mac p.toPACKET).data =
        Layout.writeFields 0 0 (infoFields p.toPACKET) (List.replicate PACKET_SIZE 0) ∧
      (∀ x ∈ Layout.writes 0 (infoFields p.toPACKET), x.1 + x.2 ≤ PACKET_SIZE) ∧
      Info.decode (sendPacket b mac p.toPACKET).data = p.info ∧
      ((sendPacket b mac p.toPACKET).data = (sendPacket b' mac' q.toPACKET).data ↔
        p.info = q.info) := by
  have hdata : ∀ (b : Build) (mac : Fin 6 → Byte) (p : InfoPacket),
      (sendPacket b mac p.toPACKET).data = p.info.encode.rightpad PACKET_SIZE 0 := by
    intro b mac p
    rw [sendPacket_text b mac p.reply, text_infoFields]
  refine ⟨sendPacket_infoFields b mac p.reply, fun x hx => ?_, ?_, ?_⟩
  · exact (writes_infoFields p.toPACKET x hx).trans (by decide)
  · rw [hdata, Info.decode_encode p.info_sound]
  · rw [hdata, hdata]
    constructor
    · intro h
      rw [← Info.decode_encode p.info_sound PACKET_SIZE, h, Info.decode_encode q.info_sound]
    · intro h
      rw [h]

end InfoPacket
end Terremoti
