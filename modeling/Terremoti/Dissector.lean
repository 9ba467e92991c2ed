import Terremoti.InfoReply

/-!
# The packet dissector (`seismocloud.lua`)

`dissector` walks over a packet and notes which bytes it shows under which name; a range outside the
packet is an error (`none`). The comment on the packet format and the dissector have three
thresholds of four bytes in a `GETINFO_REPLY`, `sendPacket` writes one: what follows is shown from
eight bytes further on (`dissector_getInfoReply`).
-/

namespace Terremoti

/-- What the dissector shows. -/
inductive Item
  | magicBytes
  | command
  | macAddress
  | version
  | model
  | destMacAddress
  | gpsLatitude
  | gpsLongitude
  | syslogServer
  | xThreshold
  | yThreshold
  | zThreshold
  | uptime
  | unixTime
  | softwareVersion
  | freeRam
  | latency
  | ntpServer
  | httpBaseAddress
  | platformName
  | accelerometerName
  | probeSpeed
  deriving DecidableEq

namespace Seismoproto

/-- Items of fixed size, one behind the other from `i` on; the next position comes with them. -/
def addItems (buffer : List Byte) : List (Item × ℕ) → ℕ → Option (List (Item × ℕ × ℕ) × ℕ)
  | [], i => some ([], i)
  | (item, size) :: items, i =>
    if i + size ≤ buffer.length then
      (addItems buffer items (i + size)).map fun r => ((item, i, size) :: r.1, r.2)
    else none

/-- Strings, each as long as there is no NUL; the NUL stays in front of the next one. -/
def addStrings (buffer : List Byte) : List Item → ℕ → Option (List (Item × ℕ × ℕ) × ℕ)
  | [], i => some ([], i)
  | item :: items, i => do
    let strsize ← (buffer.drop i).idxOf? 0
    let r ← addStrings buffer items (i + strsize)
    some ((item, i, strsize) :: r.1, r.2)

/-- `seismoproto.dissector`: the items with the range of each. -/
def dissector (buffer : List Byte) : Option (List (Item × ℕ × ℕ)) :=
  if buffer.length < 4 then none
  else if buffer.take 4 = str "INGV" then do
    let (head, i) ← addItems buffer [(.magicBytes, 5), (.command, 1)] 0
    let cmdbyte := buffer.getD 5 0
    if cmdbyte = 2 then
      let (items, _) ← addItems buffer [(.macAddress, 6), (.version, 4), (.model, 8)] i
      some (head ++ items)
    else if cmdbyte = 7 then
      let (items, _) ←
        addItems buffer [(.destMacAddress, 6), (.gpsLatitude, 4), (.gpsLongitude, 4)] i
      some (head ++ items)
    else if cmdbyte = 12 then
      let (items, i) ← addItems buffer
        [(.destMacAddress, 6), (.syslogServer, 4), (.xThreshold, 4), (.yThreshold, 4),
          (.zThreshold, 4), (.uptime, 4), (.unixTime, 4), (.softwareVersion, 4), (.freeRam, 4),
          (.latency, 4), (.ntpServer, 4)] i
      let (strings, i) ← addStrings buffer [.httpBaseAddress, .platformName, .accelerometerName] i
      let (speed, _) ← addItems buffer [(.probeSpeed, 4)] i
      some (head ++ (items ++ (strings ++ speed)))
    else some head
  else some []

end Seismoproto

/-- The name under which the dissector shows a field; of the thresholds the first. -/
def InfoField.item : InfoField → Item
  | magic => .magicBytes
  | command => .command
  | mac => .destMacAddress
  | syslogServer => .syslogServer
  | threshold => .xThreshold
  | uptime => .uptime
  | unixts => .unixTime
  | softwareVersion => .softwareVersion
  | freeRam => .freeRam
  | latency => .latency
  | ntpServer => .ntpServer
  | httpBaseAddress => .httpBaseAddress
  | platformName => .platformName
  | accelerometerName => .accelerometerName
  | statProbeSpeed => .probeSpeed

namespace Seismoproto

/-- Every field of the packet is shown from the bytes it was written to. -/
def Agrees (pkt : PACKET) (data : List Byte) : Prop :=
  ∃ items, dissector data = some items ∧
    ∀ f o n, (f, o, n) ∈ Layout.ranges 0 (infoFields pkt) → (f.item, o, n) ∈ items

/-! ### What is shown -/

/-- The items with the positions they have one behind the other. -/
def place : ℕ → List (Item × ℕ) → List (Item × ℕ × ℕ)
  | _, [] => []
  | i, (item, size) :: items => (item, i, size) :: place (i + size) items

theorem addItems_eq {buffer : List Byte} {items : List (Item × ℕ)} {i : ℕ}
    {r : List (Item × ℕ × ℕ) × ℕ} (h : addItems buffer items i = some r) :
    r = (place i items, i + (items.map Prod.snd).sum) := by
  induction items generalizing i r with
  | nil => cases h; rfl
  | cons item items ih =>
    obtain ⟨item, size⟩ := item
    rw [addItems] at h
    split at h
    · obtain ⟨r', hr', rfl⟩ := Option.map_eq_some_iff.1 h
      rw [ih hr', place, List.map_cons, List.sum_cons, Nat.add_assoc]
    · cases h

theorem addStrings_eq {buffer : List Byte} {items : List Item} {i : ℕ}
    {r : List (Item × ℕ × ℕ) × ℕ} (h : addStrings buffer items i = some r) :
    ∃ sizes : List ℕ, sizes.length = items.length ∧
      r = (place i (items.zip sizes), i + sizes.sum) := by
  induction items generalizing i r with
  | nil => cases h; exact ⟨[], rfl, rfl⟩
  | cons item items ih =>
    obtain ⟨size, -, h⟩ := Option.bind_eq_some_iff.1 h
    obtain ⟨r', hr', h⟩ := Option.bind_eq_some_iff.1 h
    obtain ⟨sizes, hsizes, rfl⟩ := ih hr'
    cases h
    refine ⟨size :: sizes, congrArg Nat.succ hsizes, ?_⟩
    rw [List.zip_cons_cons, place, List.sum_cons, Nat.add_assoc]

/-- What is shown of a `GETINFO_REPLY`, if the strings end within it. -/
theorem dissector_of_getInfoReply {buffer : List Byte} {items : List (Item × ℕ × ℕ)}
    (hlen : buffer.length = PACKET_SIZE) (hhead : buffer.take 6 = magic ++ [12])
    (h : dissector buffer = some items) :
    ∃ n₁ n₂ n₃, items =
      [(.magicBytes, 0, 5), (.command, 5, 1), (.destMacAddress, 6, 6), (.syslogServer, 12, 4),
        (.xThreshold, 16, 4), (.yThreshold, 20, 4), (.zThreshold, 24, 4), (.uptime, 28, 4),
        (.unixTime, 32, 4), (.softwareVersion, 36, 4), (.freeRam, 40, 4), (.latency, 44, 4),
        (.ntpServer, 48, 4), (.httpBaseAddress, 52, n₁), (.platformName, 52 + n₁, n₂),
        (.accelerometerName, 52 + n₁ + n₂, n₃), (.probeSpeed, 52 + n₁ + n₂ + n₃, 4)] := by
  have hmagic : buffer.take 4 = str "INGV" := by
    have htake := congrArg (List.take 4) hhead
    rwa [List.take_take] at htake
  have hcmd : buffer.getD 5 0 = 12 := by
    rw [← getD_take (show 5 < 6 by omega), hhead]
    rfl
  rw [dissector, if_neg (by rw [hlen]; decide), if_pos hmagic] at h
  obtain ⟨r, hr, h⟩ := Option.bind_eq_some_iff.1 h
  rw [addItems_eq hr] at h
  dsimp only at h
  rw [hcmd, if_neg (by decide), if_neg (by decide), if_pos rfl] at h
  obtain ⟨r, hr, h⟩ := Option.bind_eq_some_iff.1 h
  rw [addItems_eq hr] at h
  obtain ⟨r, hr, h⟩ := Option.bind_eq_some_iff.1 h
  obtain ⟨sizes, hsizes, rfl⟩ := addStrings_eq hr
  obtain ⟨r, hr, h⟩ := Option.bind_eq_some_iff.1 h
  rw [addItems_eq hr] at h
  cases h
  obtain ⟨n₁, n₂, n₃, rfl⟩ := List.length_eq_three.1 hsizes
  refine ⟨n₁, n₂, n₃, ?_⟩
  have hsum : [n₁, n₂, n₃].sum = n₁ + n₂ + n₃ := by simp [Nat.add_assoc]
  rw [hsum, ← Nat.add_assoc, ← Nat.add_assoc]
  rfl

/-! ### What is written -/

/-- The fields behind the threshold, up to the first string. -/
def shifted : List InfoField :=
  [.uptime, .unixts, .softwareVersion, .freeRam, .latency, .ntpServer, .httpBaseAddress]

/-- What the dissector shows as the fields behind the threshold starts eight bytes behind where they
were written, so that it shows no `GETINFO_REPLY` as it was written. -/
theorem dissector_getInfoReply (b : Build) (mac : Fin 6 → Byte) (pkt : PACKET) :
    let pkt := { pkt with type := .GETINFO_REPLY }
    let data := (sendPacket b mac pkt).data
    ¬ Agrees pkt data ∧
      ∀ items, dissector data = some items → ∀ f ∈ shifted, ∀ o n o' n',
        (f, o, n) ∈ Layout.ranges 0 (infoFields pkt) → (f.item, o', n') ∈ items → o' = o + 8 := by
  intro pkt data
  have hread : ∀ items, dissector data = some items → _ := fun items h =>
    dissector_of_getInfoReply (length_sendPacket b mac pkt) (take_sendPacket b mac pkt) h
  obtain ⟨m₁, m₂, m₃, m₄, o₂, o₃, o₄, hranges⟩ := ranges_infoFields pkt
  constructor
  · rintro ⟨items, hitems, hagree⟩
    obtain ⟨n₁, n₂, n₃, rfl⟩ := hread items hitems
    have huptime := hagree .uptime 20 4 (by rw [hranges]; simp)
    simp [InfoField.item] at huptime
  · intro items hitems f hf o n o' n' hwritten hshown
    obtain ⟨n₁, n₂, n₃, rfl⟩ := hread items hitems
    rw [hranges] at hwritten
    simp only [shifted, List.mem_cons, List.not_mem_nil, or_false] at hf
    rcases hf with rfl | rfl | rfl | rfl | rfl | rfl | rfl
    all_goals
      simp [InfoField.item] at hwritten hshown
      omega

/-- A reply of a device that has been up for a minute. -/
def minuteReply : PACKET where
  type := .GETINFO_REPLY
  source := 0
  syslogServer := 0
  latitude := 0
  longitude := 0
  mac := fun _ => 2
  threshold := 0x3f800000
  uptime := 60
  unixts := 1500000000
  softwareVersion := str "2.15"
  freeRam := 300000
  latency := 0x41200000
  ntpServer := 0
  httpBaseAddress := str "http://www.sapienzaapps.it/seismocloud/"
  platformName := str "RaspberryPI"
  accelerometerName := str "ADXL345"
  statProbeSpeed := 20

/-- The uptime is written at 20 and shown from 28, where the version is. -/
theorem not_agrees_minuteReply :
    let data := (sendPacket ⟨.raspi, false⟩ (fun _ => 2) minuteReply).data
    (.uptime, 20, 4) ∈ Layout.ranges 0 (infoFields minuteReply) ∧
      (dissector data).map (fun items => items.filter (·.1 = .uptime)) = some [(.uptime, 28, 4)] ∧
      Buffer.read data 28 4 = str "2.15" ∧ ¬ Agrees minuteReply data := by
  intro data
  have hwritten : (.uptime, 20, 4) ∈ Layout.ranges 0 (infoFields minuteReply) := by decide
  have hshown : (dissector data).map (fun items => items.filter (·.1 = .uptime)) =
      some [(.uptime, 28, 4)] := by decide +kernel
  refine ⟨hwritten, hshown, by decide +kernel, ?_⟩
  rintro ⟨items, hitems, hagree⟩
  rw [hitems, Option.map_some, Option.some_inj] at hshown
  have huptime : (Item.uptime, 20, 4) ∈ items.filter (·.1 = .uptime) :=
    List.mem_filter.2 ⟨hagree _ _ _ hwritten, by decide⟩
  rw [hshown] at huptime
  exact absurd huptime (by decide)

end Seismoproto
end Terremoti
