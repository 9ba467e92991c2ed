import Mathlib.Data.List.GetD
import Terremoti.CLib
import Terremoti.Lib.Buffer

/-!
# Host and port of a URL (`HTTPClient::hostFromURL`)

Two loops look for the end of the host and of the port (`scan_append` says where such a loop stops);
the offset they end at is where the path begins. `hostFromURL_bytes` is the way back from a rendered
`URL` to its parts.
-/

namespace Terremoti

/-- A URL with a host that fits `serverName`, a port or none, and a path or none. -/
structure URL where
  host : List Byte
  port : Option (BitVec 16)
  path : List Byte
  named : host ≠ []
  fits : host.length ≤ 99
  bare : ∀ c ∈ host, c ≠ 47 ∧ c ≠ 58 ∧ c ≠ 0
  slash : path = [] ∨ path.head? = some 47
  path_nul : 0 ∉ path

namespace URL

def decimal (port : BitVec 16) : List Byte := (Digits.natural 10 port.toNat).map ascii

def portText : Option (BitVec 16) → List Byte
  | some port => 58 :: decimal port
  | none => []

def bytes (u : URL) : List Byte := str "http://" ++ u.host ++ portText u.port ++ u.path

end URL

namespace HTTPClient

/-- Where `while (i < urlSize && ...) i++` ends: the first index from `i` on whose character is
`stop`. -/
def scan (stop : Byte → Bool) (url : List Byte) (i : ℕ) : ℕ :=
  i + ((url.drop i).takeWhile fun c => !stop c).length

/-- The offset of the path, the buffer of the host name and the port. -/
structure HostRead where
  offset : ℕ
  hostname : List Byte
  port : BitVec 16

/-- `HTTPClient::hostFromURL`, with a `long` of `w` bits. -/
def hostFromURL (w : ℕ) (url hostname : List Byte) (port : BitVec 16) : HostRead :=
  let url := cstr url
  let offset := if url.take 7 = str "http://" then 7 else 0
  let hostEnd := scan (fun c => c = 47 || c = 58) url offset
  let hostname := Buffer.write hostname 0 (Buffer.read url offset (hostEnd - offset))
  let hostname := Buffer.write hostname (hostEnd - offset) [0]
  if url.getD hostEnd 0 = 58 then
    let portEnd := scan (fun c => c = 47) url (hostEnd + 1)
    let p := portEnd - (hostEnd + 1)
    let p := if p < 30 then p else 30
    let buf := Buffer.read url (hostEnd + 1) p
    ⟨portEnd, hostname, (atol w buf).setWidth 16⟩
  else ⟨hostEnd, hostname, port⟩

/-! ### The loops -/

theorem scan_append {stop : Byte → Bool} {s rest : List Byte} (pre : List Byte)
    (hs : ∀ c ∈ s, stop c = false) (hrest : ∀ c, rest.head? = some c → stop c = true) :
    scan stop (pre ++ s ++ rest) pre.length = (pre ++ s).length := by
  have htake : (s ++ rest).takeWhile (fun c => !stop c) = s := by
    rw [List.takeWhile_append_of_pos fun c hc => by rw [hs c hc]; rfl]
    cases rest with
    | nil => exact List.append_nil _
    | cons c rest =>
      rw [List.takeWhile_cons_of_neg (by simp [hrest c rfl])]
      exact List.append_nil _
  rw [scan, List.append_assoc, List.drop_left, htake, List.length_append]

end HTTPClient

namespace URL

theorem nul_notMem_portText (port : Option (BitVec 16)) : 0 ∉ portText port := by
  cases port with
  | none => exact List.not_mem_nil
  | some port =>
    refine List.not_mem_cons_of_ne_of_not_mem (by decide) ?_
    exact nul_notMem_ascii fun d hd => Digits.lt_of_mem_natural (by decide) hd

theorem nul_notMem_bytes (u : URL) : 0 ∉ u.bytes := by
  simp only [bytes, List.mem_append, not_or]
  exact ⟨⟨⟨by decide, fun h => (u.bare 0 h).2.2 rfl⟩, nul_notMem_portText u.port⟩, u.path_nul⟩

theorem slash_notMem_decimal (port : BitVec 16) : 47 ∉ decimal port := by
  intro h
  obtain ⟨d, hd, heq⟩ := List.mem_map.1 h
  have hdigit := digit?_ascii (Digits.lt_of_mem_natural (by decide) hd)
  rw [heq] at hdigit
  cases hdigit

theorem length_decimal_le (port : BitVec 16) : (decimal port).length ≤ 5 := by
  have hlog : Nat.log 10 port.toNat < 5 :=
    Nat.log_lt_of_lt_pow' (by decide) (port.isLt.trans (by decide))
  rw [decimal, List.length_map, Digits.length_natural (by decide)]
  omega

theorem atol_decimal {w : ℕ} (hw : 32 ≤ w) (port : BitVec 16) :
    (atol w (decimal port)).setWidth 16 = port := by
  have hlt := port.isLt
  have hpow : 2 ^ 31 ≤ 2 ^ (w - 1) := Nat.pow_le_pow_right (by decide) (by omega)
  refine BitVec.eq_of_toNat_eq ?_
  rw [BitVec.toNat_setWidth, decimal, atol_ascii (by omega) (Digits.natural_ne_nil _ _)
    (fun d hd => Digits.lt_of_mem_natural (by decide) hd), Digits.value_natural]
  omega

/-- What stands behind the host. -/
def tail (u : URL) : List Byte := portText u.port ++ u.path

theorem bytes_eq (u : URL) : u.bytes = str "http://" ++ u.host ++ u.tail := List.append_assoc _ _ _

variable {u : URL}

theorem tail_of_none (h : u.port = none) : u.tail = u.path := by
  rw [tail, h]
  rfl

theorem tail_of_some {p : BitVec 16} (h : u.port = some p) :
    u.tail = [58] ++ decimal p ++ u.path := by
  rw [tail, h]
  rfl

theorem head?_path {c : Byte} (h : u.path.head? = some c) : c = 47 := by
  rcases u.slash with hnil | hslash
  · rw [hnil] at h
    cases h
  · exact Option.some.inj (h.symm.trans hslash)

theorem head?_tail {c : Byte} (h : u.tail.head? = some c) : c = 47 ∨ c = 58 := by
  cases hport : u.port with
  | none =>
    rw [tail_of_none hport] at h
    exact .inl (head?_path h)
  | some p =>
    rw [tail_of_some hport] at h
    exact .inr (Option.some.inj h).symm

end URL

/-! ### The parts of a URL -/

namespace HTTPClient

variable {w : ℕ} {u : URL}

theorem scan_host (u : URL) :
    scan (fun c => c = 47 || c = 58) u.bytes 7 = 7 + u.host.length := by
  rw [u.bytes_eq]
  refine (scan_append (str "http://") (fun c hc => ?_) fun c hc => ?_).trans List.length_append
  · rw [decide_eq_false (u.bare c hc).1, decide_eq_false (u.bare c hc).2.1]
    rfl
  · rcases URL.head?_tail hc with rfl | rfl <;> rfl

theorem read_host (u : URL) : Buffer.read u.bytes 7 u.host.length = u.host := by
  rw [u.bytes_eq, List.append_assoc, Buffer.read,
    show (str "http://" ++ (u.host ++ u.tail)).drop 7 = u.host ++ u.tail from List.drop_left' rfl,
    List.take_left]

theorem getD_host (u : URL) : u.bytes.getD (7 + u.host.length) 0 = u.tail.headD 0 := by
  have hlen : (str "http://" ++ u.host).length = 7 + u.host.length := List.length_append
  rw [u.bytes_eq, List.getD_append_right _ _ _ _ hlen.le, hlen, Nat.sub_self]
  cases u.tail <;> rfl

theorem bytes_of_some {p : BitVec 16} (h : u.port = some p) :
    u.bytes = (str "http://" ++ u.host ++ [58]) ++ URL.decimal p ++ u.path ∧
      (str "http://" ++ u.host ++ [58]).length = 7 + u.host.length + 1 := by
  constructor
  · rw [u.bytes_eq, URL.tail_of_some h]
    simp only [List.append_assoc]
  · rw [List.length_append, List.length_append]
    rfl

theorem scan_port {p : BitVec 16} (h : u.port = some p) :
    scan (fun c => c = 47) u.bytes (7 + u.host.length + 1) =
      7 + u.host.length + 1 + (URL.decimal p).length := by
  obtain ⟨hbytes, hlen⟩ := bytes_of_some h
  rw [hbytes, ← hlen]
  refine (scan_append _ (fun c hc => ?_) fun c hc => ?_).trans List.length_append
  · exact decide_eq_false (ne_of_mem_of_not_mem hc (URL.slash_notMem_decimal p))
  · exact decide_eq_true (URL.head?_path hc)

theorem read_port {p : BitVec 16} (h : u.port = some p) :
    Buffer.read u.bytes (7 + u.host.length + 1) (URL.decimal p).length = URL.decimal p := by
  obtain ⟨hbytes, hlen⟩ := bytes_of_some h
  rw [hbytes, ← hlen, List.append_assoc, Buffer.read, List.drop_left, List.take_left]

/-- `hostFromURL` on a text that is `u` as a C string. -/
theorem hostFromURL_eq (hw : 32 ≤ w) {url : List Byte} (h : cstr url = u.bytes)
    (hostname : List Byte) (port : BitVec 16) :
    hostFromURL w url hostname port =
      ⟨7 + u.host.length + (URL.portText u.port).length,
        u.host ++ 0 :: hostname.drop (u.host.length + 1), u.port.getD port⟩ := by
  have hoffset : u.bytes.take 7 = str "http://" := by
    rw [u.bytes_eq, List.append_assoc]
    exact List.take_left' rfl
  rw [hostFromURL, h]
  dsimp only
  rw [if_pos hoffset, scan_host, Nat.add_sub_cancel_left, read_host, Buffer.write_write_singleton,
    getD_host]
  cases hport : u.port with
  | none =>
    have hnone : ¬ u.tail.headD 0 = 58 := by
      rw [URL.tail_of_none hport]
      cases hpath : u.path with
      | nil => decide
      | cons c path =>
        rw [List.headD_cons, URL.head?_path (c := c) (by rw [hpath]; rfl)]
        decide
    rw [if_neg hnone]
    rfl
  | some p =>
    have hfits := URL.length_decimal_le p
    rw [if_pos (by rw [URL.tail_of_some hport]; rfl), scan_port hport, Nat.add_sub_cancel_left,
      if_pos (by omega), read_port hport, URL.atol_decimal hw, URL.portText, List.length_cons,
      Nat.add_right_comm]
    rfl

/-- The host with a NUL in the first of the 100 bytes, the port if there is one, and the offset of
the path. -/
theorem hostFromURL_bytes (hw : 32 ≤ w) (u : URL) {hostname : List Byte}
    (hroom : hostname.length = 100) (port : BitVec 16) :
    let r := hostFromURL w u.bytes hostname port
    r.hostname = Buffer.write hostname 0 (u.host ++ [0]) ∧ u.host.length + 1 ≤ 100 ∧
      r.hostname.length = 100 ∧ r.port = u.port.getD port ∧ u.bytes.drop r.offset = u.path := by
  intro r
  have hr : r = _ := hostFromURL_eq hw (cstr_of_notMem u.nul_notMem_bytes) hostname port
  have hfits := u.fits
  have hhost : u.host ++ 0 :: hostname.drop (u.host.length + 1) =
      Buffer.write hostname 0 (u.host ++ [0]) := by
    rw [Buffer.write, List.take_zero, List.nil_append, Nat.zero_add, List.length_append,
      List.length_singleton, List.append_assoc]
    rfl
  have hlen : (u.host ++ [0]).length = u.host.length + 1 := List.length_append
  rw [hr, hhost]
  refine ⟨rfl, by omega, ?_, rfl, ?_⟩
  · rw [Buffer.length_write (by omega), hroom]
  · refine List.drop_left' ?_
    rw [List.length_append, List.length_append]
    rfl

theorem hostFromURL_bytes_port :
    let u : URL := ⟨str "192.0.2.20", some 8080, str "/a:b/alive.php", by decide, by decide,
      by decide, by decide, by decide⟩
    let r := hostFromURL 32 u.bytes (List.replicate 100 0) 80
    u.bytes = str "http://192.0.2.20:8080/a:b/alive.php" ∧ cstr r.hostname = str "192.0.2.20" ∧
      r.port = 8080 ∧ u.bytes.drop r.offset = str "/a:b/alive.php" := by
  intro u r
  have hroom : (List.replicate 100 0 : List Byte).length = 100 := List.length_replicate
  obtain ⟨hhost, -, -, hport, hpath⟩ := hostFromURL_bytes (w := 32) le_rfl u hroom 80
  refine ⟨by decide, ?_, hport, hpath⟩
  rw [show r.hostname = _ from hhost]
  decide

end HTTPClient
end Terremoti
