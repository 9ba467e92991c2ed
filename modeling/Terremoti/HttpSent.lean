import Terremoti.HttpRequest
import Terremoti.Lib.Message

/-!
# What a server reads of a request (`HTTPClient.cpp`, `Tcp.cpp`)

The texts `httpRequest` and `httpPostFile` write to the socket are a request of HTTP/1.1, as long as
the start line has room in `linebuf` and the body goes into one `write`: they are read back as the
method, the page of the URL, its host and the body (`parse_request_iff`, `parse_postFile_iff`). A
`GET` never is: no empty line is sent after its fields.
-/

namespace Terremoti

/-- `Utils::toString(int)`. -/
def Utils.toString (d : BitVec 32) : List Byte :=
  if d.msb then 45 :: (Digits.natural 10 (-d).toNat).map ascii
  else (Digits.natural 10 d.toNat).map ascii

/-- What `httpPostFile` sends to the server. -/
def HTTPClient.postFile (w : ℕ) (url file : List Byte) : List (List Byte) :=
  let r := hostFromURL w url (List.replicate 100 0) 80
  let path := (cstr url).drop r.offset
  let serverName := cstr r.hostname
  [Tcp.println (snprintf 1024 (str "POST " ++ path ++ str " HTTP/1.1")),
    Tcp.println (snprintf 1024 (if r.port ≠ 80 then
      str "Host: " ++ serverName ++ str ":" ++ URL.decimal r.port else str "Host: " ++ serverName)),
    Tcp.println (str "Content-Type: application/octet-stream"),
    Tcp.println (str "Connection: close"),
    Tcp.println (str "Content-Length: " ++ Utils.toString (BitVec.ofNat 32 file.length)),
    Tcp.println [], Tcp.send file]

/-! ### What is to be read -/

/-- The URL has no characters that end a line or a word of it. -/
structure URL.Legible (u : URL) : Prop where
  host : 13 ∉ u.host ∧ u.host.head? ≠ some 32
  path : 32 ∉ u.path ∧ 13 ∉ u.path

/-- The host, with its port if this is not the usual one. -/
def URL.hostPort (u : URL) : List Byte :=
  if u.port.getD 80 ≠ 80 then u.host ++ str ":" ++ decimal (u.port.getD 80) else u.host

namespace HTTPClient
open Message

def contentLength (n : ℕ) : List Byte × List Byte :=
  (str "Content-Length", (Digits.natural 10 n).map ascii)

/-- The request of `httpRequest`; with a `GET` no values are sent. -/
def requestTo (method : HTTPMethod) (u : URL) (postValues : Params) : Request where
  method := method.text
  target := u.path
  fields := [(str "Host", u.hostPort), (str "Connection", str "close")] ++
    match method with
    | .HTTP_GET => []
    | .HTTP_POST =>
      (if postValues.isEmpty then [] else
        [(str "Content-Type", str "application/x-www-form-urlencoded")]) ++
      [contentLength (Pairs.text 38 61 postValues.toList).length]
  body := match method with
    | .HTTP_GET => []
    | .HTTP_POST => Pairs.text 38 61 postValues.toList

def fileTo (u : URL) (file : List Byte) : Request where
  method := str "POST"
  target := u.path
  fields := [(str "Host", u.hostPort), (str "Content-Type", str "application/octet-stream"),
    (str "Connection", str "close"), contentLength file.length]
  body := file

variable {w : ℕ} {u : URL}

/-! ### The lines -/

theorem println_eq {l : List Byte} (h : 0 ∉ l) : Tcp.println l = crlf l :=
  congrArg (· ++ [13, 10]) (cstr_of_notMem h)

theorem notMem_toString {c : Byte} (hdigit : digit? c = none) (hminus : c ≠ 45) (d : BitVec 32) :
    c ∉ Utils.toString d := by
  have hds : ∀ n, ∀ d ∈ Digits.natural 10 n, d < 10 := fun n d hd =>
    Digits.lt_of_mem_natural (by decide) hd
  unfold Utils.toString
  split
  · exact List.not_mem_cons_of_ne_of_not_mem hminus (notMem_ascii (hds _) hdigit)
  · exact notMem_ascii (hds _) hdigit

theorem isField {name value : List Byte} (hname : 58 ∉ name ∧ 13 ∉ name) (hvalue : 13 ∉ value)
    (hblank : value.head? ≠ some 32) : IsField (name, value) :=
  ⟨hname.1, ⟨hname.2, hvalue⟩, hblank⟩

theorem isField_host (hu : u.Legible) : IsField (str "Host", u.hostPort) := by
  have hdecimal : 13 ∉ URL.decimal (u.port.getD 80) :=
    notMem_ascii (fun d hd => Digits.lt_of_mem_natural (by decide) hd) rfl
  refine isField (by decide) ?_ ?_
  · unfold URL.hostPort
    split
    · simp only [List.mem_append, not_or]
      exact ⟨⟨hu.host.1, by decide⟩, hdecimal⟩
    · exact hu.host.1
  · unfold URL.hostPort
    split
    · rw [List.append_assoc, List.head?_append_of_ne_nil _ u.named]
      exact hu.host.2
    · exact hu.host.2

theorem hostLine_eq (u : URL) :
    (if u.port.getD 80 ≠ 80 then
      str "Host: " ++ u.host ++ str ":" ++ URL.decimal (u.port.getD 80) else
      str "Host: " ++ u.host) = fieldLine (str "Host", u.hostPort) := by
  unfold URL.hostPort
  split
  · simp only [fieldLine, List.append_assoc]
    rfl
  · rfl

theorem nul_notMem_hostPort (u : URL) : 0 ∉ u.hostPort := by
  have hdecimal : 0 ∉ URL.decimal (u.port.getD 80) :=
    nul_notMem_ascii fun d hd => Digits.lt_of_mem_natural (by decide) hd
  have hhost : 0 ∉ u.host := fun h => (u.bare 0 h).2.2 rfl
  unfold URL.hostPort
  split
  · simp only [List.mem_append, not_or]
    exact ⟨⟨hhost, by decide⟩, hdecimal⟩
  · exact hhost

theorem length_hostPort_le (u : URL) : u.hostPort.length ≤ 105 := by
  have hfits := u.fits
  have hdecimal := URL.length_decimal_le (u.port.getD 80)
  unfold URL.hostPort
  split
  · rw [List.length_append, List.length_append]
    show _ + 1 + _ ≤ _
    omega
  · omega

/-- What both functions take from the URL. -/
theorem hostFromURL_sent (hw : 32 ≤ w) (u : URL) :
    let r := hostFromURL w u.bytes (List.replicate 100 0) 80
    (cstr u.bytes).drop r.offset = u.path ∧ cstr r.hostname = u.host ∧ r.port = u.port.getD 80 := by
  intro r
  obtain ⟨hhost, -, -, hport, hpath⟩ :=
    hostFromURL_bytes (w := w) hw u (List.length_replicate (n := 100) (a := 0)) 80
  refine ⟨by rw [cstr_of_notMem u.nul_notMem_bytes, hpath], ?_, hport⟩
  rw [hhost, Buffer.write, List.take_zero, List.nil_append, List.append_assoc]
  exact cstr_append_nul (fun h => (u.bare 0 h).2.2 rfl) _

theorem println_start {method : List Byte} (hmethod : 0 ∉ method) (u : URL) :
    Tcp.println (snprintf 1024 (startLine method u.path)) =
      crlf ((startLine method u.path).take 1023) := by
  refine println_eq fun h => ?_
  have hmem := List.mem_of_mem_take h
  simp only [startLine, List.mem_append] at hmem
  rcases hmem with ((hmem | hmem) | hmem) | hmem
  · exact hmethod hmem
  · exact absurd hmem (by decide)
  · exact u.path_nul hmem
  · exact absurd hmem (by decide)

theorem println_host (u : URL) :
    Tcp.println (snprintf 1024 (fieldLine (str "Host", u.hostPort))) =
      crlf (fieldLine (str "Host", u.hostPort)) := by
  have hlen := length_hostPort_le u
  have hroom : (fieldLine (str "Host", u.hostPort)).length ≤ 1023 := by
    rw [fieldLine, List.length_append]
    show 6 + u.hostPort.length ≤ _
    omega
  rw [snprintf, List.take_of_length_le hroom]
  refine println_eq ?_
  simp only [fieldLine, List.mem_append, not_or]
  exact ⟨⟨by decide, by decide⟩, nul_notMem_hostPort u⟩

theorem println_length (n : ℕ) :
    Tcp.println (str "Content-Length: " ++ (Digits.natural 10 n).map ascii) =
      crlf (fieldLine (contentLength n)) := by
  refine println_eq ?_
  rw [List.mem_append, not_or]
  exact ⟨by decide, nul_notMem_ascii fun d hd => Digits.lt_of_mem_natural (by decide) hd⟩

theorem requestHead_eq (hw : 32 ≤ w) (method : HTTPMethod) (u : URL) :
    requestHead w method u.bytes =
      [crlf ((startLine method.text u.path).take 1023), crlf (fieldLine (str "Host", u.hostPort)),
        crlf (fieldLine (str "Connection", str "close"))] := by
  obtain ⟨hpath, hname, hport⟩ := hostFromURL_sent hw u
  have hmethod : 0 ∉ method.text := by cases method <;> decide
  rw [requestHead, hname, hport, hpath, hostLine_eq, println_host]
  exact congrArg (· :: _) (println_start hmethod u)

/-- The texts of a head. -/
def headTexts (start : List Byte) (fields : List (List Byte × List Byte)) : List (List Byte) :=
  crlf start :: fields.map (fun p => crlf (fieldLine p)) ++ [crlf []]

theorem flatten_headTexts (start : List Byte) (fields : List (List Byte × List Byte)) :
    (headTexts start fields).flatten =
      crlf start ++ fields.flatMap (fun p => crlf (fieldLine p)) ++ crlf [] := by
  rw [headTexts, List.flatten_append, List.flatten_cons, List.flatMap_def, List.flatten_singleton]

/-- Its lines are written whole. -/
theorem written_headTexts {start : List Byte} {fields : List (List Byte × List Byte)}
    (hstart : start.length ≤ 1023) (hfields : ∀ p ∈ fields, (fieldLine p).length ≤ 1023) :
    Tcp.written (headTexts start fields) = (headTexts start fields).flatten := by
  refine Tcp.written_eq_flatten fun l hl => ?_
  have hcrlf : ∀ line : List Byte, line.length ≤ 1023 → (crlf line).length ≤ 0x7ffff000 := by
    intro line hline
    rw [crlf, List.length_append]
    show line.length + 2 ≤ _
    omega
  simp only [headTexts, List.mem_append, List.mem_cons, List.mem_map, List.not_mem_nil,
    or_false] at hl
  rcases hl with (rfl | ⟨p, hp, rfl⟩) | rfl
  · exact hcrlf _ hstart
  · exact hcrlf _ (hfields p hp)
  · exact hcrlf _ (Nat.zero_le _)

theorem length_fieldLine (p : List Byte × List Byte) :
    (fieldLine p).length = p.1.length + 2 + p.2.length := by
  rw [fieldLine, List.length_append, List.length_append]
  rfl

theorem postFile_eq (hw : 32 ≤ w) (u : URL) (file : List Byte) :
    postFile w u.bytes file = headTexts ((startLine (str "POST") u.path).take 1023)
      [(str "Host", u.hostPort), (str "Content-Type", str "application/octet-stream"),
        (str "Connection", str "close"),
        (str "Content-Length", Utils.toString (BitVec.ofNat 32 file.length))] ++ [file] := by
  obtain ⟨hpath, hname, hport⟩ := hostFromURL_sent hw u
  have hlength : Tcp.println (str "Content-Length: " ++
      Utils.toString (BitVec.ofNat 32 file.length)) =
      crlf (fieldLine (str "Content-Length", Utils.toString (BitVec.ofNat 32 file.length))) := by
    refine println_eq ?_
    rw [List.mem_append, not_or]
    exact ⟨by decide, notMem_toString rfl (by decide) _⟩
  have hstart : Tcp.println (snprintf 1024 (str "POST " ++ u.path ++ str " HTTP/1.1")) =
      crlf ((startLine (str "POST") u.path).take 1023) :=
    println_start (show 0 ∉ str "POST" by decide) u
  rw [postFile, hname, hport, hpath, hostLine_eq, println_host, hlength, hstart]
  rfl

/-! ### What is read -/

/-- The page has room in `linebuf`. -/
def Fits (u : URL) : Prop := u.path ≠ [] ∧ u.path.length ≤ 1009

instance (u : URL) : Decidable (Fits u) := inferInstanceAs (Decidable (_ ∧ _))

/-- Also when it is cut off, the start line is a line. -/
theorem startLine_take {method : List Byte} (hmethod : 13 ∉ method) (hu : u.Legible) :
    (startLine method u.path).take 1023 ≠ [] ∧ 13 ∉ (startLine method u.path).take 1023 := by
  constructor
  · intro hnil
    have htake := congrArg List.length hnil
    rw [List.length_take, startLine, List.length_append, List.length_append, List.length_append]
      at htake
    change min 1023 (method.length + 1 + u.path.length + 9) = 0 at htake
    omega
  · intro h
    have hmem := List.mem_of_mem_take h
    simp only [startLine, List.mem_append] at hmem
    rcases hmem with ((hmem | hmem) | hmem) | hmem
    · exact hmethod hmem
    · exact absurd hmem (by decide)
    · exact hu.path.2 hmem
    · exact absurd hmem (by decide)

theorem parse_sent (hu : u.Legible) {fields : List (List Byte × List Byte)}
    (h : ∀ p ∈ fields, IsField p) (s : List Byte) :
    parse (crlf ((startLine (str "POST") u.path).take 1023) ++
      fields.flatMap (fun p => crlf (fieldLine p)) ++ crlf [] ++ s) =
      if Fits u then (length? fields).bind fun n =>
        if n ≤ s.length then some (⟨str "POST", u.path, fields, s.take n⟩, s.drop n) else none
      else none := by
  have hlen : (startLine (str "POST") u.path).length = u.path.length + 14 := by
    rw [startLine, List.length_append, List.length_append, List.length_append]
    show 4 + 1 + u.path.length + 9 = _
    omega
  rw [parse_lines (startLine_take (by decide) hu) h]
  by_cases hroom : u.path.length ≤ 1009
  · rw [List.take_of_length_le (by omega), start?_startLine (by decide) hu.path.1]
    by_cases hpath : u.path = []
    · rw [if_neg (not_not.2 hpath), if_neg fun h => h.1 hpath]
      rfl
    · rw [if_pos hpath, if_pos ⟨hpath, hroom⟩]
      rfl
  · rw [start?_take (by decide) hu.path.1 (by omega), if_neg fun h => hroom h.2]
    rfl

/-- What is read of a head and the texts behind it. -/
theorem parse_texts (hu : u.Legible) {fields : List (List Byte × List Byte)}
    (h : ∀ p ∈ fields, IsField p ∧ (fieldLine p).length ≤ 1023) (texts : List (List Byte))
    (rest : List Byte) :
    parse (Tcp.written (headTexts ((startLine (str "POST") u.path).take 1023) fields ++ texts) ++
      rest) =
      if Fits u then (length? fields).bind fun n =>
        if n ≤ (Tcp.written texts ++ rest).length then
          some (⟨str "POST", u.path, fields, (Tcp.written texts ++ rest).take n⟩,
            (Tcp.written texts ++ rest).drop n) else none
      else none := by
  have hstart : ((startLine (str "POST") u.path).take 1023).length ≤ 1023 :=
    List.length_take_le _ _
  rw [Tcp.written_append, written_headTexts hstart fun p hp => (h p hp).2, flatten_headTexts,
    List.append_assoc _ _ rest, parse_sent hu fun p hp => (h p hp).1]

theorem isField_contentLength (n : ℕ) : IsField (contentLength n) := by
  have hds : ∀ d ∈ Digits.natural 10 n, d < 10 := fun d hd => Digits.lt_of_mem_natural (by decide) hd
  refine isField (by decide) (notMem_ascii hds rfl) fun h => ?_
  exact notMem_ascii hds (c := 32) rfl (List.mem_of_head? h)

theorem decimal?_contentLength (n : ℕ) : decimal? (contentLength n).2 = some n := by
  have hds : ∀ d ∈ Digits.natural 10 n, d < 10 := fun d hd => Digits.lt_of_mem_natural (by decide) hd
  have htext : (contentLength n).2 = (Digits.natural 10 n).map fun d => BitVec.ofNat 8 (48 + d) :=
    List.map_congr_left fun d hd => by rw [ascii, if_pos (hds d hd)]
  rw [htext, decimal?_digits (Digits.natural_ne_nil _ _) hds, Digits.value_natural]

variable {postValues : Params}

/-- The texts of a `POST`: the head, and the body if there is one. -/
theorem request_post (hw : 32 ≤ w) (u : URL) (h : Postable postValues) :
    ∃ texts, request w .HTTP_POST u.bytes postValues =
        some (headTexts ((startLine (str "POST") u.path).take 1023)
          (requestTo .HTTP_POST u postValues).fields ++ texts) ∧
      (texts = [] ∧ (requestTo .HTTP_POST u postValues).body = [] ∨
        texts = [(requestTo .HTTP_POST u postValues).body]) := by
  rw [request, requestHead_eq hw]
  cases hempty : postValues.isEmpty with
  | true =>
    have hlist : postValues.toList = [] := by
      rw [← List.isEmpty_iff, Std.TreeMap.isEmpty_toList, hempty]
    have hzero : Tcp.println (str "Content-Length: 0") = crlf (fieldLine (contentLength 0)) :=
      println_length 0
    refine ⟨[], ?_, .inl ⟨rfl, ?_⟩⟩
    · rw [if_pos ⟨rfl, rfl⟩, requestTo, hempty, hlist, hzero]
      rfl
    · rw [requestTo, hlist]
      rfl
  | false =>
    have hlist : postValues.toList ≠ [] := by
      rw [← List.isEmpty_eq_false_iff, Std.TreeMap.isEmpty_toList, hempty]
    have hnul : (0 : Byte) ∉ Pairs.text 38 61 postValues.toList :=
      Pairs.notMem_text (by decide) (by decide) fun p hp => ⟨(h.key p hp).2.2, (h.value p hp).2⟩
    refine ⟨_, ?_, .inr rfl⟩
    rw [if_neg (by simp), if_pos ⟨rfl, rfl⟩, postBody_eq hlist h, Option.map_some, requestTo, hempty]
    dsimp only
    rw [println_length, Tcp.print, Tcp.send, cstr_of_notMem hnul]
    rfl

theorem length?_contentLength {fields : List (List Byte × List Byte)}
    (h : ∀ p ∈ fields, p.1 ≠ str "Content-Length") (n : ℕ) :
    length? (fields ++ [contentLength n]) = some n := by
  have hlookup : (fields ++ [contentLength n]).lookup (octets "Content-Length") =
      some (contentLength n).2 := by
    rw [List.lookup_append, List.lookup_eq_none_iff.2 fun p hp => ?_]
    · rfl
    · exact bne_iff_ne.2 (h p hp).symm
  rw [length?, hlookup]
  exact decimal?_contentLength n

theorem requestTo_fields (postValues : Params) (hu : u.Legible) :
    (∀ p ∈ (requestTo .HTTP_POST u postValues).fields, IsField p) ∧
      length? (requestTo .HTTP_POST u postValues).fields =
        some (requestTo .HTTP_POST u postValues).body.length := by
  constructor
  · simp only [requestTo, List.forall_mem_append, List.forall_mem_cons]
    refine ⟨⟨isField_host hu, isField (by decide) (by decide) (by decide), ?_⟩, ?_,
      isField_contentLength _, List.forall_mem_nil _⟩
    · exact List.forall_mem_nil _
    · split
      · exact List.forall_mem_nil _
      · exact List.forall_mem_singleton.2 (isField (by decide) (by decide) (by decide))
  · rw [requestTo, ← List.append_assoc]
    refine length?_contentLength ?_ _
    simp only [List.forall_mem_append, List.forall_mem_cons]
    refine ⟨⟨by decide, by decide, List.forall_mem_nil _⟩, ?_⟩
    split
    · exact List.forall_mem_nil _
    · exact List.forall_mem_singleton.2 (by decide)

/-- They are short, the body being that of a `size_t`. -/
theorem length_requestTo_fields (u : URL)
    (hsize : (requestTo .HTTP_POST u postValues).body.length < 2 ^ 64) :
    ∀ p ∈ (requestTo .HTTP_POST u postValues).fields, (fieldLine p).length ≤ 1023 := by
  have hhost := length_hostPort_le u
  have hdigits : (contentLength (requestTo .HTTP_POST u postValues).body.length).2.length ≤ 20 := by
    have hlog : Nat.log 10 (requestTo .HTTP_POST u postValues).body.length < 20 :=
      Nat.log_lt_of_lt_pow' (by decide) (hsize.trans (by decide))
    rw [contentLength, List.length_map, Digits.length_natural (by decide)]
    omega
  have hline : ∀ p : List Byte × List Byte, p.1.length ≤ 20 → p.2.length ≤ 200 →
      (fieldLine p).length ≤ 1023 := by
    intro p hname hvalue
    rw [length_fieldLine]
    omega
  simp only [requestTo, List.forall_mem_append, List.forall_mem_cons]
  have hostName : (str "Host").length ≤ 20 := by decide
  have lengthName : (str "Content-Length").length ≤ 20 := by decide
  refine ⟨⟨hline _ hostName (show u.hostPort.length ≤ 200 by omega),
    hline _ (by decide) (by decide), List.forall_mem_nil _⟩, ?_,
    hline _ lengthName (hdigits.trans (by decide)), List.forall_mem_nil _⟩
  split
  · exact List.forall_mem_nil _
  · exact List.forall_mem_singleton.2 (hline _ (by decide) (by decide))

/-- A `GET` has no empty line behind its fields. -/
theorem parse_requestHead (hw : 32 ≤ w) (hu : u.Legible) :
    parse (Tcp.written (requestHead w .HTTP_GET u.bytes)) = none := by
  have hlines : ∀ l ∈ [(startLine (str "GET") u.path).take 1023,
      fieldLine (str "Host", u.hostPort), fieldLine (str "Connection", str "close")],
      l ≠ [] ∧ (13 : Byte) ∉ l := by
    refine List.forall_mem_cons.2 ⟨startLine_take (by decide) hu, ?_⟩
    refine List.forall_mem_cons.2 ⟨⟨List.cons_ne_nil _ _, ?_⟩, by decide⟩
    rw [fieldLine, List.mem_append, not_or]
    exact ⟨show 13 ∉ str "Host" ++ octets ": " by decide, (isField_host hu).cr.2⟩
  have hhead := cutHead_eq_none hlines
  have hshort : Tcp.written (requestHead w .HTTP_GET u.bytes) =
      (requestHead w .HTTP_GET u.bytes).flatten := by
    have hhost := length_hostPort_le u
    have hstart : ((startLine (str "GET") u.path).take 1023).length ≤ 1023 :=
      List.length_take_le _ _
    refine Tcp.written_eq_flatten ?_
    rw [requestHead_eq hw]
    simp only [List.forall_mem_cons, crlf, List.length_append, length_fieldLine]
    exact ⟨by simp only [HTTPMethod.text, List.length_cons, List.length_nil]; omega,
      by simp only [List.length_cons, List.length_nil]; change 4 + 2 + _ + 2 ≤ _; omega,
      by decide, List.forall_mem_nil _⟩
  rw [hshort, requestHead_eq hw, parse]
  exact hhead ▸ rfl

/-- What the server makes of the texts of a `POST`: the length goes by the whole body, of which one
`write` may have taken a part. -/
theorem parse_request_post (hw : 32 ≤ w) (hu : u.Legible) (h : Postable postValues)
    (hsize : (Pairs.text 38 61 postValues.toList).length < 2 ^ 64) :
    let body := Pairs.text 38 61 postValues.toList
    ∃ sent, request w .HTTP_POST u.bytes postValues = some sent ∧
      ∀ rest, parse (Tcp.written sent ++ rest) =
        let received := body.take 0x7ffff000 ++ rest
        if Fits u then
          if body.length ≤ received.length then
            some ({ requestTo .HTTP_POST u postValues with body := received.take body.length },
              received.drop body.length)
          else none
        else none := by
  intro body
  obtain ⟨hfields, hlength⟩ := requestTo_fields postValues hu
  have hshort := length_requestTo_fields u hsize
  obtain ⟨texts, hsent, htexts⟩ := request_post hw u h
  have hwritten : Tcp.written texts = body.take 0x7ffff000 := by
    rcases htexts with ⟨rfl, hnil⟩ | rfl
    · have hbody : body = [] := hnil
      rw [hbody]
      rfl
    · exact List.append_nil _
  refine ⟨_, hsent, fun rest => ?_⟩
  rw [parse_texts hu (fun p hp => ⟨hfields p hp, hshort p hp⟩) texts rest, hlength, hwritten]
  rfl

/-- The values posted to the page, if this has room and the body goes into one `write`. -/
theorem parse_request_whole (hw : 32 ≤ w) (hu : u.Legible) (h : Postable postValues)
    (hfits : Fits u) (hwhole : (Pairs.text 38 61 postValues.toList).length ≤ 0x7ffff000) :
    ∃ sent, request w .HTTP_POST u.bytes postValues = some sent ∧
      ∀ rest, parse (Tcp.written sent ++ rest) =
        some (requestTo .HTTP_POST u postValues, rest) := by
  obtain ⟨sent, hsent, hread⟩ := parse_request_post hw hu h (hwhole.trans_lt (by decide))
  refine ⟨sent, hsent, fun rest => ?_⟩
  have hbody : (requestTo .HTTP_POST u postValues).body =
      Pairs.text 38 61 postValues.toList := rfl
  have hle : (requestTo .HTTP_POST u postValues).body.length ≤
      ((requestTo .HTTP_POST u postValues).body ++ rest).length := by simp
  rw [hread, if_pos hfits, List.take_of_length_le hwhole, ← hbody]
  dsimp only
  rw [if_pos hle, List.take_left, List.drop_left]

/-- What reaches the socket of `httpRequest` is read as its request exactly when it is a `POST`, the
URL has a page, this has room, and the body goes into one `write`. -/
theorem parse_request_iff (hw : 32 ≤ w) (hu : u.Legible) (h : Postable postValues)
    (hsize : (Pairs.text 38 61 postValues.toList).length < 2 ^ 64) (method : HTTPMethod) :
    (∃ sent, request w method u.bytes postValues = some sent ∧
      ∀ rest, parse (Tcp.written sent ++ rest) = some (requestTo method u postValues, rest)) ↔
      method = .HTTP_POST ∧ Fits u ∧
        (Pairs.text 38 61 postValues.toList).length ≤ 0x7ffff000 := by
  cases method with
  | HTTP_GET =>
    refine iff_of_false ?_ fun h => HTTPMethod.noConfusion h.1
    rintro ⟨sent, hsent, hparse⟩
    obtain rfl : requestHead w .HTTP_GET u.bytes = sent := Option.some.inj hsent
    have hnone := hparse []
    rw [List.append_nil, parse_requestHead hw hu] at hnone
    cases hnone
  | HTTP_POST =>
    obtain ⟨sent, hsent, hread⟩ := parse_request_post hw hu h hsize
    constructor
    · rintro ⟨sent', hsent', hparse⟩
      obtain rfl := Option.some.inj (hsent.symm.trans hsent')
      have hnil := (hparse []).symm.trans (hread [])
      dsimp only at hnil
      split_ifs at hnil with hfits hlen
      refine ⟨rfl, hfits, ?_⟩
      rw [List.append_nil, List.length_take] at hlen
      exact hlen.trans (Nat.min_le_left _ _)
    · rintro ⟨-, hfits, hwhole⟩
      exact parse_request_whole hw hu h hfits hwhole

theorem fits_alertHost : (str "192.0.2.20").length ≤ 99 := by decide

theorem bare_alertHost : ∀ c ∈ str "192.0.2.20", c ≠ 47 ∧ c ≠ 58 ∧ c ≠ 0 := by decide

theorem nul_notMem_alertPath : 0 ∉ str "/seismocloud/terremoto.php" := by decide

/-- The page of the alerts on a server with a port of its own. -/
def alertPage : URL where
  host := str "192.0.2.20"
  port := some 8080
  path := str "/seismocloud/terremoto.php"
  named := List.cons_ne_nil _ _
  fits := fits_alertHost
  bare := bare_alertHost
  slash := .inr rfl
  path_nul := nul_notMem_alertPath

theorem legible_alertPage : alertPage.Legible := ⟨by decide, by decide⟩

theorem parse_request_iff_alert :
    let postValues : Params := (∅ : Params).insert (str "deviceid") (str "020406080a0c")
    ∃ sent, request 32 .HTTP_POST alertPage.bytes postValues = some sent ∧
      ∀ rest, parse (Tcp.written sent ++ rest) =
        some (requestTo .HTTP_POST alertPage postValues, rest) := by
  intro postValues
  have hvalues : Postable postValues := ⟨by decide, by decide⟩
  exact (parse_request_iff le_rfl legible_alertPage hvalues (by decide) .HTTP_POST).2
    ⟨rfl, by decide, by decide⟩

theorem length_toString_le (d : BitVec 32) : (Utils.toString d).length ≤ 11 := by
  have hdigits : ∀ d : BitVec 32, (Digits.natural 10 d.toNat).length ≤ 10 := by
    intro d
    have hlog : Nat.log 10 d.toNat < 10 :=
      Nat.log_lt_of_lt_pow' (by decide) (d.isLt.trans (by decide))
    rw [Digits.length_natural (by decide)]
    omega
  unfold Utils.toString
  split
  · rw [List.length_cons, List.length_map]
    exact Nat.succ_le_succ (hdigits _)
  · rw [List.length_map]
    exact (hdigits _).trans (Nat.le_succ _)

/-- What reaches the socket of `httpPostFile` is read as fields with the length it announces, and as
much of the file as this says. -/
theorem parse_postFile (hw : 32 ≤ w) (hu : u.Legible) (file rest : List Byte) :
    let fields := [(str "Host", u.hostPort), (str "Content-Type", str "application/octet-stream"),
      (str "Connection", str "close"),
      (str "Content-Length", Utils.toString (BitVec.ofNat 32 file.length))]
    parse (Tcp.written (postFile w u.bytes file) ++ rest) =
      if Fits u then (length? fields).bind fun n =>
        if n ≤ (file.take 0x7ffff000 ++ rest).length then
          some (⟨str "POST", u.path, fields, (file.take 0x7ffff000 ++ rest).take n⟩,
            (file.take 0x7ffff000 ++ rest).drop n) else none
      else none := by
  intro fields
  have hhost := length_hostPort_le u
  have hlength := length_toString_le (BitVec.ofNat 32 file.length)
  have hfields : ∀ p ∈ fields, IsField p ∧ (fieldLine p).length ≤ 1023 := by
    simp only [fields, List.forall_mem_cons, length_fieldLine]
    refine ⟨⟨isField_host hu, ?_⟩, ⟨isField (by decide) (by decide) (by decide), by decide⟩,
      ⟨isField (by decide) (by decide) (by decide), by decide⟩,
      ⟨isField (by decide) (notMem_toString rfl (by decide) _) (fun h =>
        notMem_toString (c := 32) rfl (by decide) _ (List.mem_of_head? h)), ?_⟩,
      List.forall_mem_nil _⟩
    · change 4 + 2 + _ ≤ _
      omega
    · change 14 + 2 + _ ≤ _
      omega
  have hfile : Tcp.written [file] = file.take 0x7ffff000 := List.append_nil _
  rw [postFile_eq hw, parse_texts hu hfields, hfile]

/-- All of it, if it goes into one `write`. -/
theorem parse_postFile_whole (hw : 32 ≤ w) (hu : u.Legible) (hfits : Fits u) {file : List Byte}
    (hsize : file.length ≤ 0x7ffff000) (rest : List Byte) :
    parse (Tcp.written (postFile w u.bytes file) ++ rest) = some (fileTo u file, rest) := by
  have hint : Utils.toString (BitVec.ofNat 32 file.length) =
      (Digits.natural 10 file.length).map ascii := by
    have hpos : (BitVec.ofNat 32 file.length).msb = false := by
      rw [BitVec.msb_eq_false_iff_two_mul_lt, BitVec.toNat_ofNat]
      omega
    rw [Utils.toString, hpos, if_neg Bool.false_ne_true, BitVec.toNat_ofNat,
      Nat.mod_eq_of_lt (by omega)]
  have hnames : ∀ p ∈ [(str "Host", u.hostPort),
      (str "Content-Type", str "application/octet-stream"),
      (str "Connection", str "close")], p.1 ≠ str "Content-Length" := by
    simp only [List.forall_mem_cons]
    exact ⟨by decide, by decide, by decide, List.forall_mem_nil _⟩
  have hle : file.length ≤ (file ++ rest).length := by simp
  have hlength : length? (fileTo u file).fields = some file.length :=
    length?_contentLength hnames file.length
  have hread := parse_postFile hw hu file rest
  rw [hint, List.take_of_length_le hsize] at hread
  refine hread.trans ((if_pos hfits).trans ?_)
  show (length? (fileTo u file).fields).bind _ = _
  rw [hlength, Option.bind_some, if_pos hle, List.take_left, List.drop_left]
  rfl

/-- What reaches the socket of `httpPostFile` is read as the file posted to the page exactly when the
URL has a page, this has room, and the file goes into one `write`. -/
theorem parse_postFile_iff (hw : 32 ≤ w) (hu : u.Legible) (file : List Byte) :
    (∀ rest, parse (Tcp.written (postFile w u.bytes file) ++ rest) =
      some (fileTo u file, rest)) ↔ Fits u ∧ file.length ≤ 0x7ffff000 := by
  constructor
  · intro h
    have hnil := (h []).symm.trans (parse_postFile hw hu file [])
    split_ifs at hnil with hfits
    obtain ⟨n, -, hn⟩ := Option.bind_eq_some_iff.1 hnil.symm
    split_ifs at hn
    -- the body read is part of what was written
    have hbody : (file.take 0x7ffff000 ++ []).take n = file :=
      congrArg (fun r => r.1.body) (Option.some.inj hn)
    have hlen := congrArg List.length hbody
    rw [List.append_nil, List.length_take, List.length_take] at hlen
    exact ⟨hfits, by omega⟩
  · rintro ⟨hfits, hsize⟩ rest
    exact parse_postFile_whole hw hu hfits hsize rest

/-- A file of no bytes, with the first byte of another request behind it. -/
theorem parse_postFile_iff_empty :
    parse (Tcp.written (postFile 32 alertPage.bytes []) ++ [80]) =
      some (fileTo alertPage [], [80]) :=
  (parse_postFile_iff le_rfl legible_alertPage []).2 ⟨by decide, Nat.zero_le _⟩ [80]

end HTTPClient
end Terremoti
