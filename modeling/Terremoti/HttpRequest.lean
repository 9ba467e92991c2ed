import Terremoti.HostUrl
import Terremoti.Lib.Pairs
import Terremoti.ServerConfig

/-!
# Sending a request (`HTTPClient::httpRequest`, `Tcp.cpp`)

`httpRequest` up to the point where the request is sent: the texts it hands to the socket, in order.
The loop over the values of a `POST` leaves one `&` too many, and `trim` takes off just that one
(`postBody_eq`), so the body is a text of pairs as long as its `Content-Length` says.
-/

namespace Terremoti

namespace Tcp

/-- `Tcp::send`, as what it hands to `write`. -/
def send (buf : List Byte) : List Byte := buf

def print (buf : List Byte) : List Byte := send (cstr buf)

def println (buf : List Byte) : List Byte := send (cstr buf ++ [13, 10])

/-- What reaches the socket of texts written one after the other: a `write` takes no more than this
of one. -/
def written (texts : List (List Byte)) : List Byte := texts.flatMap (·.take 0x7ffff000)

theorem written_append (texts texts' : List (List Byte)) :
    written (texts ++ texts') = written texts ++ written texts' := List.flatMap_append

theorem written_eq_flatten {texts : List (List Byte)} (h : ∀ l ∈ texts, l.length ≤ 0x7ffff000) :
    written texts = texts.flatten := by
  have hmap : texts.map (·.take 0x7ffff000) = texts.map id :=
    List.map_congr_left fun l hl => List.take_of_length_le (h l hl)
  rw [written, List.flatMap_def, hmap, List.map_id]

end Tcp

inductive HTTPMethod
  | HTTP_GET
  | HTTP_POST
  deriving DecidableEq

def HTTPMethod.text : HTTPMethod → List Byte
  | HTTP_GET => str "GET"
  | HTTP_POST => str "POST"

namespace HTTPClient

/-- The body of a `POST` with values; `none` if `trim` throws. The map is gone through in the order
of its keys. -/
def postBody (postValues : Params) : Option (List Byte) :=
  let reqBody := postValues.toList.foldl (fun reqBody i =>
    reqBody ++ i.1 ++ str "=" ++ i.2 ++ str "&") []
  Utils.trim reqBody 38

/-- The lines of every request. -/
def requestHead (w : ℕ) (method : HTTPMethod) (url : List Byte) : List (List Byte) :=
  let r := hostFromURL w url (List.replicate 100 0) 80
  let path := (cstr url).drop r.offset
  let serverName := cstr r.hostname
  [Tcp.println (snprintf 1024 (method.text ++ str " " ++ path ++ str " HTTP/1.1")),
    Tcp.println (snprintf 1024 (if r.port ≠ 80 then
      str "Host: " ++ serverName ++ str ":" ++ URL.decimal r.port else str "Host: " ++ serverName)),
    Tcp.println (str "Connection: close")]

/-- What `httpRequest` sends to the server. A length has at most 20 digits, with room for them in
`linebuf`. -/
def request (w : ℕ) (method : HTTPMethod) (url : List Byte) (postValues : Params) :
    Option (List (List Byte)) :=
  let head := requestHead w method url
  if method = .HTTP_POST ∧ postValues.isEmpty = true then
    some (head ++ [Tcp.println (str "Content-Length: 0"), Tcp.println []])
  else if method = .HTTP_POST ∧ postValues.isEmpty = false then
    (postBody postValues).map fun reqBody =>
      let contentLength := (Digits.natural 10 reqBody.length).map ascii
      head ++ [Tcp.println (str "Content-Type: application/x-www-form-urlencoded"),
        Tcp.println (str "Content-Length: " ++ contentLength), Tcp.println [], Tcp.print reqBody]
  else some head

/-! ### The body -/

/-- Values that can be told apart in a body. -/
structure Postable (postValues : Params) : Prop where
  key : ∀ p ∈ postValues.toList, 38 ∉ p.1 ∧ 61 ∉ p.1 ∧ 0 ∉ p.1
  value : ∀ p ∈ postValues.toList, 38 ∉ p.2 ∧ 0 ∉ p.2

theorem foldl_append_flatMap (ps : List (List Byte × List Byte)) (reqBody : List Byte) :
    ps.foldl (fun reqBody i => reqBody ++ i.1 ++ str "=" ++ i.2 ++ str "&") reqBody =
      reqBody ++ ps.flatMap fun p => Pairs.render 61 p ++ [38] := by
  induction ps generalizing reqBody with
  | nil => exact (List.append_nil _).symm
  | cons p ps ih =>
    rw [List.foldl_cons, ih, List.flatMap_cons, Pairs.render]
    simp only [List.append_assoc, List.cons_append]
    rfl

theorem postBody_eq {postValues : Params} (hne : postValues.toList ≠ []) (h : Postable postValues) :
    postBody postValues = some (Pairs.text 38 61 postValues.toList) := by
  have hends : _ ∧ _ ∧ _ := Pairs.text_ends (show (38 : Byte) ≠ 61 by decide) hne
    (fun p hp => (h.key p hp).1) fun p hp => (h.value p hp).1
  rw [postBody, foldl_append_flatMap, List.nil_append, Pairs.flatMap_eq_text hne]
  exact Utils.trim_append_replicate hends.1 hends.2.1 hends.2.2 1

/-- The body of a `POST` is split at every `&` and then at the first `=` into the values of the map,
in the order of their keys; no `&` stands at either end, and the length announced is that of what is
sent. -/
theorem request_body (w : ℕ) (url : List Byte) {postValues : Params}
    (hne : postValues.isEmpty = false) (h : Postable postValues) :
    ∃ (contentLength : List ℕ) (body : List Byte),
      request w .HTTP_POST url postValues = some (requestHead w .HTTP_POST url ++
        [str "Content-Type: application/x-www-form-urlencoded" ++ [13, 10],
          str "Content-Length: " ++ contentLength.map ascii ++ [13, 10], [13, 10], body]) ∧
      (body.splitOn 38).map (Pairs.parse 61) = postValues.toList.map some ∧
      body.head? ≠ some 38 ∧ body.getLast? ≠ some 38 ∧
      (∀ d ∈ contentLength, d < 10) ∧ Digits.value 10 contentLength = body.length := by
  have hlist : postValues.toList ≠ [] := by
    rw [← List.isEmpty_eq_false_iff, Std.TreeMap.isEmpty_toList, hne]
  let body := Pairs.text 38 61 postValues.toList
  let contentLength := Digits.natural 10 body.length
  have hdigits : ∀ d ∈ contentLength, d < 10 := fun d hd =>
    Digits.lt_of_mem_natural (by decide) hd
  obtain ⟨-, hhead, hlast⟩ := Pairs.text_ends (show (38 : Byte) ≠ 61 by decide) hlist
    (fun p hp => (h.key p hp).1) fun p hp => (h.value p hp).1
  have hnul : (0 : Byte) ∉ body := Pairs.notMem_text (by decide) (by decide) fun p hp =>
    ⟨(h.key p hp).2.2, (h.value p hp).2⟩
  have hlength : (0 : Byte) ∉ str "Content-Length: " ++ contentLength.map ascii := by
    rw [List.mem_append, not_or]
    exact ⟨by decide, nul_notMem_ascii hdigits⟩
  refine ⟨contentLength, body, ?_, ?_, hhead, hlast, hdigits, Digits.value_natural _ _⟩
  · have hline : Tcp.println (str "Content-Length: " ++ contentLength.map ascii) =
        str "Content-Length: " ++ contentLength.map ascii ++ [13, 10] :=
      congrArg (· ++ [13, 10]) (cstr_of_notMem hlength)
    rw [request, if_neg (by simp [hne]), if_pos ⟨rfl, hne⟩, postBody_eq hlist h, Option.map_some]
    dsimp only
    rw [Tcp.print, Tcp.send, cstr_of_notMem hnul, hline]
    rfl
  · exact Pairs.parse_splitOn_text (by decide) hlist (fun p hp => (h.key p hp).2.1)
      (fun p hp => (h.key p hp).1) fun p hp => (h.value p hp).1

theorem request_body_values :
    let postValues : Params := ((∅ : Params).insert (str "lat") (str "41.9")).insert (str "") (str "a=")
    ∃ (contentLength : List ℕ) (body : List Byte),
      request 64 .HTTP_POST (str "http://a/b.php") postValues =
        some (requestHead 64 .HTTP_POST (str "http://a/b.php") ++
          [str "Content-Type: application/x-www-form-urlencoded" ++ [13, 10],
            str "Content-Length: " ++ contentLength.map ascii ++ [13, 10], [13, 10], body]) ∧
      (body.splitOn 38).map (Pairs.parse 61) =
        [some (str "", str "a="), some (str "lat", str "41.9")] := by
  intro postValues
  have hvalues : Postable postValues := ⟨by decide, by decide⟩
  obtain ⟨contentLength, body, hrequest, hbody, -⟩ :=
    request_body 64 (str "http://a/b.php") (show postValues.isEmpty = false from rfl) hvalues
  exact ⟨contentLength, body, hrequest, hbody.trans (by decide)⟩

end HTTPClient
end Terremoti
