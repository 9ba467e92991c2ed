import Terremoti.HostUrl
import Terremoti.ServerConfig

/-!
# The base URL (`HTTPClient::baseUrl`)

A URL with a path that ends in `/` names the same server with any page behind it (`names_of_bytes`).
The base URLs the program starts with are of this form, and `checkServerConfig` sets the base URL
only to `http://`, which is not. So the base URL names a server as long as no accepted reply has
that for its `server` (`baseUrl_names_iff`).
-/

namespace Terremoti

/-- `baseUrl` is the URL `u` of a directory, and with a page behind it `hostFromURL` finds the host
and the port of `u`. -/
structure NamesServer (w : ℕ) (baseUrl : List Byte) (u : URL) : Prop where
  bytes : u.bytes = baseUrl
  directory : u.path.getLast? = some 47
  page : ∀ page : List Byte, 58 ∉ page → ∀ (hostname : List Byte) (port : BitVec 16),
    hostname.length = 100 →
    cstr (HTTPClient.hostFromURL w (baseUrl ++ page) hostname port).hostname = u.host ∧
      (HTTPClient.hostFromURL w (baseUrl ++ page) hostname port).port = u.port.getD port

/-- A URL with a page behind its path. -/
def URL.withPage (u : URL) (hne : u.path ≠ []) (page : List Byte) : URL :=
  { u with
    path := u.path ++ cstr page
    slash := by
      rw [List.head?_append_of_ne_nil _ hne]
      exact .inr (u.slash.resolve_left hne)
    path_nul := by
      rw [List.mem_append, not_or]
      exact ⟨u.path_nul, nul_notMem_cstr page⟩ }

theorem names_of_bytes {w : ℕ} (hw : 32 ≤ w) {baseUrl : List Byte} {u : URL}
    (hbytes : u.bytes = baseUrl) (hdirectory : u.path.getLast? = some 47) :
    NamesServer w baseUrl u := by
  refine ⟨hbytes, hdirectory, fun page _ hostname port hroom => ?_⟩
  have hne : u.path ≠ [] := fun hnil => by
    rw [hnil] at hdirectory
    cases hdirectory
  have hurl : cstr (baseUrl ++ page) = (u.withPage hne page).bytes := by
    rw [← hbytes, cstr_append_of_notMem u.nul_notMem_bytes]
    exact List.append_assoc _ _ _
  have hread : HTTPClient.hostFromURL w (baseUrl ++ page) hostname port = _ :=
    HTTPClient.hostFromURL_eq hw hurl hostname port
  rw [hread]
  exact ⟨cstr_append_nul (fun h => (u.bare 0 h).2.2 rfl) _, rfl⟩

/-- `HTTPClient::baseUrl` at the start; `debugServer` says whether `DEBUG_SERVER` is defined. -/
def HTTPClient.baseUrl (debugServer : Bool) : List Byte :=
  if debugServer then str "http://192.0.2.20/seismocloud/"
  else str "http://www.sapienzaapps.it/seismocloud/"

/-- The parts of that URL. -/
def HTTPClient.baseURL : Bool → URL
  | true => ⟨str "192.0.2.20", none, str "/seismocloud/", by decide, by decide, by decide, by decide,
      by decide⟩
  | false => ⟨str "www.sapienzaapps.it", none, str "/seismocloud/", by decide, by decide, by decide,
      by decide, by decide⟩

theorem names_baseURL {w : ℕ} (hw : 32 ≤ w) (debugServer : Bool) :
    NamesServer w (HTTPClient.baseUrl debugServer) (HTTPClient.baseURL debugServer) := by
  refine names_of_bytes hw ?_ ?_
  · cases debugServer <;> rfl
  · cases debugServer <;> rfl

/-- `http://` names none, nor does a text that is `http://` as a C string. -/
theorem not_names {w : ℕ} {baseUrl : List Byte} (h : cstr baseUrl = str "http://") (u : URL) :
    ¬ NamesServer w baseUrl u := by
  intro hnames
  have hu : cstr baseUrl = u.bytes := by
    rw [← hnames.bytes, cstr_of_notMem u.nul_notMem_bytes]
  have hlen := congrArg List.length (hu.symm.trans h)
  have hhost := List.length_pos_iff.2 u.named
  rw [u.bytes_eq, List.length_append, List.length_append] at hlen
  omega

/-! ### Sequences of replies -/

variable {w : ℕ} {D : Type}

theorem cstr_setBaseURL {server : List Byte} (h : cstr server = str "http://") (d : Device w D) :
    cstr (d.setBaseURL server).baseUrl = str "http://" := by
  rw [Device.setBaseURL]
  by_cases hnul : (0 : Byte) ∈ server
  · obtain ⟨s, t, rfl⟩ := List.append_of_mem hnul
    split
    · exact h
    · rw [List.append_assoc, List.cons_append, cstr_append]
      rwa [cstr_append] at h
  · rw [cstr_of_notMem hnul] at h
    rw [h]
    rfl

variable [Double D] [DoubleText D]

/-- The reply is accepted and its `server` is `http://`. -/
def clearsServer (b : Build) (resp : HTTPResponse) : Bool :=
  accepts b resp && decide (cstr ((replyParams resp).getD (str "server") []) = str "http://")

theorem configured_baseUrl (now : BitVec 32) (params : Params) (d : Device w D) :
    (configured now params d).baseUrl =
      if cstr (params.getD (str "server") []) = str "http://" then
        (d.setBaseURL (params.getD (str "server") [])).baseUrl
      else d.baseUrl := by
  simp only [configured]
  split <;> split <;> split <;> rfl

theorem checkServerConfig_baseUrl (b : Build) (now : BitVec 32) (resp : HTTPResponse)
    (d : Device w D) :
    if clearsServer b resp then cstr (checkServerConfig b now resp d).2.baseUrl = str "http://"
    else (checkServerConfig b now resp d).2.baseUrl = d.baseUrl := by
  cases haccepts : accepts b resp with
  | false =>
    rw [clearsServer, haccepts, Bool.false_and, if_neg Bool.false_ne_true]
    rcases checkServerConfig_of_not_accepts now d haccepts with h | h <;> rw [h]
  | true =>
    rw [checkServerConfig_of_accepts now d haccepts, configured_baseUrl, clearsServer, haccepts,
      Bool.true_and]
    by_cases hserver : cstr ((replyParams resp).getD (str "server") []) = str "http://"
    · rw [if_pos (decide_eq_true hserver), if_pos hserver]
      exact cstr_setBaseURL hserver d
    · rw [if_neg (by simpa using hserver), if_neg hserver]

/-- Started with a base URL of the program, the base URL names a server after every call in a
sequence exactly when no reply that is accepted has `http://` for its `server`. -/
theorem baseUrl_names_iff (hw : 32 ≤ w) (b : Build) (debugServer : Bool) (d : Device w D)
    (replies : List (BitVec 32 × HTTPResponse)) :
    let d := { d with baseUrl := HTTPClient.baseUrl debugServer }
    (∃ u, NamesServer w d.baseUrl u) ∧
      ((∀ s ∈ configRun b d replies, ∃ u, NamesServer w s.after.baseUrl u) ↔
        ∀ s ∈ configRun b d replies, clearsServer b s.resp = false) := by
  intro d
  have hstart : ∃ u, NamesServer w d.baseUrl u := ⟨_, names_baseURL hw debugServer⟩
  refine ⟨hstart, ?_⟩
  generalize d = d at hstart
  induction replies generalizing d with
  | nil => exact iff_of_true (List.forall_mem_nil _) (List.forall_mem_nil _)
  | cons r replies ih =>
    obtain ⟨now, resp⟩ := r
    rw [configRun, List.forall_mem_cons, List.forall_mem_cons]
    have hstep := checkServerConfig_baseUrl b now resp d
    cases hclears : clearsServer b resp with
    | true =>
      rw [hclears, if_pos rfl] at hstep
      refine iff_of_false (fun h => ?_) (fun h => by cases h.1)
      obtain ⟨u, hu⟩ := h.1
      exact not_names hstep u hu
    | false =>
      rw [hclears, if_neg Bool.false_ne_true] at hstep
      have hafter : ∃ u, NamesServer w (checkServerConfig b now resp d).2.baseUrl u := by
        rw [hstep]
        exact hstart
      refine and_congr (iff_of_true hafter rfl) ?_
      -- the base URL is the one of before, so the rest of the run starts like this call
      split
      · exact iff_of_true (List.forall_mem_nil _) (List.forall_mem_nil _)
      · exact ih _ hafter

theorem baseUrl_names_iff_kept :
    let d : Device 32 ℝ := { Device.init with baseUrl := HTTPClient.baseUrl false }
    let replies : List (BitVec 32 × HTTPResponse) :=
      [(0, ⟨.HTTP_OK, 200, some (str "server:http://192.0.2.9/|sigma:4")⟩),
        (0, ⟨.HTTP_OK, 200, some (str "sigma:http://|ntpserver:ntp.example")⟩)]
    (∃ u, NamesServer 32 d.baseUrl u) ∧
      ∀ s ∈ configRun ⟨.raspi, false⟩ d replies, ∃ u, NamesServer 32 s.after.baseUrl u := by
  intro d replies
  obtain ⟨hstart, hiff⟩ := baseUrl_names_iff le_rfl ⟨.raspi, false⟩ false (Device.init : Device 32 ℝ)
    replies
  refine ⟨hstart, hiff.2 fun s hs => ?_⟩
  obtain ⟨r, hr, hresp⟩ := configRun_resp hs
  rw [hresp]
  clear hresp hs
  revert r
  decide

/-- A reply with the value the guard compares with: from then on the page is taken for the host. -/
theorem server_http :
    let resp : HTTPResponse := ⟨.HTTP_OK, 200, some (str "server:http://|ntpserver:ntp.example")⟩
    let d : Device 32 ℝ := { Device.init with baseUrl := HTTPClient.baseUrl false }
    let r := checkServerConfig ⟨.raspi, false⟩ 0 resp d
    r.1 = some true ∧ r.2.baseUrl = str "http://" ∧ (∀ u, ¬ NamesServer 32 r.2.baseUrl u) ∧
      ∀ page ∈ [str "alive.php", str "terremoto.php"],
        cstr (HTTPClient.hostFromURL 32 (r.2.baseUrl ++ page) (List.replicate 100 0) 80).hostname =
          page := by
  intro resp d r
  have haccepts : accepts ⟨.raspi, false⟩ resp = true := by decide
  have hr : r = _ := checkServerConfig_of_accepts 0 d haccepts
  have hbase : r.2.baseUrl = str "http://" := by
    rw [hr, configured_baseUrl, if_pos (by decide), Device.setBaseURL]
    decide
  refine ⟨by rw [hr], hbase, not_names (by rw [hbase]; rfl), ?_⟩
  rw [hbase]
  decide

end Terremoti
