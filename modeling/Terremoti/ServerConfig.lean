import Terremoti.Device

/-!
# The configuration from the server (`Config::checkServerConfig`)

A reply body is a list of `key:value` items (`configSplit`), kept in a `std::map`, here an ordered
`Params`. `checkServerConfig` reads `path`, `server` and `ntpserver` with the map's `operator[]`,
which inserts an empty string under a missing key (`index`), and only `sigma` and `trace` behind
`count()`. So a reply without `ntpserver` clears the NTP server: `namedOnly_iff` for one reply,
`configRun_iff` for a sequence of them.
-/

namespace Terremoti

inductive HTTPError
  | HTTP_OK
  | HTTP_CONNECTION_TIMEOUT
  | HTTP_REQUEST_TIMEOUT
  | HTTP_MALFORMED_REPLY
  deriving DecidableEq

/-- `HTTPResponse`; `body` is `none` for a `NULL` pointer. -/
structure HTTPResponse where
  error : HTTPError
  responseCode : BitVec 16
  body : Option (List Byte)

/-- `HTTPClient::getConfig`, from the response on. -/
def getConfig (resp : HTTPResponse) : List Byte :=
  match resp.body with
  | some body => if resp.error = .HTTP_OK ∧ resp.responseCode = 200 then cstr body else []
  | none => []

abbrev Params := Std.TreeMap (List Byte) (List Byte)

def getlines (delim : Byte) : List Byte → List (List Byte)
  | [] => []
  | c :: s =>
    if c = delim then [] :: getlines delim s
    else
      match getlines delim s with
      | [] => [[c]]
      | item :: items => (c :: item) :: items

def configSplit (s : List Byte) (delim : Byte) : Params :=
  (getlines delim s).foldl (fun elems item =>
    match afterChr 58 item with
    | none => elems
    | some value => elems.insert (item.takeWhile (· != 58)) value) ∅

/-- `params[key]`: the value, and the map, which now has the key. -/
def index (params : Params) (key : List Byte) : List Byte × Params :=
  (params.getD key [], params.insertIfNew key [])

def replyParams (resp : HTTPResponse) : Params := configSplit (getConfig resp) 124

variable {w : ℕ} {D : Type} [Double D] [DoubleText D]

/-- `Config::checkServerConfig` on the response of the server; `none` when `platformUpgrade` does
not return. `now` is the clock when a trace starts. -/
def checkServerConfig (b : Build) (now : BitVec 32) (resp : HTTPResponse) (d : Device w D) :
    Option Bool × Device w D :=
  if getConfig resp = [] then (some false, d) else
  let params := replyParams resp
  if params.isEmpty then (some false, d) else
  let (path, params) := index params (str "path")
  if path ≠ [] ∧ b.platform.upgradeReturns = false then
    (none, { d with status := .upgrading }) else
  -- workaround for old configuration
  let (server, params) := index params (str "server")
  let d := if cstr server = str "http://" then d.setBaseURL server else d
  let (ntpserver, params) := index params (str "ntpserver")
  let d := d.setNTPServer ntpserver
  let d :=
    if params.contains (str "sigma") then
      d.setSigmaIter (DoubleText.atof (cstr (params.getD (str "sigma") [])))
    else d.setSigmaIter d.seismometer.sigmaIter
  let d := d.resetLastPeriod
  let d := if params.contains (str "trace") then d.startTrace now else d
  (some true, d)

/-! ### What one reply does -/

@[simp] theorem index_fst (params : Params) (key : List Byte) :
    (index params key).1 = params.getD key [] := rfl

theorem index_getD (params : Params) (key k : List Byte) :
    (index params key).2.getD k [] = params.getD k [] := by
  rw [index, Std.TreeMap.getD_insertIfNew]
  split
  · rename_i h
    rw [← Std.compare_eq_iff_eq.1 h.1, Std.TreeMap.getD_eq_fallback h.2]
  · rfl

theorem index_contains (params : Params) {key k : List Byte} (h : key ≠ k) :
    (index params key).2.contains k = params.contains k := by
  rw [index, Std.TreeMap.contains_insertIfNew]
  simp [h]

/-- The reply has a parameter and does not send the device into an upgrade. -/
def accepts (b : Build) (resp : HTTPResponse) : Bool :=
  decide (getConfig resp ≠ []) && !(replyParams resp).isEmpty &&
    (decide ((replyParams resp).getD (str "path") [] = []) || b.platform.upgradeReturns)

/-- What an accepted reply makes of the settings: the values of its keys, `""` for a missing one. -/
def configured (now : BitVec 32) (params : Params) (d : Device w D) : Device w D :=
  let server := params.getD (str "server") []
  let d := if cstr server = str "http://" then d.setBaseURL server else d
  let d := d.setNTPServer (params.getD (str "ntpserver") [])
  let d :=
    if params.contains (str "sigma") then
      d.setSigmaIter (DoubleText.atof (cstr (params.getD (str "sigma") [])))
    else d.setSigmaIter d.seismometer.sigmaIter
  let d := d.resetLastPeriod
  if params.contains (str "trace") then d.startTrace now else d

theorem configured_ntpserver (now : BitVec 32) (params : Params) (d : Device w D) :
    (configured now params d).ntp.ntpserver = params.getD (str "ntpserver") [] := by
  simp only [configured]
  split <;> split <;> rfl

/-- What the setters leave alone, an accepted reply leaves alone. -/
theorem configured_preserves {P : Device w D → Prop} {now : BitVec 32}
    (hbase : ∀ (d : Device w D) (s : List Byte), P d → P (d.setBaseURL s))
    (hserver : ∀ (d : Device w D) (s : List Byte), P d → P (d.setNTPServer s))
    (hsigma : ∀ (d : Device w D) (x : D), P d → P (d.setSigmaIter x))
    (hperiod : ∀ d : Device w D, P d → P d.resetLastPeriod)
    (htrace : ∀ d : Device w D, P d → P (d.startTrace now)) (params : Params) {d : Device w D}
    (hd : P d) : P (configured now params d) := by
  unfold configured
  extract_lets server d₁ d₂ d₃ d₄
  have h₁ : P d₁ := by
    unfold d₁
    split
    · exact hbase d server hd
    · exact hd
  have h₂ : P d₂ := hserver d₁ _ h₁
  have h₃ : P d₃ := by
    unfold d₃
    split
    · exact hsigma d₂ _ h₂
    · exact hsigma d₂ _ h₂
  have h₄ : P d₄ := hperiod d₃ h₃
  split
  · exact htrace d₄ h₄
  · exact h₄

theorem configured_unixTimeTS (now : BitVec 32) (params : Params) (d : Device w D) :
    (configured now params d).ntp.unixTimeTS = d.ntp.unixTimeTS :=
  configured_preserves (P := fun d' => d'.ntp.unixTimeTS = d.ntp.unixTimeTS) (fun _ _ h => h)
    (fun _ _ h => h) (fun _ _ h => h) (fun _ h => h) (fun _ h => h) params rfl

theorem checkServerConfig_of_accepts {b : Build} {resp : HTTPResponse} (now : BitVec 32)
    (d : Device w D) (h : accepts b resp = true) :
    checkServerConfig b now resp d = (some true, configured now (replyParams resp) d) := by
  simp only [accepts, Bool.and_eq_true, decide_eq_true_eq, Bool.not_eq_true', Bool.or_eq_true] at h
  obtain ⟨⟨hcfg, hparams⟩, hpath⟩ := h
  have hup : ¬((replyParams resp).getD (str "path") [] ≠ [] ∧ b.platform.upgradeReturns = false) := by
    rintro ⟨hne, hret⟩
    rcases hpath with h | h
    · exact hne h
    · rw [hret] at h; cases h
  rw [checkServerConfig, if_neg hcfg]
  dsimp only
  rw [if_neg (by simp [hparams]), index_fst _ (str "path"), if_neg hup]
  simp only [index_contains _ (show str "path" ≠ str "sigma" by decide),
    index_contains _ (show str "server" ≠ str "sigma" by decide),
    index_contains _ (show str "ntpserver" ≠ str "sigma" by decide),
    index_contains _ (show str "path" ≠ str "trace" by decide),
    index_contains _ (show str "server" ≠ str "trace" by decide),
    index_contains _ (show str "ntpserver" ≠ str "trace" by decide),
    index_getD, index_fst, configured]

/-- A reply that is not accepted leaves everything as it was, or the call does not return. -/
theorem checkServerConfig_of_not_accepts {b : Build} {resp : HTTPResponse} (now : BitVec 32)
    (d : Device w D) (h : accepts b resp = false) :
    checkServerConfig b now resp d = (some false, d) ∨
      checkServerConfig b now resp d = (none, { d with status := .upgrading }) := by
  rw [checkServerConfig]
  split
  · exact .inl rfl
  rename_i hcfg
  dsimp only
  split
  · exact .inl rfl
  rename_i hparams
  split
  · exact .inr rfl
  rename_i hpath
  rw [not_and, Bool.not_eq_false] at hpath
  refine absurd h ?_
  by_cases hp : (replyParams resp).getD (str "path") [] = []
  · simp [accepts, hcfg, hparams, hp]
  · simp [accepts, hcfg, hparams, hpath hp]

theorem checkServerConfig_preserves {P : Device w D → Prop} {b : Build} {now : BitVec 32}
    {resp : HTTPResponse} {d : Device w D} (hconfigured : P (configured now (replyParams resp) d))
    (hupgrade : P { d with status := .upgrading }) (hd : P d) :
    P (checkServerConfig b now resp d).2 := by
  cases haccepts : accepts b resp with
  | true =>
    rw [checkServerConfig_of_accepts now d haccepts]
    exact hconfigured
  | false =>
    rcases checkServerConfig_of_not_accepts now d haccepts with h | h
    · rw [h]
      exact hd
    · rw [h]
      exact hupgrade

theorem configured_config (now : BitVec 32) (params : Params) (d : Device w D) :
    (configured now params d).config = d.config :=
  configured_preserves (P := fun d' => d'.config = d.config) (fun _ _ h => h) (fun _ _ h => h)
    (fun _ _ h => h) (fun _ h => h) (fun _ h => h) params rfl

/-- The saved part of the configuration is no part of a reply. -/
theorem checkServerConfig_config (b : Build) (now : BitVec 32) (resp : HTTPResponse)
    (d : Device w D) : (checkServerConfig b now resp d).2.config = d.config :=
  checkServerConfig_preserves (P := fun d' => d'.config = d.config) (configured_config now _ d) rfl
    rfl

/-- The settings whose key the parameters do not have are those of before. -/
structure NamedOnly (params : Params) (d d' : Device w D) : Prop where
  baseUrl : str "server" ∉ params → d'.baseUrl = d.baseUrl
  ntpserver : str "ntpserver" ∉ params → d'.ntp.ntpserver = d.ntp.ntpserver
  sigma : str "sigma" ∉ params → d'.seismometer.sigmaIter = d.seismometer.sigmaIter
  trace : str "trace" ∉ params → d'.trace = d.trace

/-- Of the settings whose key may be missing, only the NTP server is not kept. -/
theorem namedOnly_iff (now : BitVec 32) (params : Params) (d : Device w D) :
    NamedOnly params d (configured now params d) ↔
      str "ntpserver" ∈ params ∨ d.ntp.ntpserver = [] := by
  constructor
  · intro h
    refine or_iff_not_imp_left.2 fun hkey => ?_
    rw [← h.ntpserver hkey, configured_ntpserver, Std.TreeMap.getD_eq_fallback hkey]
  · intro h
    refine ⟨fun hkey => ?_, fun hkey => ?_, fun hkey => ?_, fun hkey => ?_⟩
    · have hnone : ¬cstr (params.getD (str "server") []) = str "http://" := by
        rw [Std.TreeMap.getD_eq_fallback hkey]; decide
      simp only [configured, if_neg hnone]
      split <;> split <;> rfl
    · rw [configured_ntpserver, Std.TreeMap.getD_eq_fallback hkey]
      exact (h.resolve_left hkey).symm
    · have hcount : ¬params.contains (str "sigma") = true := mt Std.TreeMap.contains_iff_mem.1 hkey
      simp only [configured, if_neg hcount]
      split <;> split <;> rfl
    · have hcount : ¬params.contains (str "trace") = true := mt Std.TreeMap.contains_iff_mem.1 hkey
      simp only [configured, if_neg hcount]
      split <;> split <;> rfl

/-! ### Sequences of replies -/

/-- `sync` returns `false` at once, whatever the environment does. -/
def NTP.Hopeless (n : NTP w) : Prop :=
  ∀ (tw : ℕ) (queue : List (Datagram Unit)) (rounds : List (Round Unit)),
    (NTP.sync tw n queue rounds).result = some false

theorem NTP.hopeless_iff (n : NTP w) : n.Hopeless ↔ n.ntpserver = [] := by
  constructor
  · intro h
    by_contra hne
    have hrun := h 64 [] []
    rw [NTP.sync, if_neg hne] at hrun
    cases hrun
  · intro h tw queue rounds
    rw [NTP.sync, if_pos h]

structure ConfigStep (w : ℕ) (D : Type) where
  before : Device w D
  resp : HTTPResponse
  ret : Option Bool
  after : Device w D

def configRun (b : Build) : Device w D → List (BitVec 32 × HTTPResponse) → List (ConfigStep w D)
  | _, [] => []
  | d, (now, resp) :: rest =>
    let r := checkServerConfig b now resp d
    ⟨d, resp, r.1, r.2⟩ :: if r.1 = none then [] else configRun b r.2 rest

theorem configRun_resp {b : Build} {d : Device w D} {replies : List (BitVec 32 × HTTPResponse)}
    {s : ConfigStep w D} (h : s ∈ configRun b d replies) : ∃ r ∈ replies, s.resp = r.2 := by
  induction replies generalizing d with
  | nil => cases h
  | cons r replies ih =>
    rcases List.mem_cons.1 h with rfl | h
    · exact ⟨r, List.mem_cons_self, rfl⟩
    · by_cases hret : (checkServerConfig b r.1 r.2 d).1 = none
      · rw [if_pos hret] at h
        cases h
      · rw [if_neg hret] at h
        obtain ⟨r', hr', hs⟩ := ih h
        exact ⟨r', List.mem_cons_of_mem _ hr', hs⟩

/-- What a call should do: change only what an accepted reply names, nothing on a rejected one, and
leave a server name with which `sync` can succeed. -/
structure ConfigStep.Frames (s : ConfigStep w D) : Prop where
  accepted : s.ret = some true → NamedOnly (replyParams s.resp) s.before s.after
  rejected : s.ret = some false → s.after = s.before
  server : s.after.ntp.ntpserver ≠ []
  retry : ¬s.after.ntp.Hopeless

theorem configStep_frames_iff (b : Build) (now : BitVec 32) {resp : HTTPResponse} {d : Device w D}
    (hstart : d.ntp.ntpserver ≠ [])
    (hempty : (replyParams resp)[str "ntpserver"]? ≠ some []) :
    let r := checkServerConfig b now resp d
    ConfigStep.Frames ⟨d, resp, r.1, r.2⟩ ↔
      (accepts b resp = true → str "ntpserver" ∈ replyParams resp) := by
  intro r
  cases haccepts : accepts b resp with
  | true =>
    have hr : r = _ := checkServerConfig_of_accepts now d haccepts
    rw [hr]
    constructor
    · intro h _
      exact ((namedOnly_iff now _ d).1 (h.accepted rfl)).resolve_right hstart
    · intro hkey
      have hne : (configured now (replyParams resp) d).ntp.ntpserver ≠ [] := by
        rw [configured_ntpserver, Std.TreeMap.getD_eq_getD_getElem?]
        have hsome := Std.TreeMap.getElem?_eq_some_getElem (hkey rfl)
        rw [hsome] at hempty ⊢
        exact fun h => hempty (congrArg some h)
      exact ⟨fun _ => (namedOnly_iff now _ d).2 (.inl (hkey rfl)), by simp, hne,
        mt (NTP.hopeless_iff _).1 hne⟩
  | false =>
    refine iff_of_true ?_ (by simp)
    rcases checkServerConfig_of_not_accepts now d haccepts with h | h
    · rw [show r = _ from h]
      exact ⟨by simp, fun _ => rfl, hstart, mt (NTP.hopeless_iff _).1 hstart⟩
    · rw [show r = _ from h]
      exact ⟨by simp, by simp, hstart, mt (NTP.hopeless_iff _).1 hstart⟩

/-- `checkServerConfig` on an accepted reply changes only what the reply names exactly when the
reply has the key `ntpserver` or there is no server to lose, and on a rejected one nothing; and over
a sequence of replies none of which carries an empty `ntpserver`, started with a server name, every
call does so and keeps a server name exactly when every accepted reply has the key. -/
theorem configRun_iff (b : Build) :
    (∀ (now : BitVec 32) (resp : HTTPResponse) (d : Device w D),
      ((checkServerConfig b now resp d).1 = some true →
        (NamedOnly (replyParams resp) d (checkServerConfig b now resp d).2 ↔
          str "ntpserver" ∈ replyParams resp ∨ d.ntp.ntpserver = [])) ∧
      ((checkServerConfig b now resp d).1 = some false →
        (checkServerConfig b now resp d).2 = d)) ∧
    ∀ (d : Device w D) (replies : List (BitVec 32 × HTTPResponse)), d.ntp.ntpserver ≠ [] →
      (∀ r ∈ replies, (replyParams r.2)[str "ntpserver"]? ≠ some []) →
      ((∀ s ∈ configRun b d replies, s.Frames) ↔
        ∀ s ∈ configRun b d replies,
          accepts b s.resp = true → str "ntpserver" ∈ replyParams s.resp) := by
  refine ⟨fun now resp d => ?_, fun d replies hstart hempty => ?_⟩
  · cases haccepts : accepts b resp with
    | true =>
      rw [checkServerConfig_of_accepts now d haccepts]
      exact ⟨fun _ => namedOnly_iff now _ d, by simp⟩
    | false =>
      rcases checkServerConfig_of_not_accepts now d haccepts with h | h <;> rw [h]
      · exact ⟨by simp, fun _ => rfl⟩
      · exact ⟨by simp, by simp⟩
  · induction replies generalizing d with
    | nil => simp [configRun]
    | cons r replies ih =>
      obtain ⟨now, resp⟩ := r
      obtain ⟨hempty0, hempty⟩ := List.forall_mem_cons.1 hempty
      rw [configRun, List.forall_mem_cons, List.forall_mem_cons]
      have hstep : ConfigStep.Frames ⟨d, resp, (checkServerConfig b now resp d).1,
          (checkServerConfig b now resp d).2⟩ ↔ _ := configStep_frames_iff b now hstart hempty0
      -- the rest of the run starts with a server name once this call has kept one
      have hrest : ∀ hframes : ConfigStep.Frames ⟨d, resp, (checkServerConfig b now resp d).1,
          (checkServerConfig b now resp d).2⟩, _ := fun hframes =>
        ih (checkServerConfig b now resp d).2 hframes.server hempty
      by_cases hret : (checkServerConfig b now resp d).1 = none
      · simp only [hret, if_true, List.not_mem_nil, false_implies, implies_true, and_true]
        rw [hret] at hstep
        exact hstep
      · simp only [hret, if_false]
        constructor
        · exact fun h => ⟨hstep.1 h.1, (hrest h.1).1 h.2⟩
        · exact fun h => ⟨hstep.2 h.1, (hrest (hstep.2 h.1)).2 h.2⟩

theorem configRun_iff_kept :
    ∀ s ∈ configRun ⟨.raspi, false⟩ (Device.init : Device 64 ℝ)
      [(0, ⟨.HTTP_OK, 200, some (str "ntpserver:ntp.example|sigma:4")⟩),
        (0, ⟨.HTTP_REQUEST_TIMEOUT, 0, none⟩),
        (0, ⟨.HTTP_OK, 200, some (str "trace:1|ntpserver:ntp.example")⟩)], s.Frames := by
  refine ((configRun_iff _).2 _ _ (by decide) (by decide)).2 fun s hs => ?_
  obtain ⟨r, hr, hresp⟩ := configRun_resp hs
  rw [hresp]
  clear hresp hs
  revert r
  decide

/-- A reply that sets sigma only: `europe.pool.ntp.org` is gone. -/
theorem reply_without_ntpserver :
    let resp : HTTPResponse := ⟨.HTTP_OK, 200, some (str "sigma:4")⟩
    let d : Device 64 ℝ := Device.init
    let r := checkServerConfig ⟨.raspi, false⟩ 0 resp d
    r.1 = some true ∧ str "ntpserver" ∉ replyParams resp ∧
      d.ntp.ntpserver = str "europe.pool.ntp.org" ∧ r.2.ntp.ntpserver = [] ∧ r.2.ntp.Hopeless := by
  intro resp d r
  have haccepts : accepts ⟨.raspi, false⟩ resp = true := by decide
  have hr : r = _ := checkServerConfig_of_accepts 0 d haccepts
  have hserver : r.2.ntp.ntpserver = [] := by
    rw [hr, configured_ntpserver]; decide
  exact ⟨by rw [hr], by decide, rfl, hserver, (NTP.hopeless_iff _).2 hserver⟩

end Terremoti
