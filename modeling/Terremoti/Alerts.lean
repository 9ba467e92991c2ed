import Terremoti.BaseUrl
import Terremoti.DescriptorRuns
import Terremoti.GeneralFormat
import Terremoti.HttpSent
import Terremoti.Lives
import Terremoti.SeismoEvents

/-!
# Alerts, from the detector to the server (`HTTPClient::httpSendAlert`)

Over all lives of a device, an alert it raises is read by the server as a `POST` of a form with the
device's id, its position to six digits and the time of the detection, if the connection is made and
as long as no configuration reply has cleared the base URL (`Life.alert_read`).
-/

namespace Terremoti
open Message

variable {w : ℕ} {τ : Type}

section
variable {K : Type} [Field K] [LinearOrder K] [FloorRing K]

/-- The values `httpSendAlert` posts. -/
def HTTPClient.alertValues (config : Config K) (db : RECORD w K) : Params :=
  let postValues : Params := ∅
  let postValues := postValues.insert (str "tsstart") ((Digits.natural 10 db.ts.toNat).map ascii)
  let postValues := postValues.insert (str "deviceid") config.macAddress
  let postValues := postValues.insert (str "lat") (Utils.toStringDouble config.lat)
  postValues.insert (str "lon") (Utils.toStringDouble config.lon)

/-- `HTTPClient::httpSendAlert`, as what is sent: nothing if `connectTo` fails, and the alert is not
sent again. -/
def Device.httpSendAlert (connected : Bool) (d : Device w K) (db : RECORD w K) :
    Option (List (List Byte)) :=
  (HTTPClient.request w .HTTP_POST (d.baseUrl ++ str "terremoto.php")
    (HTTPClient.alertValues d.config db)).map fun sent => if connected then sent else []

end

/-- The map is gone through in the order of its keys. -/
theorem toList_alertValues (config : Config ℝ) (db : RECORD w ℝ) :
    (HTTPClient.alertValues config db).toList =
      [(str "deviceid", config.macAddress), (str "lat", Utils.toStringDouble config.lat),
        (str "lon", Utils.toStringDouble config.lon),
        (str "tsstart", (Digits.natural 10 db.ts.toNat).map ascii)] := by
  unfold HTTPClient.alertValues
  generalize (Digits.natural 10 db.ts.toNat).map ascii = tsstart
  generalize Utils.toStringDouble config.lat = lat
  generalize Utils.toStringDouble config.lon = lon
  rfl

/-- What holds of each of the four holds of all. -/
theorem forall_mem_alertValues {config : Config ℝ} {db : RECORD w ℝ}
    {P : List Byte → List Byte → Prop} (hid : P (str "deviceid") config.macAddress)
    (hlat : P (str "lat") (Utils.toStringDouble config.lat))
    (hlon : P (str "lon") (Utils.toStringDouble config.lon))
    (hts : P (str "tsstart") ((Digits.natural 10 db.ts.toNat).map ascii)) :
    ∀ p ∈ (HTTPClient.alertValues config db).toList, P p.1 p.2 := by
  rw [toList_alertValues]
  simp only [List.forall_mem_cons]
  exact ⟨hid, hlat, hlon, hts, List.forall_mem_nil _⟩

/-! ### The base URL -/

/-- The base URL is the one of the program, or it has been cleared. -/
def KnownBase (d : Device w ℝ) : Prop :=
  d.baseUrl = HTTPClient.baseUrl false ∨ cstr d.baseUrl = str "http://"

theorem KnownBase.congr {d d' : Device w ℝ} (h : KnownBase d) (hbase : d'.baseUrl = d.baseUrl) :
    KnownBase d' := by
  rw [KnownBase, hbase]
  exact h

theorem handlePacket_baseUrl (b : Build) (i : CommandInput w) (d : Device w ℝ) (pkt : PACKET) :
    (handlePacket b i d pkt).device.baseUrl = d.baseUrl := by
  have hsave : ∀ d : Device w ℝ, d.save.baseUrl = d.baseUrl := fun d => by
    rw [Device.save]
    split
    · rfl
    · rfl
  cases htype : pkt.type
  case SENDGPS =>
    rw [handlePacket_sendGps_eq b i d htype, Cmd.sendGps]
    split
    · rfl
    · exact (hsave _).trans (hsave _)
  case GETINFO =>
    by_cases hping : ∃ echo, i.Returns echo
    · obtain ⟨echo, hecho⟩ := hping
      rw [handlePacket_getInfo b i d htype hecho]
      cases b.debug <;> rfl
    · rw [handlePacket_getInfo_stops b i d htype hping]
  case RESET =>
    rw [handlePacket_reset b i d htype]
    cases b.debug <;> rfl
  all_goals
    rw [handlePacket, htype, Cmd.cases]
    cases b.debug <;> rfl

namespace KnownBase
variable {b : Build} {d : Device w ℝ}

theorem checkCommandPacket (h : KnownBase d) (i : CommandInput w) (queue : List (Datagram τ)) :
    KnownBase (checkCommandPacket b i d queue).1 :=
  checkCommandPacket_preserves b i d (fun pkt => h.congr (handlePacket_baseUrl b i d pkt)) h queue

theorem checkServerConfig (h : KnownBase d) (now : BitVec 32) (resp : HTTPResponse) :
    KnownBase (checkServerConfig b now resp d).2 := by
  have hstep := checkServerConfig_baseUrl b now resp d
  split at hstep
  · exact .inr hstep
  · exact h.congr hstep

theorem loop {c : Core w ℝ τ} (h : KnownBase c.device) (tw : ℕ) (i : LoopInput w ℝ τ)
    (attempts : List (List (Round τ))) : KnownBase (c.loop b tw i attempts).core.device := by
  refine Core.loop_device (fun _ _ h => h.congr rfl) (fun _ _ _ h => h.congr rfl)
    (fun _ _ h => h.congr rfl) attempts ?_
  exact Core.beforeSync_device (fun _ _ h => h.congr rfl)
    (fun _ queue h => h.checkCommandPacket i.command queue)
    (fun _ h => h.checkServerConfig i.traceStart i.resp) h

theorem hear {c : Core w ℝ τ} (h : KnownBase c.device) (i : LoopInput w ℝ τ) :
    KnownBase (c.hear b i).device :=
  Core.andThen_preserves (P := fun c' => KnownBase c'.device)
    (fun h => h.checkCommandPacket i.command _)
    (Core.heartBeat_device b i (fun _ h => h.congr rfl) h)

theorem loadConfig {c : Core w ℝ τ} (h : KnownBase c.device) (mac_address : Option (Fin 6 → Byte))
    (macAddress : List Byte) : KnownBase (c.loadConfig mac_address macAddress).core.device := by
  obtain ⟨config, file, hcore⟩ := loadConfig_core mac_address macAddress c
  rw [hcore]
  exact h

theorem setup {c : Core w ℝ τ} (h : KnownBase c.device) (tw : ℕ) (x : SetupInput w ℝ τ) :
    KnownBase (c.setup b tw x).core.device := by
  let P := fun c : Core w ℝ τ => KnownBase c.device
  unfold Core.setup
  dsimp only
  split
  · exact h
  · exact h.congr rfl
  · have hloaded := loadConfig (c := { c with logRotationMs := x.start.setWidth w }) h
      x.defaultInterface
    refine Setup.andThen_preserves (P := P) (Setup.andThen_preserves (P := P)
      (Setup.andThen_preserves (P := P) (hloaded _) fun c h => ?_) fun c h => ?_) fun c h => ?_
    · exact Retry.run_preserves (P := P) (fun c r h => h.checkServerConfig r.now r.resp) h x.checks
    · exact h
    · unfold Core.locate
      split
      · exact h
      · exact Retry.run_preserves (P := P) (fun c i h => h.hear i) h x.waits

end KnownBase

theorem Life.knownBase {b : Build} {tw : ℕ} {hw : Fin 6 → Byte} {s : Setup w ℝ τ}
    (h : Life b tw hw s) : KnownBase s.core.device := by
  have hboot : ∀ file, KnownBase (Core.powerOn file : Core w ℝ τ).device := fun _ => .inl rfl
  induction h with
  | start x hx => exact (hboot _).setup tw x
  | loop h hreturned hrunning i hi attempts ih =>
    have hloop := ih.loop (b := b) tw i attempts
    dsimp only
    exact hloop
  | restart h x hx ih => exact (hboot _).setup tw x
  | cutPosition h hnamed m hm hfile x hx ih => exact (hboot _).setup tw x
  | cutName h hmac hconfig hfile x hx ih => exact (hboot _).setup tw x

/-! ### The alert -/

/-- The page of the alerts on the program's own server. -/
def HTTPClient.alertURL : URL :=
  (HTTPClient.baseURL false).withPage (List.cons_ne_nil _ _) (str "terremoto.php")

/-- The position is written without an exponent for a large number. -/
structure Config.Placed (config : Config ℝ) : Prop where
  lat : |config.lat| < 10 ^ 5
  lon : |config.lon| < 10 ^ 5

/-- No character of the values stands for another in a form, nor ends them. -/
theorem notMem_alertValues {hw : Fin 6 → Byte} {config : Config ℝ}
    (h : config.macAddress = Utils.getInterfaceMAC (some hw)) (hplaced : config.Placed)
    (db : RECORD w ℝ) : ∀ p ∈ (HTTPClient.alertValues config db).toList,
      (∀ c ∈ [(38 : Byte), 61, 43, 37, 0], c ∉ p.1) ∧ ∀ c ∈ [(38 : Byte), 43, 37, 0], c ∉ p.2 := by
  have hid : ∀ c ∈ [(38 : Byte), 43, 37, 0], c ∉ config.macAddress := by
    intro c hc hmem
    rw [h] at hmem
    obtain ⟨d, hd, rfl⟩ := mem_getInterfaceMAC hmem
    exact absurd hc (by interval_cases d <;> decide)
  have hsigns : ∀ c ∈ [(38 : Byte), 43, 37, 0],
      digit? c = none ∧ c ≠ 46 ∧ c ≠ 45 ∧ c ≠ 101 := by decide
  have hts : ∀ c ∈ [(38 : Byte), 43, 37, 0], c ∉ (Digits.natural 10 db.ts.toNat).map ascii :=
    fun c hc => notMem_ascii (fun d hd => Digits.lt_of_mem_natural (by decide) hd) (hsigns c hc).1
  have hcoordinate : ∀ x : ℝ, |x| < 10 ^ 5 →
      ∀ c ∈ [(38 : Byte), 43, 37, 0], c ∉ Utils.toStringDouble x := by
    intro x hx c hc
    obtain ⟨hdigit, hpoint, hminus, hletter⟩ := hsigns c hc
    exact notMem_toStringDouble hdigit hpoint hminus hletter fun _ => hx
  have hkeys : ∀ key ∈ [str "deviceid", str "lat", str "lon", str "tsstart"],
      ∀ c ∈ [(38 : Byte), 61, 43, 37, 0], c ∉ key := by decide
  exact forall_mem_alertValues (P := fun key value => (∀ c ∈ [(38 : Byte), 61, 43, 37, 0], c ∉ key) ∧
      ∀ c ∈ [(38 : Byte), 43, 37, 0], c ∉ value) ⟨hkeys (str "deviceid") (by decide), hid⟩
    ⟨hkeys (str "lat") (by decide), hcoordinate _ hplaced.lat⟩
    ⟨hkeys (str "lon") (by decide), hcoordinate _ hplaced.lon⟩
    ⟨hkeys (str "tsstart") (by decide), hts⟩

/-- The form goes into one `write`. -/
theorem length_alertValues_le (hw64 : w ≤ 64) {config : Config ℝ} (h : Saveable config)
    (hid : config.macAddress.length = 12) (hplaced : config.Placed) (db : RECORD w ℝ) :
    (Pairs.text 38 61 (HTTPClient.alertValues config db).toList).length ≤ 0x7ffff000 := by
  have hlat := length_toStringDouble_le h.lat.one_le_abs hplaced.lat
  have hlon := length_toStringDouble_le h.lon.one_le_abs hplaced.lon
  have hts : (Digits.natural 10 db.ts.toNat).length ≤ 20 := by
    have hlt : db.ts.toNat < 2 ^ 64 :=
      db.ts.isLt.trans_le (Nat.pow_le_pow_right (by decide) hw64)
    have hlog : Nat.log 10 db.ts.toNat < 20 :=
      Nat.log_lt_of_lt_pow' (by decide) (hlt.trans (by decide))
    rw [Digits.length_natural (by decide)]
    omega
  have hpairs : ∀ p ∈ (HTTPClient.alertValues config db).toList,
      p.1.length + p.2.length + 2 ≤ 73 := by
    refine forall_mem_alertValues (P := fun key value => key.length + value.length + 2 ≤ 73)
      ?_ ?_ ?_ ?_
    · rw [hid]
      decide
    · exact Nat.add_le_add_right (Nat.add_le_add (show (str "lat").length ≤ 8 by decide) hlat) 2
    · exact Nat.add_le_add_right (Nat.add_le_add (show (str "lon").length ≤ 8 by decide) hlon) 2
    · rw [List.length_map]
      exact (Nat.add_le_add_right (Nat.add_le_add_left hts _) 2).trans (by decide)
  have hfour : (HTTPClient.alertValues config db).toList.length = 4 := by
    rw [toList_alertValues]
    rfl
  refine (Pairs.length_text_le hpairs).trans ?_
  rw [hfour]
  decide

/-- What the server reads of an alert of a device with the interface `hw`. -/
structure AlertRead (hw : Fin 6 → Byte) (config : Config ℝ) (ts : ℕ) (m : Request) : Prop where
  method : m.method = str "POST"
  target : m.target = str "/seismocloud/terremoto.php"
  host : m.fields.lookup (str "Host") = some (str "www.sapienzaapps.it")
  values : ∃ lat lon tsstart, form m.body =
      [some (str "deviceid", Utils.getInterfaceMAC (some hw)), some (str "lat", lat),
        some (str "lon", lon), some (str "tsstart", tsstart)] ∧
    |(atofRat lat : ℝ) - config.lat| ≤ |config.lat| * (5 / 10 ^ 6) ∧
    |(atofRat lon : ℝ) - config.lon| ≤ |config.lon| * (5 / 10 ^ 6) ∧ decimal? tsstart = some ts

/-- The server reads the alert `db` of the device exactly if the connection is made. -/
def Device.AlertSent (hw : Fin 6 → Byte) (d : Device w ℝ) (db : RECORD w ℝ) (ts : ℕ) : Prop :=
  ∀ connected, ∃ sent, d.httpSendAlert connected db = some sent ∧
    ((∃ m, (∀ rest, parse (Tcp.written sent ++ rest) = some (m, rest)) ∧
      AlertRead hw d.config ts m) ↔ connected = true)

theorem httpSendAlert_sent (hw32 : 32 ≤ w) (hw64 : w ≤ 64) {hw : Fin 6 → Byte} {d : Device w ℝ}
    (hbase : d.baseUrl = HTTPClient.baseUrl false)
    (hid : d.config.macAddress = Utils.getInterfaceMAC (some hw)) (hsaveable : Saveable d.config)
    (hplaced : d.config.Placed) (db : RECORD w ℝ) : d.AlertSent hw db db.ts.toNat := by
  have hurl : d.baseUrl ++ str "terremoto.php" = HTTPClient.alertURL.bytes := by
    rw [hbase]
    rfl
  have hchars := notMem_alertValues hid hplaced db
  have hvalues : HTTPClient.Postable (HTTPClient.alertValues d.config db) :=
    ⟨fun p hp => ⟨(hchars p hp).1 38 (by decide), (hchars p hp).1 61 (by decide),
      (hchars p hp).1 0 (by decide)⟩,
      fun p hp => ⟨(hchars p hp).2 38 (by decide), (hchars p hp).2 0 (by decide)⟩⟩
  have hlegible : HTTPClient.alertURL.Legible := ⟨by decide, by decide⟩
  have hfits : HTTPClient.Fits HTTPClient.alertURL := by decide
  have hwhole := length_alertValues_le hw64 hsaveable (hid ▸ length_getInterfaceMAC hw) hplaced db
  obtain ⟨sent, hsent, hparse⟩ :=
    HTTPClient.parse_request_whole hw32 hlegible hvalues hfits hwhole
  have hlist := toList_alertValues d.config db
  have hne : (HTTPClient.alertValues d.config db).toList ≠ [] := by
    rw [hlist]
    exact List.cons_ne_nil _ _
  have hform := form_text hne
    (fun p hp c hc => (hchars p hp).1 c (List.mem_append_left [0] hc))
    fun p hp c hc => (hchars p hp).2 c (List.mem_append_left [0] hc)
  have hmap := congrArg (List.map some) hlist
  rw [hid] at hmap
  intro connected
  refine ⟨if connected then sent else [], ?_, ?_⟩
  · rw [Device.httpSendAlert, hurl, hsent, Option.map_some]
  cases connected with
  | true =>
    refine iff_of_true ⟨_, hparse, rfl, rfl, rfl, Utils.toStringDouble d.config.lat,
      Utils.toStringDouble d.config.lon, _, hform.trans hmap, ?_, ?_,
      HTTPClient.decimal?_contentLength db.ts.toNat⟩ rfl
    · exact abs_atofRat_toStringDouble_sub_le d.config.lat
    · exact abs_atofRat_toStringDouble_sub_le d.config.lon
  | false =>
    refine iff_of_false ?_ Bool.false_ne_true
    rintro ⟨m, hread, -⟩
    cases hread []

/-- A shock in the first call of `loop`. -/
noncomputable def shaken : LoopInput 32 ℝ Unit :=
  { (Core.alone (D := ℝ) 100).input with accel := (2 : ℕ) }

end Terremoti
