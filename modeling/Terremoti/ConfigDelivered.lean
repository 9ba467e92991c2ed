import Terremoti.ConfigText
import Terremoti.HttpBody

/-!
# A configuration, from the server to the device

A server says what a device is to set as a list of items in the body of a reply. Through the reader
of the reply, the split of its body and `Config::checkServerConfig`, the device makes the settings of
these items and no others (`config_delivered`), as long as the body has come when it is read.
-/

namespace Terremoti

variable {w : ℕ} {D : Type} [Double D] [DoubleText D]

/-- The settings a reply makes, by the last value it gives each key. -/
def Device.adopt (now : BitVec 32) (settings : List Byte → Option (List Byte)) (d : Device w D) :
    Device w D :=
  let ntp := { d.ntp with ntpserver := (settings (str "ntpserver")).getD [] }
  let sigma := (settings (str "sigma")).map DoubleText.atof
  { d with
    baseUrl := if settings (str "server") = some (str "http://") then str "http://" else d.baseUrl
    ntp := ntp
    seismometer := { d.seismometer with
      toStatistics := { d.seismometer.toStatistics.resetLastPeriod with
        sigmaIter := sigma.getD d.seismometer.sigmaIter } }
    trace := if (settings (str "trace")).isSome then d.trace.start (ntp.getUNIXTime now) else d.trace }

/-- What a device makes of the pairs in a reply, with the result of `checkServerConfig`. -/
def Device.receive (b : Build) (now : BitVec 32) (pairs : List (List Byte × List Byte))
    (d : Device w D) : Option Bool × Device w D :=
  let settings := Bindings.last pairs
  if pairs = [] then (some false, d)
  else if (settings (str "path")).getD [] ≠ [] ∧ b.platform.upgradeReturns = false then
    (none, { d with status := .upgrading })
  else (some true, d.adopt now settings)

theorem configured_eq_adopt (now : BitVec 32) {params : Params}
    {settings : List Byte → Option (List Byte)}
    (hsettings : ∀ key : List Byte, params[key]? = settings key)
    (hnul : ∀ key value : List Byte, settings key = some value → 0 ∉ value) (d : Device w D) :
    configured now params d = d.adopt now settings := by
  have hraw : ∀ key : List Byte, params.getD key [] = (settings key).getD [] := fun key => by
    rw [Std.TreeMap.getD_eq_getD_getElem?, hsettings]
  have hvalue : ∀ key : List Byte, cstr ((settings key).getD []) = (settings key).getD [] := by
    intro key
    cases hkey : settings key with
    | none => rfl
    | some value => exact cstr_of_notMem (hnul key value hkey)
  have hcount : ∀ key : List Byte, params.contains key = (settings key).isSome := fun key => by
    rw [Std.TreeMap.contains_eq_isSome_getElem?, hsettings]
  have hserver : (settings (str "server")).getD [] = str "http://" ↔
      settings (str "server") = some (str "http://") := by
    cases settings (str "server") with
    | none => exact iff_of_false (by decide) (by simp)
    | some value => simp
  simp only [configured, hraw, hvalue, hcount, hserver, Device.adopt]
  by_cases hset : settings (str "server") = some (str "http://")
  · rw [if_pos hset, if_pos hset, hset]
    cases settings (str "sigma") <;> cases settings (str "trace") <;> rfl
  · rw [if_neg hset, if_neg hset]
    cases settings (str "sigma") <;> cases settings (str "trace") <;> rfl

theorem notMem_intercalate {c sep : Byte} (hsep : c ≠ sep) {ls : List (List Byte)}
    (h : ∀ l ∈ ls, c ∉ l) : c ∉ [sep].intercalate ls := by
  induction ls with
  | nil => exact List.not_mem_nil
  | cons l ls ih =>
    rw [List.forall_mem_cons] at h
    cases ls with
    | nil => simpa [List.intercalate] using h.1
    | cons l' ls =>
      have hcons : [sep].intercalate (l :: l' :: ls) = l ++ sep :: [sep].intercalate (l' :: ls) := by
        simp [List.intercalate]
      rw [hcons, List.mem_append, List.mem_cons]
      rintro (hc | hc | hc)
      · exact h.1 hc
      · exact hsep hc
      · exact ih h.2 hc

theorem nul_notMem_configText {items : List ConfigItem} (hnul : ∀ i ∈ items, 0 ∉ i.text)
    (trailing : Bool) : 0 ∉ configText items trailing := by
  have htexts : ∀ l ∈ items.map ConfigItem.text, 0 ∉ l := by
    intro l hl
    obtain ⟨i, hi, rfl⟩ := List.mem_map.1 hl
    exact hnul i hi
  intro h
  rcases List.mem_append.1 h with h | h
  · exact notMem_intercalate (by decide) htexts h
  · cases trailing <;> simp at h

/-- The body of a reply and `checkServerConfig` behind it. -/
theorem checkServerConfig_eq_receive (b : Build) (now : BitVec 32) {resp : HTTPResponse}
    {items : List ConfigItem} {t : Bool} (hconfig : getConfig resp = configText items t)
    (hnul : ∀ i ∈ items, 0 ∉ i.text) (d : Device w D) :
    checkServerConfig b now resp d = d.receive b now (items.filterMap ConfigItem.pair?) := by
  have hsplit : replyParams resp = Bindings.insertAll ∅ (items.filterMap ConfigItem.pair?) := by
    rw [replyParams, hconfig, configSplit_eq, splitOn_configText]
  have hparams : ∀ key : List Byte, (replyParams resp)[key]? =
      Bindings.last (items.filterMap ConfigItem.pair?) key := by
    intro key
    rw [hsplit, Bindings.getElem?_insertAll, Std.TreeMap.getElem?_emptyc, Option.or_none]
  have hvalues : ∀ key value : List Byte,
      Bindings.last (items.filterMap ConfigItem.pair?) key = some value → 0 ∉ value := by
    intro key value h
    obtain ⟨i, hi, hpair⟩ := List.mem_filterMap.1 (Bindings.mem_of_last h)
    cases i with
    | junk text colon bar => cases hpair
    | pair key' value' colon key_bar value_bar =>
      cases hpair
      exact fun hmem => hnul _ hi (List.mem_append_right _ (List.mem_cons_of_mem _ hmem))
  by_cases hpairs : items.filterMap ConfigItem.pair? = []
  · have hempty : (replyParams resp).isEmpty = true := by
      rw [hsplit, hpairs]
      rfl
    rw [Device.receive, if_pos hpairs, checkServerConfig]
    by_cases hnil : getConfig resp = []
    · exact if_pos hnil
    · exact (if_neg hnil).trans (if_pos hempty)
  · -- the last pair is in the map, so it has one and the body is not empty
    have hempty : (replyParams resp).isEmpty = false := by
      obtain ⟨⟨key, value⟩, pairs, heq⟩ := List.exists_cons_of_ne_nil hpairs
      refine Std.TreeMap.isEmpty_eq_false_of_contains (a := key) ?_
      rw [Std.TreeMap.contains_eq_isSome_getElem?, hparams, heq, Bindings.last, if_pos rfl]
      cases Bindings.last pairs key <;> rfl
    have hne : getConfig resp ≠ [] := by
      intro hnil
      rw [replyParams, hnil] at hempty
      cases hempty
    have hpath : (replyParams resp).getD (str "path") [] =
        (Bindings.last (items.filterMap ConfigItem.pair?) (str "path")).getD [] := by
      rw [Std.TreeMap.getD_eq_getD_getElem?, hparams]
    rw [Device.receive, if_neg hpairs]
    by_cases hup : (Bindings.last (items.filterMap ConfigItem.pair?) (str "path")).getD [] ≠ [] ∧
        b.platform.upgradeReturns = false
    · rw [if_pos hup, checkServerConfig, if_neg hne]
      dsimp only
      rw [hempty, if_neg Bool.false_ne_true, index_fst, hpath, if_pos hup]
    · have haccepts : accepts b resp = true := by
        have hok : (replyParams resp).getD (str "path") [] = [] ∨ b.platform.upgradeReturns = true := by
          rw [hpath]
          by_contra h
          rw [not_or] at h
          exact hup ⟨h.1, Bool.eq_false_iff.2 h.2⟩
        rw [accepts, hempty]
        simpa [hne] using hok
      rw [if_neg hup, checkServerConfig_of_accepts now d haccepts,
        configured_eq_adopt now hparams hvalues]

/-- The settings in the body of a `200`, whatever its head and wherever the stream is cut behind the
body, are the ones the device makes, if the body has come when it is read. -/
theorem config_delivered (hw : 0 < w) (signed : Bool) (b : Build) (now : BitVec 32) (d : Device w D)
    {r : Reply} (hcode : r.code = str "200") {items : List ConfigItem} {trailing : Bool}
    (hcontent : r.content = configText items trailing) (hnul : ∀ i ∈ items, 0 ∉ i.text)
    (hfits : r.content.length < 2 ^ (w - 1)) {more : List Byte} {seg : Segmentation}
    (hready : r.content.length ≤ r.ready more seg) :
    ∃ resp, HTTPClient.httpRequest w signed (.replied seg (r.stream more)) = some resp ∧
      checkServerConfig b now resp.toHTTPResponse d =
        d.receive b now (items.filterMap ConfigItem.pair?) := by
  obtain ⟨headers, hreply⟩ := HTTPClient.httpRequest_reply hw signed r more seg
  have htext : 0 ∉ r.content := hcontent ▸ nul_notMem_configText hnul trailing
  have hsize : r.bodySize w = r.content.length := Nat.min_eq_left (by omega)
  have hok : BitVec.ofInt 16 (strtol10 r.code) = 200 := by
    rw [hcode]
    decide
  refine ⟨_, hreply, checkServerConfig_eq_receive b now (t := trailing) ?_ hnul d⟩
  rw [getConfig]
  dsimp only
  rw [if_pos ⟨rfl, hok⟩, HTTPClient.cstr_body, cstr_of_notMem htext, hsize, Nat.min_eq_left hready,
    List.take_length, hcontent]

/-- `HTTP/1.1 200 OK` with a time server and a trace. -/
def Reply.settings : Reply where
  status := Head.unnamed.status
  headers := [⟨str "Content-Length: 26", by decide, by decide, by decide, by decide⟩]
  blank := Head.unnamed.blank
  http := Head.unnamed.http
  colon := by decide
  empty := Head.unnamed.empty
  named := by decide
  digits := [2, 6]
  digit := by decide
  decimal := by decide
  length := by decide
  content := str "ntpserver:192.0.2.1|trace:"
  counts := by decide

theorem config_delivered_settings :
    let d : Device 32 ℝ := Device.init
    ∃ resp, HTTPClient.httpRequest 32 true
        (.replied (.pieces 26 (by decide)) (Reply.settings.stream [])) = some resp ∧
      (checkServerConfig ⟨.raspi, false⟩ 0 resp.toHTTPResponse d).2.ntp.ntpserver =
        str "192.0.2.1" ∧
      (checkServerConfig ⟨.raspi, false⟩ 0 resp.toHTTPResponse d).2.trace.traceFile = true := by
  intro d
  let items : List ConfigItem :=
    [.pair (str "ntpserver") (str "192.0.2.1") (by decide) (by decide) (by decide),
      .pair (str "trace") [] (by decide) (by decide) (by decide)]
  have hcontent : Reply.settings.content = configText items false := by decide
  have hnul : ∀ i ∈ items, 0 ∉ i.text := by
    intro i hi
    rcases List.mem_cons.1 hi with rfl | hi
    · decide
    · obtain rfl := List.mem_singleton.1 hi
      decide
  obtain ⟨resp, hresp, hcheck⟩ := @config_delivered 32 ℝ _ _ (by decide) true ⟨.raspi, false⟩ 0 d
    Reply.settings (by decide) items false hcontent hnul (by decide) [] (.pieces 26 (by decide))
    (by decide)
  refine ⟨resp, hresp, ?_, ?_⟩
  · rw [hcheck]
    rfl
  · rw [hcheck]
    rfl

end Terremoti
