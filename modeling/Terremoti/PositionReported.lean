import Terremoti.Alerts

/-!
# A position, from the packet to the server

A device that takes a position from a `SENDGPS` packet saves it, and reads it back after every
start. Until it takes another one, its alerts give the server that position to 0.002 degrees, over
any number of calls of `loop` and of starts (`position_reported`).
-/

namespace Terremoti
open Message

/-! ### How far off a coordinate is after a reboot -/

theorem abs_micros_sub_le {neg : Bool} {m : ℕ} (h : ahead neg m ≤ 3) :
    |(micros neg m : ℚ) - m| ≤ 10 ^ 3 := by
  rw [micros, if_pos (h.trans (by omega))]
  have hdiv := Nat.div_add_mod' m (10 ^ ahead neg m)
  have hmod : m % 10 ^ ahead neg m < 10 ^ ahead neg m := Nat.mod_lt _ (by positivity)
  have hpow : 10 ^ ahead neg m ≤ 10 ^ 3 := Nat.pow_le_pow_right (by omega) h
  have hle : m ≤ m / 10 ^ ahead neg m * 10 ^ ahead neg m + 10 ^ 3 := by omega
  have hge : m / 10 ^ ahead neg m * 10 ^ ahead neg m ≤ m := Nat.div_mul_le_self m _
  rw [abs_le]
  constructor
  · have hcast : (m : ℚ) ≤ (m / 10 ^ ahead neg m * 10 ^ ahead neg m : ℕ) + 10 ^ 3 := by
      exact_mod_cast hle
    linarith
  · have hcast : ((m / 10 ^ ahead neg m * 10 ^ ahead neg m : ℕ) : ℚ) ≤ m := by exact_mod_cast hge
    linarith

/-- The printed text is half a millionth off, and the characters cut off are less than a
thousandth. -/
theorem abs_restored_sub_le {x : ℚ} (h : |x| ≤ 180) : |restored x - x| ≤ 1 / 10 ^ 3 + 1 / 10 ^ 6 := by
  obtain ⟨neg, hneg⟩ : ∃ neg, decide (x < 0) = neg := ⟨_, rfl⟩
  obtain ⟨m, hm⟩ : ∃ m, (roundHalfEven (|x| * 10 ^ 6)).toNat = m := ⟨_, rfl⟩
  have hx := printf6_eq x
  rw [hneg, hm] at hx
  have hround := abs_roundHalfEven_sub_le (|x| * 10 ^ 6)
  have hcast : ((m : ℕ) : ℚ) = (roundHalfEven (|x| * 10 ^ 6) : ℤ) := by
    have hnonneg : 0 ≤ roundHalfEven (|x| * 10 ^ 6) := by
      have hfloor : 0 ≤ ⌊|x| * 10 ^ 6⌋ := Int.floor_nonneg.2 (by positivity)
      unfold roundHalfEven
      dsimp only
      split_ifs <;> omega
    rw [← hm]
    exact_mod_cast Int.toNat_of_nonneg hnonneg
  rw [← hcast] at hround
  have hahead : ahead neg m ≤ 3 := by
    have hle : (m : ℚ) < (10 ^ 9 : ℕ) := by
      rw [abs_le] at hround
      push_cast
      linarith
    have hlog : Nat.log 10 (m / 10 ^ 6) < 3 := by
      refine Nat.log_lt_of_lt_pow' (by omega) ?_
      have hm9 : m < 10 ^ 9 := by exact_mod_cast hle
      omega
    unfold ahead
    split <;> omega
  have hcut := abs_micros_sub_le hahead
  have hsigned : x = (if neg then -1 else 1) * |x| := by
    rw [← hneg]
    by_cases hx : x < 0
    · simp [hx, abs_of_neg hx]
    · simp [hx, abs_of_nonneg (not_lt.1 hx)]
  have hsign : |(if neg then -1 else 1 : ℚ)| = 1 := by split <;> simp
  rw [restored_of_printf6 hx]
  calc |(if neg then -1 else 1) * ((micros neg m : ℚ) / 10 ^ 6) - x|
      = |(if neg then -1 else 1) * ((micros neg m : ℚ) / 10 ^ 6 - |x|)| := by
        rw [mul_sub, ← hsigned]
    _ = |(micros neg m / 10 ^ 6 - |x| : ℚ)| := by rw [abs_mul, hsign, one_mul]
    _ ≤ 1 / 10 ^ 3 + 1 / 10 ^ 6 := by
        rw [abs_le] at hcut hround ⊢
        constructor <;> linarith

variable {w : ℕ} {τ : Type} {b : Build} {hw : Fin 6 → Byte}

/-! ### As long as no other position comes -/

/-- No position for the device arrives. -/
def LoopInput.Quiet (hw : Fin 6 → Byte) (i : LoopInput w ℝ τ) : Prop :=
  ∀ m ∈ i.arrived, isPositionFor hw m = false

theorem LoopInput.Quiet.finiteGps {i : LoopInput w ℝ τ} (h : i.Quiet hw) : i.FiniteGps hw :=
  fun m hm hposition => absurd hposition (by rw [h m hm]; exact Bool.false_ne_true)

/-- The device has the configuration `config`, or what a reboot has made of it, and no position for
it waits to be read. -/
structure Holds (b : Build) (hw : Fin 6 → Byte) (config : Config ℝ) (c : Core w ℝ τ) : Prop where
  settled : Settled b hw c.device
  config : c.device.config = config ∨ c.device.config = config.stored
  commands : ∀ m ∈ c.commands, isPositionFor hw m = false

namespace Holds
variable {config : Config ℝ} {c c' : Core w ℝ τ}

theorem congr (h : Holds b hw config c) (hsettled : Settled b hw c'.device)
    (hconfig : c'.device.config = c.device.config) (hcommands : c'.commands = c.commands) :
    Holds b hw config c' :=
  ⟨hsettled, hconfig ▸ h.config, hcommands ▸ h.commands⟩

theorem halt (h : Holds b hw config c) (s : Status) : Holds b hw config (c.halt s) :=
  h.congr (h.settled.status s) rfl rfl

theorem heartBeat (h : Holds b hw config c) (i : LoopInput w ℝ τ) :
    Holds b hw config (c.heartBeat b i) := by
  rcases c.heartBeat_cases b i with hbeat | ⟨t, hbeat⟩
  · rw [hbeat]
    exact h.halt .rebooting
  · rw [hbeat]
    exact h.congr h.settled rfl rfl

theorem checkCommand (h : Holds b hw config c) {i : LoopInput w ℝ τ} (hi : i.Quiet hw) :
    Holds b hw config (c.checkCommand b i) := by
  have hquiet : ∀ m ∈ c.commands ++ i.arrived, isPositionFor hw m = false := fun m hm =>
    (List.mem_append.1 hm).elim (h.commands m) (hi m)
  have hsettled := h.settled.checkCommandPacket (τ := τ) i.command (c.commands ++ i.arrived)
  unfold Core.checkCommand
  revert hquiet hsettled
  cases c.commands ++ i.arrived with
  | nil => exact fun _ hsettled => ⟨hsettled, h.config, fun m hm => absurd hm List.not_mem_nil⟩
  | cons m queue =>
    intro hquiet hsettled
    obtain ⟨hm, hqueue⟩ := List.forall_mem_cons.1 hquiet
    have hconfig := checkCommandPacket_config b i.command
      (getMacAddressAsByte_getInterfaceMAC h.settled.id) m
    rw [hm] at hconfig
    rw [checkCommandPacket_cons] at hsettled ⊢
    refine ⟨hsettled, ?_, hqueue⟩
    rw [show (checkCommandPacket b i.command c.device [m]).1.config = _ from hconfig]
    exact h.config

theorem checkNetwork (h : Holds b hw config c) (i : LoopInput w ℝ τ) :
    Holds b hw config (c.checkNetwork i) := by
  rcases c.checkNetwork_cases i with ⟨s, -, hnet⟩ | ⟨t, hnet⟩
  · rw [hnet]
    exact h.halt s
  · rw [hnet]
    exact h.congr h.settled rfl rfl

theorem checkServerConfig (h : Holds b hw config c) (now : BitVec 32) (resp : HTTPResponse)
    (t : BitVec w) :
    Holds b hw config { c with device := (checkServerConfig b now resp c.device).2, cfgLastMs := t } :=
  h.congr (h.settled.checkServerConfig now resp) (checkServerConfig_config b now resp c.device) rfl

theorem checkConfig (h : Holds b hw config c) (i : LoopInput w ℝ τ) :
    Holds b hw config (c.checkConfig b i) := by
  rcases c.checkConfig_cases b i with hcheck | hcheck | ⟨t, hcheck⟩
  · rw [hcheck]
    exact h
  · rw [hcheck]
    exact h.halt .blocked
  · rw [hcheck]
    exact h.checkServerConfig i.traceStart i.resp t

theorem sync (h : Holds b hw config c) (tw : ℕ) (rounds : List (Round τ)) :
    Holds b hw config (c.sync tw rounds).1 :=
  h.congr (h.settled.congr rfl rfl (.inl rfl)) rfl rfl

theorem finish (h : Holds b hw config c) (i : LoopInput w ℝ τ) (syncs : ℕ) :
    Holds b hw config (c.finish i syncs).core := by
  rcases c.finish_cases i syncs with ⟨-, hfinish⟩ | ⟨-, hfinish⟩ | ⟨-, -, s, t, effects, -, hfinish⟩
  · rw [hfinish]
    exact h
  · rw [hfinish]
    exact h.congr (h.settled.congr rfl rfl (.inl rfl)) rfl rfl
  · rw [hfinish]
    exact h.congr (h.settled.congr rfl rfl (.inl rfl)) rfl rfl

theorem hear (h : Holds b hw config c) {i : LoopInput w ℝ τ} (hi : i.Quiet hw) :
    Holds b hw config (c.hear b i) :=
  Core.andThen_preserves (fun h => h.checkCommand hi) (h.heartBeat i)

/-- What holds after the command holds after the call. -/
theorem of_hear {i : LoopInput w ℝ τ} (h : Holds b hw config (c.hear b i)) (tw : ℕ)
    (attempts : List (List (Round τ))) : Holds b hw config (c.loop b tw i attempts).core := by
  have hbefore : Holds b hw config (c.beforeSync b i) :=
    Core.andThen_preserves (fun h => h.checkConfig i)
      (Core.andThen_preserves (fun h => h.checkNetwork i) h)
  have hresync : Holds b hw config ((c.beforeSync b i).resync tw i attempts).state :=
    Core.resync_preserves (fun _ rounds h => h.sync tw rounds)
      (fun _ h => h.congr h.settled rfl rfl) attempts hbefore
  unfold Core.loop
  dsimp only
  split
  · dsimp only
    exact hbefore
  split
  · exact hresync.finish i _
  · exact hresync

theorem loop (h : Holds b hw config c) (tw : ℕ) {i : LoopInput w ℝ τ} (hi : i.Quiet hw)
    (attempts : List (List (Round τ))) : Holds b hw config (c.loop b tw i attempts).core :=
  (h.hear hi).of_hear tw attempts

end Holds

theorem Saveable.withPosition {c : Config ℝ} (h : Saveable c) (m : Datagram τ) :
    Saveable (c.withPosition (some m)) :=
  ⟨h.id, h.id12, .ofFloat _, .ofFloat _⟩

/-- A call of `loop` that takes the position of `m`. -/
theorem Settled.holds_of_position {c : Core w ℝ τ} (h : Settled b hw c.device)
    (hrunning : c.device.status = .running) {i : LoopInput w ℝ τ}
    (hfile : b.watchdog = true → i.watchdogFile = true) {m : Datagram τ}
    {queue : List (Datagram τ)} (hqueue : c.commands ++ i.arrived = m :: queue)
    (hm : isPositionFor hw m = true) (hquiet : ∀ m ∈ queue, isPositionFor hw m = false) (tw : ℕ)
    (attempts : List (List (Round τ))) :
    Holds b hw (c.device.config.withPosition (some m)) (c.loop b tw i attempts).core := by
  refine Holds.of_hear ⟨h.hear i, ?_, ?_⟩ tw attempts
  all_goals
    rcases Core.hear_eq hfile hrunning with ⟨hnil, -⟩ | ⟨m', queue', hcons, hdevice, hcommands⟩
    · rw [hqueue] at hnil
      cases hnil
    obtain ⟨rfl, rfl⟩ := List.cons.inj (hqueue.symm.trans hcons)
  · left
    rw [hdevice, checkCommandPacket_config b i.command
      (getMacAddressAsByte_getInterfaceMAC h.id) m, if_pos hm]
  · rw [hcommands]
    exact hquiet

/-! ### Over starts -/

/-- A start has not come to its configuration and has left the file, or it has the configuration the
file keeps. -/
theorem Boots.setup {file : Option (List Byte)} {config : Config ℝ} (hboots : Boots hw file config)
    (tw : ℕ) {x : SetupInput w ℝ τ} (hx : x.Of hw) (hquiet : ∀ i ∈ x.waits, i.Quiet hw) :
    let s := (Core.powerOn file).setup b tw x
    s.returned = false ∧ s.core.device.file = file ∨ Holds b hw config s.core := by
  intro s
  unfold s Core.setup
  dsimp only
  cases hsearch : searchInterface 0 x.interfaces with
  | searching => exact .inl ⟨rfl, rfl⟩
  | reboot => exact .inl ⟨rfl, rfl⟩
  | found macAddress =>
    right
    obtain ⟨k, hw', rest, hinterfaces, -, rfl⟩ := searchInterface_eq_found_iff.1 hsearch
    have hw_eq : hw' = hw := by
      rcases hx.interfaces (some hw') (by simp [hinterfaces]) with h | h
      · cases h
      · exact Option.some.inj h
    rw [hw_eq]
    obtain ⟨c, hc⟩ : ∃ c : Core w ℝ τ, { Core.powerOn file with
      logRotationMs := x.start.setWidth w } = c := ⟨_, rfl⟩
    have hdevice : c.device = { Device.init with file := file } := hc ▸ rfl
    have hcommands : c.commands = [] := hc ▸ rfl
    have hboots' : Boots hw c.device.file config := by
      rw [hdevice]
      exact hboots
    obtain ⟨-, hsettled, hconfig⟩ := hboots'.loadConfig b (by rw [hdevice]; rfl)
      (by rw [hdevice]; rfl) hx.defaultInterface
    obtain ⟨config', file', hcore⟩ :=
      loadConfig_core x.defaultInterface (Utils.getInterfaceMAC (some hw)) c
    have hloaded : Holds b hw config
        (c.loadConfig x.defaultInterface (Utils.getInterfaceMAC (some hw))).core := by
      refine ⟨hsettled, .inl hconfig, ?_⟩
      rw [hcore]
      dsimp only
      rw [hcommands]
      exact List.forall_mem_nil _
    rw [hc]
    refine Setup.andThen_preserves (Setup.andThen_preserves (Setup.andThen_preserves hloaded
      fun c h => ?_) fun c h => ?_) fun c h => ?_
    · exact Retry.run_preserves (P := Holds b hw config)
        (fun c r h => h.checkServerConfig r.now r.resp c.cfgLastMs) h x.checks
    · exact (h.congr (h.settled.congr rfl rfl (.inl rfl)) rfl rfl :
        Holds b hw config c.updateLog).sync tw x.rounds
    · unfold Core.locate
      split
      · exact h
      · exact Retry.run_preserves_of_mem (P := Holds b hw config)
          (fun c i hi h => h.hear (hquiet i hi)) h

/-- What can come after `s₀` without another position: calls of `loop` and starts. -/
inductive Unmoved (b : Build) (tw : ℕ) (hw : Fin 6 → Byte) (s₀ : Setup w ℝ τ) :
    Setup w ℝ τ → Prop
  | refl : Unmoved b tw hw s₀ s₀
  | loop {s : Setup w ℝ τ} (h : Unmoved b tw hw s₀ s) (hreturned : s.returned = true)
      (hrunning : s.core.device.status = .running) {i : LoopInput w ℝ τ} (hi : i.Quiet hw)
      (attempts : List (List (Round τ))) :
      Unmoved b tw hw s₀
        ⟨(s.core.loop b tw i attempts).core, (s.core.loop b tw i attempts).returned⟩
  | restart {s : Setup w ℝ τ} (h : Unmoved b tw hw s₀ s) {x : SetupInput w ℝ τ} (hx : x.Of hw)
      (hquiet : ∀ i ∈ x.waits, i.Quiet hw) :
      Unmoved b tw hw s₀ ((Core.powerOn s.core.device.file).setup b tw x)

theorem Unmoved.life {tw : ℕ} {s₀ s : Setup w ℝ τ} (h : Unmoved b tw hw s₀ s)
    (h₀ : Life b tw hw s₀) : Life b tw hw s := by
  induction h with
  | refl => exact h₀
  | loop h hreturned hrunning hi attempts ih =>
    exact ih.loop hreturned hrunning _ hi.finiteGps attempts
  | restart h hx hquiet ih => exact ih.restart _ hx

/-- What a start finds in the file. -/
theorem Holds.boots (hrelease : b.debug = false) {config : Config ℝ} (hsaveable : Saveable config)
    {c : Core w ℝ τ} (h : Holds b hw config c) : Boots hw c.device.file config.stored := by
  have hboots := h.settled.boots.resolve_right fun h => by simp [hrelease] at h
  rcases h.config with hconfig | hconfig
  · rwa [hconfig] at hboots
  · rwa [hconfig, hsaveable.stored_stored] at hboots

/-- A start either comes to the position or leaves it in the file. -/
theorem Unmoved.holds (hrelease : b.debug = false) {tw : ℕ} {config : Config ℝ}
    (hsaveable : Saveable config) {s₀ s : Setup w ℝ τ} (h : Unmoved b tw hw s₀ s)
    (h₀ : Holds b hw config s₀.core) :
    s.returned = false ∧ Boots hw s.core.device.file config.stored ∨ Holds b hw config s.core := by
  induction h with
  | refl => exact .inr h₀
  | loop h hreturned hrunning hi attempts ih =>
    rcases ih with ⟨hfalse, -⟩ | ih
    · rw [hfalse] at hreturned
      cases hreturned
    · right
      dsimp only
      exact ih.loop tw hi attempts
  | @restart s h x hx hquiet ih =>
    have hboots : Boots hw s.core.device.file config.stored :=
      ih.elim (·.2) (·.boots hrelease hsaveable)
    rcases hboots.setup tw hx hquiet with ⟨hfalse, hfile⟩ | hholds
    · left
      rw [hfile]
      exact ⟨hfalse, hboots⟩
    · right
      refine ⟨hholds.settled, .inr ?_, hholds.commands⟩
      rcases hholds.config with hconfig | hconfig
      · exact hconfig
      · rw [hconfig, hsaveable.stored_stored]

/-! ### What the server reads -/

/-- A coordinate in degrees, as a single. -/
structure Degrees (bits : BitVec 32) : Prop where
  finite : FiniteSingle bits
  bound : |ofFloatRat bits| ≤ 180

/-- The server reads the id and the position, to 0.002 degrees. -/
def PositionRead (hw : Fin 6 → Byte) (lat lon : ℚ) (m : Request) : Prop :=
  ∃ slat slon tsstart, form m.body =
      [some (str "deviceid", Utils.getInterfaceMAC (some hw)), some (str "lat", slat),
        some (str "lon", slon), some (str "tsstart", tsstart)] ∧
    |atofRat slat - lat| ≤ 2 / 10 ^ 3 ∧ |atofRat slon - lon| ≤ 2 / 10 ^ 3

theorem abs_sub_le_of_near {q r s : ℚ} (hq : |q| ≤ 180) (hr : |r - q| ≤ 1 / 10 ^ 3 + 1 / 10 ^ 6)
    (hs : |(s : ℝ) - r| ≤ |(r : ℝ)| * (5 / 10 ^ 6)) : |s - q| ≤ 2 / 10 ^ 3 := by
  have hs' : |s - r| ≤ |r| * (5 / 10 ^ 6) := by
    rw [← Rat.cast_le (K := ℝ)]
    push_cast
    exact hs
  have hr' : |r| ≤ 181 := by
    rw [abs_le] at hq hr ⊢
    constructor <;> linarith
  calc |s - q| ≤ |s - r| + |r - q| := abs_sub_le s r q
    _ ≤ 181 * (5 / 10 ^ 6) + (1 / 10 ^ 3 + 1 / 10 ^ 6) := by linarith
    _ ≤ 2 / 10 ^ 3 := by norm_num

theorem abs_lt_of_near {q r : ℚ} (hq : |q| ≤ 180) (hr : |r - q| ≤ 1 / 10 ^ 3 + 1 / 10 ^ 6) :
    |(r : ℝ)| < 10 ^ 5 := by
  have hbound : |r| < 10 ^ 5 := by
    rw [abs_le] at hq hr
    rw [abs_lt]
    constructor <;> linarith
  exact_mod_cast hbound

/-- The coordinates of a device that has taken a position. -/
theorem Holds.near {config : Config ℝ} {m : Datagram τ} {c : Core w ℝ τ}
    (h : Holds b hw (config.withPosition (some m)) c)
    (hlat : Degrees (Utils.singleAt m.data 12)) (hlon : Degrees (Utils.singleAt m.data 16)) :
    ∃ lat lon : ℚ, c.device.config.lat = lat ∧ c.device.config.lon = lon ∧
      |lat - ofFloatRat (Utils.singleAt m.data 12)| ≤ 1 / 10 ^ 3 + 1 / 10 ^ 6 ∧
      |lon - ofFloatRat (Utils.singleAt m.data 16)| ≤ 1 / 10 ^ 3 + 1 / 10 ^ 6 := by
  rcases h.config with hconfig | hconfig
  · refine ⟨_, _, congrArg Config.lat hconfig, congrArg Config.lon hconfig, ?_, ?_⟩ <;>
      · rw [sub_self, abs_zero]
        norm_num
  · refine ⟨_, _, (congrArg Config.lat hconfig).trans (Coordinate.atofn_printf _),
      (congrArg Config.lon hconfig).trans (Coordinate.atofn_printf _),
      abs_restored_sub_le hlat.bound, abs_restored_sub_le hlon.bound⟩

/-- The server reads the alerts of a call of `loop`, to 0.002 degrees of the position of `m`, exactly
if the connection is made. -/
def PositionsRead (hw : Fin 6 → Byte) (m : Datagram τ) (t : Turn w ℝ τ) : Prop :=
  cstr t.core.device.baseUrl ≠ str "http://" →
    ∀ effects, t.tick = some effects → ∀ db ∈ Seismometer.alerts effects,
      ∀ connected, ∃ sent, t.core.device.httpSendAlert connected db = some sent ∧
        ((∃ msg, (∀ rest, parse (Tcp.written sent ++ rest) = some (msg, rest)) ∧
          PositionRead hw (ofFloatRat (Utils.singleAt m.data 12))
            (ofFloatRat (Utils.singleAt m.data 16)) msg) ↔ connected = true)

theorem Holds.positionsRead (hw32 : 32 ≤ w) (hw64 : w ≤ 64) {config : Config ℝ} {m : Datagram τ}
    (hlat : Degrees (Utils.singleAt m.data 12)) (hlon : Degrees (Utils.singleAt m.data 16))
    {t : Turn w ℝ τ} (h : Holds b hw (config.withPosition (some m)) t.core)
    (hknown : KnownBase t.core.device) : PositionsRead hw m t := by
  intro hbase effects htick db hdb connected
  obtain ⟨lat, lon, hlat', hlon', hnearlat, hnearlon⟩ := h.near hlat hlon
  have hplaced : t.core.device.config.Placed := by
    refine ⟨?_, ?_⟩
    · rw [hlat']
      exact abs_lt_of_near hlat.bound hnearlat
    · rw [hlon']
      exact abs_lt_of_near hlon.bound hnearlon
  obtain ⟨sent, hsent, hread⟩ :=
    httpSendAlert_sent hw32 hw64 (hknown.resolve_right hbase) h.settled.id h.settled.saveable
      hplaced db connected
  refine ⟨sent, hsent, fun ⟨msg, hparse, _⟩ => ?_, fun hconnected => ?_⟩
  · cases connected with
    | true => rfl
    | false =>
      obtain ⟨sent', -, rfl⟩ := Option.map_eq_some_iff.1 hsent
      cases hparse []
  · obtain ⟨msg, hparse, halert⟩ := hread.2 hconnected
    obtain ⟨slat, slon, tsstart, hvalues, hslat, hslon, -⟩ := halert.values
    rw [hlat'] at hslat
    rw [hlon'] at hslon
    exact ⟨msg, hparse, slat, slon, tsstart, hvalues,
      abs_sub_le_of_near hlat.bound hnearlat hslat, abs_sub_le_of_near hlon.bound hnearlon hslon⟩

/-- After a call of `loop` has taken a position in degrees, the server reads it to 0.002 degrees in
every alert, over any calls of `loop` and starts without another position, as long as the base URL
has not been cleared. -/
theorem position_reported (hw32 : 32 ≤ w) (hw64 : w ≤ 64) (hrelease : b.debug = false) {tw : ℕ}
    {s : Setup w ℝ τ} (h : Life b tw hw s) (hreturned : s.returned = true)
    (hrunning : s.core.device.status = .running) {i : LoopInput w ℝ τ}
    (hfile : b.watchdog = true → i.watchdogFile = true) {m : Datagram τ} {queue : List (Datagram τ)}
    (hqueue : s.core.commands ++ i.arrived = m :: queue) (hm : isPositionFor hw m = true)
    (hquiet : ∀ m ∈ queue, isPositionFor hw m = false)
    (hlat : Degrees (Utils.singleAt m.data 12)) (hlon : Degrees (Utils.singleAt m.data 16))
    (attempts : List (List (Round τ))) {s' : Setup w ℝ τ}
    (hunmoved : Unmoved b tw hw ⟨(s.core.loop b tw i attempts).core,
      (s.core.loop b tw i attempts).returned⟩ s') (hreturned' : s'.returned = true)
    {i' : LoopInput w ℝ τ} (hi' : i'.Quiet hw) (attempts' : List (List (Round τ))) :
    PositionsRead hw m (s'.core.loop b tw i' attempts') := by
  have hsettled : Settled b hw s.core.device := by
    rcases h.settled with hs | hs
    · rw [hs.returned] at hreturned
      cases hreturned
    · exact hs
  have hfinite : i.FiniteGps hw := by
    intro m' hm' hposition
    rcases List.mem_cons.1 (hqueue ▸ List.mem_append_right s.core.commands hm') with rfl | hm'
    · exact ⟨hlat.finite, hlon.finite⟩
    · rw [hquiet m' hm'] at hposition
      cases hposition
  have hlife := hunmoved.life (h.loop hreturned hrunning i hfinite attempts)
  have hholds := hsettled.holds_of_position hrunning hfile hqueue hm hquiet tw attempts
  rcases hunmoved.holds hrelease (hsettled.saveable.withPosition m) (by dsimp only; exact hholds) with
    ⟨hfalse, -⟩ | hlast
  · rw [hfalse] at hreturned'
    cases hreturned'
  · exact (hlast.loop tw hi' attempts').positionsRead hw32 hw64 hlat hlon
      (hlife.knownBase.loop tw i' attempts')

/-- A start the server replies to, and a packet with a position comes. -/
noncomputable def placedStart (arrived : List (Datagram Unit)) : SetupInput 32 ℝ Unit where
  start := 0
  interfaces := [some ![2, 4, 6, 8, 10, 12]]
  defaultInterface := some ![2, 4, 6, 8, 10, 12]
  checks := [⟨0, 0, TraceRun.reply "sigma:4"⟩]
  rounds := []
  waits := [{ (Core.alone 0).input with arrived := arrived }]

theorem placedStart_of {arrived : List (Datagram Unit)} (hfinite : ∀ m ∈ arrived,
      isPositionFor ![2, 4, 6, 8, 10, 12] m = true → FiniteGps m) :
    (placedStart arrived).Of ![2, 4, 6, 8, 10, 12] :=
  ⟨fun _ hm => .inr (List.mem_singleton.1 hm), .inr rfl, fun i hi => by
    rw [List.mem_singleton.1 hi]
    exact hfinite⟩

theorem provides_placedStart {arrived : List (Datagram Unit)} {c : Core 32 ℝ Unit}
    (hntp : c.device.ntp = NTP.init) {config : Config ℝ}
    (hinit : c.device.config.init (some ![2, 4, 6, 8, 10, 12]) c.device.file = some config)
    (hplaced : config.hasPosition = true ∨
      Retry.Reaches (fun e : Received 32 Unit => Places ℝ (config.named (Utils.getInterfaceMAC
        (some ![2, 4, 6, 8, 10, 12]))).getMacAddressAsByte e.datagram) (Stops ⟨.raspi, false⟩)
        (Core.heard c.commands (placedStart arrived).waits)) :
    Provides ⟨.raspi, false⟩ 32 (placedStart arrived) c ![2, 4, 6, 8, 10, 12] config
      ⟨0, 0, TraceRun.reply "sigma:4"⟩ := by
  have hname : (replyParams (TraceRun.reply "sigma:4")).getD (str "ntpserver") [] = [] := by decide
  refine ⟨⟨0, [], rfl, by decide⟩, hinit, ⟨[], [], rfl, List.forall_mem_nil _, by decide⟩, ?_,
    hplaced⟩
  rw [hname, hntp]
  rfl

theorem finiteGps_gps : FiniteGps gps where
  lat := by
    unfold FiniteSingle
    decide +kernel
  lon := by
    unfold FiniteSingle
    decide +kernel

noncomputable def placedFirst : Setup 32 ℝ Unit :=
  (Core.powerOn none : Core 32 ℝ Unit).setup ⟨.raspi, false⟩ 32 (placedStart [gps])

/-- The first start takes the position, and all packets are read. -/
theorem placedFirst_started : placedFirst.returned = true ∧
    placedFirst.core.device.status = .running ∧ placedFirst.core.commands = [] := by
  let hw : Fin 6 → Byte := ![2, 4, 6, 8, 10, 12]
  let config : Config ℝ := Config.loadDefault (some hw)
  have hid : (config.named (Utils.getInterfaceMAC (some hw))).getMacAddressAsByte = hw := by
    refine getMacAddressAsByte_getInterfaceMAC ?_
    rw [Config.named]
    split <;> rfl
  have hprovides : Provides ⟨.raspi, false⟩ 32 (placedStart [gps])
      (Core.powerOn none : Core 32 ℝ Unit) hw config ⟨0, 0, TraceRun.reply "sigma:4"⟩ := by
    refine provides_placedStart rfl rfl (.inr ?_)
    rw [hid]
    exact ⟨[], ⟨calmInput, gps⟩, [], rfl, places_gps, by simp⟩
  have hreturned : placedFirst.returned = true :=
    Core.provides_returned hprovides rfl fun i hi hbeats => Bool.noConfusion hbeats
  refine ⟨hreturned, (Core.setup_post rfl hreturned).1, ?_⟩
  obtain ⟨c₁, hrunning, -, hcommands, hsetup⟩ := Core.setup_eq_locate (b := ⟨.raspi, false⟩) 32 rfl
    hprovides.interface hprovides.loaded hprovides.accepted
  have hnone : c₁.commands = [] := hcommands
  rw [show placedFirst = _ from hsetup] at hreturned ⊢
  rw [Setup.andThen, if_pos (Setup.andThen_returned.1 hreturned).1, Core.locate]
  split
  · exact hnone
  · have hheard : (c₁.hear ⟨.raspi, false⟩
        { (Core.alone 0).input with arrived := [gps] }).commands = [] := by
      rcases Core.hear_eq (b := ⟨.raspi, false⟩)
        (i := { (Core.alone 0).input with arrived := [gps] }) (fun h => Bool.noConfusion h)
        hrunning with ⟨-, -, h⟩ | ⟨m, queue, h, -, hqueue⟩
      · exact h
      · rw [hnone] at h
        rw [hqueue]
        exact (List.cons.inj h).2.symm
    simp only [placedStart, Setup.ofRun, Retry.run, Core.awaitPosition]
    split <;> exact (congrArg Core.commands (Prod.mk.inj ‹_›).1.symm).trans hheard

theorem hasPosition_stored_gps (c : Config ℝ) :
    (c.withPosition (some gps)).stored.hasPosition = true := by
  obtain ⟨hlat, hlon⟩ := ofFloatRat_gps
  have hlat' : restored (83 / 2) = 83 / 2 := by decide +kernel
  have hlon' : restored (25 / 2) = 25 / 2 := by decide +kernel
  rw [Config.hasPosition, Bool.and_eq_true]
  constructor
  · rw [show (c.withPosition (some gps)).stored.lat = _ from Coordinate.atofn_printf _, hlat, hlat']
    exact decide_eq_true (by norm_num)
  · rw [show (c.withPosition (some gps)).stored.lon = _ from Coordinate.atofn_printf _, hlon, hlon']
    exact decide_eq_true (by norm_num)

/-- A call of `loop` with the position once more. -/
noncomputable def placedAgain : LoopInput 32 ℝ Unit :=
  { (Core.alone 100).input with arrived := [gps] }

/-- The device takes a position, starts again and goes on. -/
theorem position_reported_restarted :
    let taken := placedFirst.core.loop ⟨.raspi, false⟩ 32 placedAgain []
    let second := (Core.powerOn taken.core.device.file).setup ⟨.raspi, false⟩ 32 (placedStart [])
    PositionsRead ![2, 4, 6, 8, 10, 12] gps (second.core.loop ⟨.raspi, false⟩ 32 shaken []) := by
  intro taken second
  obtain ⟨hreturned, hrunning, hcommands⟩ := placedFirst_started
  have hlife : Life ⟨.raspi, false⟩ 32 ![2, 4, 6, 8, 10, 12] placedFirst :=
    .start _ (placedStart_of fun m hm _ => List.mem_singleton.1 hm ▸ finiteGps_gps)
  have hbeats : (⟨.raspi, false⟩ : Build).watchdog = true → placedAgain.watchdogFile = true :=
    fun h => Bool.noConfusion h
  have hqueue : placedFirst.core.commands ++ placedAgain.arrived = gps :: [] := by
    rw [hcommands, List.nil_append, placedAgain]
  obtain ⟨hlat, hlon⟩ := ofFloatRat_gps
  have hquiet : ∀ m ∈ ([] : List (Datagram Unit)), isPositionFor ![2, 4, 6, 8, 10, 12] m = false :=
    List.forall_mem_nil _
  have hwaits : ∀ i ∈ (placedStart []).waits, i.Quiet ![2, 4, 6, 8, 10, 12] := by
    intro i hi
    rw [List.mem_singleton.1 hi]
    exact hquiet
  have hshaken : shaken.Quiet ![2, 4, 6, 8, 10, 12] := hquiet
  have hsettled : Settled ⟨.raspi, false⟩ ![2, 4, 6, 8, 10, 12] placedFirst.core.device := by
    rcases hlife.settled with hs | hs
    · rw [hs.returned] at hreturned
      cases hreturned
    · exact hs
  have hholds : Holds ⟨.raspi, false⟩ ![2, 4, 6, 8, 10, 12]
      (placedFirst.core.device.config.withPosition (some gps)) taken.core :=
    hsettled.holds_of_position hrunning hbeats hqueue places_gps.addressed hquiet 32 []
  obtain ⟨config, hinit, hnamed⟩ :=
    (hholds.boots rfl (hsettled.saveable.withPosition gps)).init (.inr rfl)
  have hposition : config.hasPosition = true := by
    rw [← Config.named_hasPosition, hnamed]
    exact hasPosition_stored_gps _
  have hreturned' : second.returned = true :=
    Core.provides_returned (provides_placedStart rfl hinit (.inl hposition)) rfl fun _ _ h =>
      Bool.noConfusion h
  have hunmoved : Unmoved ⟨.raspi, false⟩ 32 ![2, 4, 6, 8, 10, 12]
      ⟨taken.core, taken.returned⟩ second :=
    .restart .refl (placedStart_of (List.forall_mem_nil _)) hwaits
  exact position_reported le_rfl (by decide) rfl hlife hreturned hrunning hbeats hqueue
    places_gps.addressed hquiet ⟨finiteGps_gps.lat, by rw [hlat]; norm_num [abs_le]⟩
    ⟨finiteGps_gps.lon, by rw [hlon]; norm_num [abs_le]⟩ [] hunmoved hreturned' hshaken []

end Terremoti
