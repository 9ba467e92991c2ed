import Terremoti.Lib.Generations
import Terremoti.Queries
import Terremoti.Watchdog

/-!
# Log rotation (`Log::rotate`, `Log::setLogFile`, the end of `loop`)

The log is a file and a copy with the suffix `.old`, a `Generations.Store` (`store_apply`). `loop`
rotates it when 24 hours have passed since `logRotationMs`, which `setup` sets and nothing after it
(`loop_logRotationMs`): from then on every call of `loop` does. So lines are kept for a day in the
runs whose calls come a day apart once the timer is due (`log_kept_iff`). Times are nanoseconds since
`setup` has set the timer; what is done later in the program is done at a later time.
-/

namespace Terremoti

/-- A line, and when it was written. -/
abbrev LogLine := ℕ × List Byte

/-- The file at `logFilePath` and the one with `.old`. -/
structure LogFiles where
  file : Option (List LogLine)
  old : Option (List LogLine)

namespace LogFiles

/-- `Log::setLogFile`, for the path in use. -/
def setLogFile (f : LogFiles) : LogFiles :=
  let f := if f.file.isSome then { f with file := none, old := f.file } else f
  { f with file := some [] }

/-- The end of `Log::log`. -/
def write (e : LogLine) (f : LogFiles) : LogFiles := { f with file := f.file.map (· ++ [e]) }

def apply (f : LogFiles) : Generations.Op LogLine → LogFiles
  | .put e => f.write e
  | .rotate => f.setLogFile

def Present (e : LogLine) (f : LogFiles) : Prop := e ∈ f.file.getD [] ∨ e ∈ f.old.getD []

def store (f : LogFiles) : Generations.Store LogLine := ⟨f.file.getD [], f.old.getD []⟩

theorem store_apply {f : LogFiles} (h : f.file.isSome = true) (op : Generations.Op LogLine) :
    (f.apply op).store = f.store.step op ∧ (f.apply op).file.isSome = true := by
  obtain ⟨current, hfile⟩ := Option.isSome_iff_exists.1 h
  cases op with
  | put e => simp [apply, write, store, Generations.Store.step, hfile]
  | rotate => simp [apply, setLogFile, store, Generations.Store.step, hfile]

theorem store_replay {f : LogFiles} (h : f.file.isSome = true) (ops : List (Generations.Op LogLine)) :
    (ops.foldl apply f).store = f.store.replay ops := by
  induction ops generalizing f with
  | nil => rfl
  | cons op ops ih =>
    obtain ⟨hstore, hsome⟩ := store_apply h op
    rw [List.foldl_cons, ih hsome, hstore]
    rfl

end LogFiles

/-! ### The timer in a call of `loop` -/

def LOG_ROTATION_INTERVAL : ℕ := 1000 * 60 * 60 * 24

namespace Core
variable {w : ℕ} {D τ : Type}

theorem heartBeat_logRotationMs (b : Build) (i : LoopInput w D τ) (c : Core w D τ) :
    (c.heartBeat b i).logRotationMs = c.logRotationMs := by
  rcases heartBeat_cases b i c with h | ⟨t, h⟩ <;> rw [h]
  rfl

theorem checkNetwork_logRotationMs (i : LoopInput w D τ) (c : Core w D τ) :
    (c.checkNetwork i).logRotationMs = c.logRotationMs := by
  rcases checkNetwork_cases i c with ⟨s, -, h⟩ | ⟨t, h⟩ <;> rw [h]
  rfl

variable [Double D] [DoubleText D]

theorem checkConfig_logRotationMs (b : Build) (i : LoopInput w D τ) (c : Core w D τ) :
    (c.checkConfig b i).logRotationMs = c.logRotationMs := by
  rcases checkConfig_cases b i c with h | h | ⟨t, h⟩ <;> rw [h]
  rfl

/-- Nothing in `loop` sets the timer, and a call that returns has rotated the log if the timer was
due. -/
theorem loop_logRotationMs (b : Build) (tw : ℕ) (i : LoopInput w D τ)
    (attempts : List (List (Round τ))) (c : Core w D τ) :
    (c.loop b tw i attempts).core.logRotationMs = c.logRotationMs ∧
      ((c.loop b tw i attempts).returned = true → (c.loop b tw i attempts).rotated =
        due i.rotation c.logRotationMs LOG_ROTATION_INTERVAL) := by
  let P := fun c' : Core w D τ => c'.logRotationMs = c.logRotationMs
  have hbefore : P (c.beforeSync b i) :=
    beforeSync_preserves (P := P) (fun c' h => (heartBeat_logRotationMs b i c').trans h)
      (fun _ h => h) (fun c' h => (checkNetwork_logRotationMs i c').trans h)
      (fun c' h => (checkConfig_logRotationMs b i c').trans h) rfl
  have hsync : P ((c.beforeSync b i).resync tw i attempts).state :=
    resync_preserves (P := P) (fun _ _ h => h) (fun _ h => h) attempts hbefore
  unfold loop
  dsimp only
  split
  · exact ⟨hbefore, fun h => by cases h⟩
  · split
    · generalize (c.beforeSync b i).resync tw i attempts = r at hsync ⊢
      rcases finish_cases i r.calls r.state with ⟨-, h⟩ | ⟨-, h⟩ | ⟨-, -, s, t, effects, -, h⟩
      · rw [h]
        exact ⟨hsync, fun _ => by rw [hsync]; rfl⟩
      · rw [h]
        exact ⟨hsync, fun _ => by rw [hsync]; rfl⟩
      · rw [h]
        exact ⟨hsync, Bool.noConfusion⟩
    · exact ⟨hsync, fun h => by cases h⟩

end Core

/-! ### Runs -/

/-- A call of `loop`: what it reads, the lines it writes to the log, and when it tests the timer. -/
structure Pass (w : ℕ) (D τ : Type) where
  input : LoopInput w D τ
  attempts : List (List (Round τ))
  lines : List LogLine
  test : ℕ

namespace Pass
variable {w : ℕ} {D τ : Type}

def times (p : Pass w D τ) : List ℕ := p.lines.map Prod.fst ++ [p.test]

variable [Double D] [DoubleText D] (b : Build) (tw : ℕ)

/-- Every call returns. -/
def Return : Core w D τ → List (Pass w D τ) → Prop
  | _, [] => True
  | c, p :: ps =>
    (c.loop b tw p.input p.attempts).returned = true ∧
      Return (c.loop b tw p.input p.attempts).core ps

/-- What is done to the log. -/
def history : Core w D τ → List (Pass w D τ) → Generations.History LogLine
  | _, [] => []
  | c, p :: ps =>
    let t := c.loop b tw p.input p.attempts
    p.lines.map (fun e => (e.1, .put e)) ++
      ((if t.rotated then [(p.test, .rotate)] else []) ++ history t.core ps)

end Pass

def DAY : ℕ := 24 * 60 * 60 * 10 ^ 9

/-- The timer set by `setup` at time 0 is due at `t`, where the counter stood at `start`. -/
def timerDue (w : ℕ) (start : BitVec 32) (t : ℕ) : Bool :=
  due (Watchdog.millisAt start t) (start.setWidth w) LOG_ROTATION_INTERVAL

/-- Before the counter has made a full turn: after a day, or, if `unsigned long` is wider than the
counter, once the counter has passed zero. -/
theorem timerDue_iff {w : ℕ} (hw : 32 ≤ w) (start : BitVec 32) {t : ℕ} (ht : t / 10 ^ 6 < 2 ^ 32) :
    timerDue w start t = true ↔
      LOG_ROTATION_INTERVAL ≤ t / 10 ^ 6 ∨ 32 < w ∧ 2 ^ 32 ≤ start.toNat + t / 10 ^ 6 := by
  have hinterval : LOG_ROTATION_INTERVAL = 86400000 := rfl
  rw [timerDue, due, decide_eq_true_eq, Watchdog.millisAt, Counter.toNat_setWidth_read_sub hw start ht,
    hinterval]
  rcases hw.eq_or_lt with rfl | hlt
  · split <;> omega
  · have hpow : 2 ^ 33 ≤ 2 ^ w := Nat.pow_le_pow_right (by decide) hlt
    split <;> omega

/-- A run of calls of `loop` on a clock that is not set, with the log open. `last` are the lines of
a call that has not come to its end. -/
structure LogRun (b : Build) (w tw : ℕ) (D τ : Type) [Double D] [DoubleText D] where
  start : BitVec 32
  core : Core w D τ
  files : LogFiles
  passes : List (Pass w D τ)
  last : List LogLine
  setup : core.logRotationMs = start.setWidth w
  opened : files.file.isSome = true
  clock : ∀ p ∈ passes, p.input.rotation = Watchdog.millisAt start p.test
  returns : Pass.Return b tw core passes
  order : (passes.flatMap Pass.times ++ last.map Prod.fst).Pairwise (· < ·)

namespace LogRun
variable {b : Build} {w tw : ℕ} {D τ : Type} [Double D] [DoubleText D]

def lines (r : LogRun b w tw D τ) : List LogLine := r.passes.flatMap Pass.lines ++ r.last

def history (r : LogRun b w tw D τ) : Generations.History LogLine :=
  Pass.history b tw r.core r.passes ++ r.last.map fun e => (e.1, .put e)

def filesAt (r : LogRun b w tw D τ) (now : ℕ) : LogFiles :=
  (r.history.upTo now).foldl LogFiles.apply r.files

/-- A line can be read for a day. -/
def KeepsLines (r : LogRun b w tw D τ) : Prop :=
  ∀ e ∈ r.lines, ∀ now, e.1 ≤ now → now ≤ e.1 + DAY → (r.filesAt now).Present e

theorem history_times {c : Core w D τ} {passes : List (Pass w D τ)} :
    ((Pass.history b tw c passes).map Prod.fst).Sublist (passes.flatMap Pass.times) := by
  induction passes generalizing c with
  | nil => exact .slnil
  | cons p ps ih =>
    rw [Pass.history, List.map_append, List.map_append, List.flatMap_cons, Pass.times,
      List.append_assoc]
    refine List.Sublist.append ?_ (List.Sublist.append ?_ ih)
    · rw [List.map_map]
      rfl
    · split
      · exact List.Sublist.refl _
      · exact List.nil_sublist _

theorem history_increasing (r : LogRun b w tw D τ) : r.history.Increasing := by
  have htimes : (r.history.map Prod.fst).Pairwise (· < ·) := by
    refine r.order.sublist ?_
    rw [history, List.map_append]
    refine history_times.append ?_
    rw [List.map_map]
    rfl
  exact List.pairwise_map.1 htimes

theorem rotations_passes {start : BitVec 32} {c : Core w D τ} {passes : List (Pass w D τ)}
    (hsetup : c.logRotationMs = start.setWidth w)
    (hclock : ∀ p ∈ passes, p.input.rotation = Watchdog.millisAt start p.test)
    (hreturns : Pass.Return b tw c passes) :
    (Pass.history b tw c passes).rotations =
      (passes.map Pass.test).filter (timerDue w start) := by
  induction passes generalizing c with
  | nil => rfl
  | cons p ps ih =>
    obtain ⟨hclock₀, hclock⟩ := List.forall_mem_cons.1 hclock
    obtain ⟨hkeeps, hrotated⟩ := Core.loop_logRotationMs b tw p.input p.attempts c
    have hrest := ih (hkeeps.trans hsetup) hclock hreturns.2
    have hdue : (c.loop b tw p.input p.attempts).rotated = timerDue w start p.test := by
      rw [hrotated hreturns.1, hclock₀, hsetup]
      rfl
    rw [Pass.history, Generations.History.rotations_append, Generations.History.rotations_append,
      Generations.History.rotations_puts Prod.fst, hrest, hdue, List.map_cons]
    cases h : timerDue w start p.test with
    | true =>
      rw [List.filter_cons_of_pos h]
      rfl
    | false =>
      rw [List.filter_cons_of_neg (by simp [h])]
      rfl

/-- The log is rotated by the calls that find the timer due. -/
theorem rotations_history (r : LogRun b w tw D τ) :
    r.history.rotations = (r.passes.map Pass.test).filter (timerDue w r.start) := by
  rw [history, Generations.History.rotations_append, Generations.History.rotations_puts Prod.fst,
    List.append_nil, rotations_passes r.setup r.clock r.returns]

theorem mem_passes {c : Core w D τ} {passes : List (Pass w D τ)} {e : LogLine}
    (h : e ∈ passes.flatMap Pass.lines) : (e.1, .put e) ∈ Pass.history b tw c passes := by
  induction passes generalizing c with
  | nil => cases h
  | cons p ps ih =>
    rw [Pass.history]
    rw [List.flatMap_cons] at h
    rcases List.mem_append.1 h with h | h
    · exact List.mem_append_left _ (List.mem_map.2 ⟨e, h, rfl⟩)
    · exact List.mem_append_right _ (List.mem_append_right _ (ih h))

theorem mem_history {r : LogRun b w tw D τ} {e : LogLine} (h : e ∈ r.lines) :
    (e.1, .put e) ∈ r.history := by
  rcases List.mem_append.1 h with h | h
  · exact List.mem_append_left _ (mem_passes h)
  · exact List.mem_append_right _ (List.mem_map.2 ⟨e, h, rfl⟩)

/-- Lines are kept for a day, and rotations are a day apart, exactly in the runs in which the calls
that find the timer due are a day apart. -/
theorem log_kept_iff (r : LogRun b w tw D τ) :
    r.KeepsLines ∧ r.history.Spaced DAY ↔
      ((r.passes.map Pass.test).filter (timerDue w r.start)).Pairwise fun t t' => t + DAY ≤ t' := by
  rw [← rotations_history]
  refine ⟨fun h => h.2, fun hspaced => ⟨fun e he now hle hday => ?_, hspaced⟩⟩
  have hholds := Generations.History.holds_of_spaced (s := r.files.store) r.history_increasing
    hspaced (mem_history he) hle hday
  rw [← LogFiles.store_replay r.opened] at hholds
  exact hholds

end LogRun

/-! ### The second rotation -/

namespace Core
variable {D : Type} [Double D]

/-- A day after `setup`. -/
def daily (cfgLastMs : BitVec 32) : Core 32 D Unit where
  device := Device.init
  commands := []
  replies := []
  lastBeat := 86400000
  netLastMs := 86400000
  cfgLastMs := cfgLastMs
  ntpLastMs := 86400000
  seismoLastMs := 86400000
  logRotationMs := 0

/-- The server cannot be reached. -/
def offline (rotation : BitVec 32) : LoopInput 32 D Unit where
  beat := ⟨86400000, 86400000⟩
  watchdogFile := true
  arrived := []
  command := calmInput
  net := ⟨86400000, 86400000⟩
  mac_address := none
  pings := refusedPings
  cfg := ⟨86400000, 86400000⟩
  resp := ⟨.HTTP_CONNECTION_TIMEOUT, 0, none⟩
  traceStart := 86400000
  ntp := ⟨86400000, 86400000⟩
  seismo := ⟨86400000, 86400000⟩
  ts := 86400000
  accel := (0 : ℕ)
  traceTest := 86400000
  clock := ⟨86400000, 86400000, 86400000, 86400000, 86400000⟩
  rotation := rotation

/-- The configuration is due in the first call, and nothing in the second. -/
theorem loop_daily :
    (daily 85500000 : Core 32 ℝ Unit).loop ⟨.raspi, false⟩ 32 (offline 86400000) [] =
        { core := daily 86400000, syncs := 0, rotated := true, returned := true } ∧
      (daily 86400000 : Core 32 ℝ Unit).loop ⟨.raspi, false⟩ 32 (offline 86400050) [] =
        { core := daily 86400000, syncs := 0, rotated := true, returned := true } :=
  ⟨rfl, rfl⟩

end Core

/-- Two calls 50 milliseconds apart, a day after `setup`: the line the first one writes is gone. -/
theorem LogRun.not_kept_daily :
    ∃ r : LogRun ⟨.raspi, false⟩ 32 32 ℝ Unit,
      r.passes.map Pass.test = [DAY, DAY + 50 * 10 ^ 6] ∧
      r.history.rotations = [DAY, DAY + 50 * 10 ^ 6] ∧ ¬ r.history.Spaced DAY ∧
      ∃ e ∈ r.lines, e.1 = DAY - 10 ^ 6 ∧ ¬ (r.filesAt (DAY + 50 * 10 ^ 6)).Present e ∧
        ¬ r.KeepsLines := by
  obtain ⟨hfirst, hsecond⟩ := Core.loop_daily
  let e : LogLine := (DAY - 10 ^ 6, str "HTTP connection timeout")
  let passes : List (Pass 32 ℝ Unit) :=
    [⟨Core.offline 86400000, [], [e], DAY⟩, ⟨Core.offline 86400050, [], [], DAY + 50 * 10 ^ 6⟩]
  have hhistory : Pass.history ⟨.raspi, false⟩ 32 (Core.daily 85500000) passes =
      [(DAY - 10 ^ 6, .put e), (DAY, .rotate), (DAY + 50 * 10 ^ 6, .rotate)] := by
    simp only [passes, Pass.history, hfirst, hsecond]
    rfl
  have hreturns : Pass.Return ⟨.raspi, false⟩ 32 (Core.daily 85500000) passes := by
    simp only [passes, Pass.Return, hfirst, hsecond, and_self]
  let r : LogRun ⟨.raspi, false⟩ 32 32 ℝ Unit :=
    { start := 0
      core := Core.daily 85500000
      files := ⟨some [], none⟩
      passes := passes
      last := []
      setup := rfl
      opened := rfl
      clock := by
        intro p hp
        rcases List.mem_cons.1 hp with rfl | hp
        · decide
        · obtain rfl := List.mem_singleton.1 hp
          decide
      returns := hreturns
      order := by decide }
  have hr : r.history = [(DAY - 10 ^ 6, .put e), (DAY, .rotate), (DAY + 50 * 10 ^ 6, .rotate)] :=
    congrArg (· ++ []) hhistory
  have hgone : ¬ (r.filesAt (DAY + 50 * 10 ^ 6)).Present e := by
    have hfiles : r.filesAt (DAY + 50 * 10 ^ 6) = ⟨some [], some []⟩ := by
      rw [LogRun.filesAt, hr]
      rfl
    rw [hfiles]
    rintro (h | h) <;> cases h
  refine ⟨r, rfl, ?_, ?_, e, List.mem_cons_self, rfl, hgone, fun hkept => ?_⟩
  · rw [hr]
    rfl
  · rw [hr]
    decide
  · exact hgone (hkept e List.mem_cons_self _ (by decide) (by decide))

end Terremoti
