import Terremoti.DescriptorRuns
import Terremoti.Trace

/-!
# Traces in a run (`setup`, `loop`)

`TraceRun` is a run from `setup` on: the checks of the configuration up to the first that is
accepted, the synchronisation after it, commands, and then calls of `loop`. Its calls of
`TraceAccumulator` are read off the functions that make them, each with the real time it comes at
(`TraceRun.ops`); what they make of the trace is what the functions make of it
(`TraceRun.trace_eq`). In a run every trace covers its window exactly if every trace is timely
(`TraceRun.traces_covered_iff`). One that the first configuration requests, before the first
synchronisation, is not (`TraceRun.requestedAtSetup_uncovered`).
-/

namespace Terremoti

variable {w : ℕ} {D τ : Type}

/-! ### The calls of `TraceAccumulator` -/

/-- `setTrace(true)` in `checkCommandPacket`. -/
def commandOps (b : Build) (time : ℕ) (i : CommandInput w) (ntp : NTP w)
    (queue : List (Datagram τ)) : List (TraceOp w) :=
  match (Udp.receive PACKET_SIZE queue).1.bind (readPacket i.pkt) with
  | some pkt => if b.debug = true ∧ pkt.type = .TRACE then [.setTrace ⟨time, ntp, i.now⟩] else []
  | none => []

/-- `setTrace(true)` in `checkServerConfig`. -/
def configOps (b : Build) (time : ℕ) (now : BitVec 32) (resp : HTTPResponse) (ntp : NTP w) :
    List (TraceOp w) :=
  if accepts b resp = true ∧ (replyParams resp).contains (str "trace") = true then
    [.setTrace ⟨time, ntp, now⟩]
  else []

section Tick
variable [DoubleText D]

/-- The record that is written for a call of `traceValue`. -/
def Effect.record : Effect w D → Option (Record w)
  | .traceValue ts val threshold avg stddev sigma => some
    ⟨ts, DoubleText.toFloat val, DoubleText.toFloat threshold, DoubleText.toFloat avg,
      DoubleText.toFloat stddev, DoubleText.toFloat sigma⟩
  | _ => none

variable [Double D]

/-- `traceValue` in `tick`. -/
def Core.tickOps (time : ℕ) (i : LoopInput w D τ) (c : Core w D τ) : List (TraceOp w) :=
  ((c.tick i).2.filterMap Effect.record).map
    (.traceValue ⟨time, c.device.ntp, i.traceTest⟩)

theorem Seismometer.detect_record (i : TickInput w D) (s₀ s : Seismometer w D) :
    (detect i s₀ s).2.filterMap Effect.record = [] := by
  unfold detect
  dsimp only
  split <;> rfl

/-- A tick hands one sample to the trace. -/
theorem Seismometer.tick_record (i : TickInput w D) {s : Seismometer w D} (h : s.accelero = true) :
    ∃ record, (s.tick i).2.filterMap Effect.record = [record] := by
  refine ⟨⟨i.ts, DoubleText.toFloat i.accel, DoubleText.toFloat s.quakeThreshold,
    DoubleText.toFloat s.getCurrentAVG, DoubleText.toFloat s.getCurrentSTDDEV,
    DoubleText.toFloat s.getSigmaIter⟩, ?_⟩
  unfold tick
  rw [if_neg (by simp [h])]
  dsimp only
  split
  · exact congrArg (List.cons _) (detect_record _ _ _)
  split
  · rfl
  · exact congrArg (List.cons _) (detect_record _ _ _)

end Tick

/-- A call of `loop`, with the real time of the command, of the check of the configuration and of
the tick. -/
structure TimedCall (w : ℕ) (D τ : Type) where
  input : LoopInput w D τ
  attempts : List (List (Round τ))
  commandTime : ℕ
  configTime : ℕ
  tickTime : ℕ

namespace Core
variable [Double D] [DoubleText D]

/-- The heartbeat and the command. -/
def hear (b : Build) (i : LoopInput w D τ) (c : Core w D τ) : Core w D τ :=
  (c.heartBeat b i).andThen (checkCommand b i)

def hearOps (b : Build) (x : TimedCall w D τ) (c : Core w D τ) : List (TraceOp w) :=
  let c := c.heartBeat b x.input
  if c.device.status = .running then
    commandOps b x.commandTime x.input.command c.device.ntp (c.commands ++ x.input.arrived)
  else []

/-- The calls of `TraceAccumulator` before the time synchronisation. -/
def beforeSyncOps (b : Build) (x : TimedCall w D τ) (c : Core w D τ) : List (TraceOp w) :=
  let c' := (c.hear b x.input).andThen (checkNetwork x.input)
  c.hearOps b x ++
    if c'.device.status = .running ∧
        due x.input.cfg.test c'.cfgLastMs CHECK_CONFIG_INTERVAL = true ∧
        x.input.waits.config = false then
      configOps b x.configTime x.input.traceStart x.input.resp c'.device.ntp
    else []

/-- The calls of `TraceAccumulator` in a call of `loop`. -/
def traceOps (b : Build) (tw : ℕ) (x : TimedCall w D τ) (c : Core w D τ) : List (TraceOp w) :=
  let c' := c.beforeSync b x.input
  let r := c'.resync tw x.input x.attempts
  c.beforeSyncOps b x ++
    if c'.device.status = .running ∧ r.returned = true ∧
        due x.input.seismo.test r.state.seismoLastMs SEISMOMETER_TICK_INTERVAL = true then
      r.state.tickOps x.tickTime x.input
    else []

end Core

/-! ### Runs -/

/-- A call of `checkServerConfig` in `setup`; `now` is the clock when a trace starts. -/
structure Check where
  time : ℕ
  now : BitVec 32
  resp : HTTPResponse

/-- A run under way: the calls of `TraceAccumulator` so far, and whether the last step has
returned. -/
structure Traced (w : ℕ) (D τ : Type) where
  core : Core w D τ
  ops : List (TraceOp w)
  returned : Bool

namespace Traced
variable [Double D] [DoubleText D]

/-- Go on if the last step has returned. -/
def andThen (s : Traced w D τ) (f : Traced w D τ → Traced w D τ) : Traced w D τ :=
  if s.returned = true then f s else s

def checkServerConfig (b : Build) (s : Traced w D τ) (x : Check) : Traced w D τ :=
  s.andThen fun s =>
    let r := Terremoti.checkServerConfig b x.now x.resp s.core.device
    { core := { s.core with device := r.2 }
      ops := s.ops ++ configOps b x.time x.now x.resp s.core.device.ntp
      returned := r.1.isSome }

/-- The call of `sync` in `setup`, whatever it returns. -/
def sync (tw : ℕ) (rounds : List (Round τ)) (s : Traced w D τ) : Traced w D τ :=
  s.andThen fun s =>
    let r := s.core.sync tw rounds
    { s with core := r.1, returned := r.2.isSome }

/-- The heartbeat and the command of `x`, while `setup` waits for a position. -/
def wait (b : Build) (s : Traced w D τ) (x : TimedCall w D τ) : Traced w D τ :=
  s.andThen fun s =>
    let c := s.core.hear b x.input
    { core := c, ops := s.ops ++ s.core.hearOps b x
      returned := decide (c.device.status = .running) }

def loop (b : Build) (tw : ℕ) (s : Traced w D τ) (x : TimedCall w D τ) : Traced w D τ :=
  s.andThen fun s =>
    let t := s.core.loop b tw x.input x.attempts
    { core := t.core, ops := s.ops ++ s.core.traceOps b tw x, returned := t.returned }

end Traced

/-- A run from the first check of the configuration on: `refused` are the checks that fail, `rounds`
what `sync` meets, and `waits` the turns in which there is no position yet. -/
structure TraceRun (b : Build) (w : ℕ) (D τ : Type) where
  core : Core w D τ
  refused : List Check
  accepted : Check
  rounds : List (Round τ)
  waits : List (TimedCall w D τ)
  calls : List (TimedCall w D τ)
  ntp : core.device.ntp = NTP.init
  trace : core.device.trace = Tracer.init.toTraceAccumulator
  refuses : ∀ c ∈ refused, accepts b c.resp = false
  accepts : accepts b accepted.resp = true

/-! ### The device and its trace -/

section Device
variable [DoubleText D]

theorem handlePacket_trace (b : Build) (i : CommandInput w) (d : Device w D) (pkt : PACKET) :
    (handlePacket b i d pkt).device.trace =
      if b.debug = true ∧ pkt.type = .TRACE then d.trace.start (d.ntp.getUNIXTime i.now)
      else d.trace := by
  rcases handlePacket_cases b i d pkt with ⟨hlog, hd⟩ | ⟨htrace, hd⟩ | ⟨-, htrace, hd⟩
  · rw [hd, if_neg fun h => by rw [hlog] at h; cases h.2]
  · rw [hd, if_pos htrace]
    rfl
  · rw [if_neg htrace]
    refine hd.keeps (f := Device.trace) (fun d lon => ?_) (fun d lat => ?_) (fun _ _ => rfl)
      fun _ => rfl
    · rw [Device.setLongitude, Device.save_trace]
    · rw [Device.setLatitude, Device.save_trace]

theorem checkCommandPacket_trace (b : Build) (time : ℕ) (i : CommandInput w) (d : Device w D)
    (queue : List (Datagram τ)) : (checkCommandPacket b i d queue).1.trace =
      (commandOps b time i d.ntp queue).foldl TraceAccumulator.apply d.trace := by
  rw [checkCommandPacket, commandOps]
  dsimp only
  cases (Udp.receive PACKET_SIZE queue).1.bind (readPacket i.pkt) with
  | none => rfl
  | some pkt =>
    dsimp only
    rw [handlePacket_trace]
    split <;> rfl

theorem checkCommandPacket_accelero (b : Build) (i : CommandInput w) (d : Device w D)
    (queue : List (Datagram τ)) :
    (checkCommandPacket b i d queue).1.seismometer.accelero = d.seismometer.accelero := by
  let P := fun d' : Device w D => d'.seismometer.accelero = d.seismometer.accelero
  have hpacket : ∀ pkt, P (handlePacket b i d pkt).device := fun pkt =>
    handlePacket_preserves (P := P) b i d
      (fun _ _ h => by simpa [P, Device.setLongitude] using h)
      (fun _ _ h => by simpa [P, Device.setLatitude] using h)
      (fun _ _ h => h) (fun _ _ h => h) (fun _ h => h) (fun _ h => h) pkt rfl
  exact checkCommandPacket_preserves (P := P) b i d hpacket rfl queue

variable [Double D]

theorem checkServerConfig_accelero (b : Build) (now : BitVec 32) (resp : HTTPResponse)
    (d : Device w D) :
    (checkServerConfig b now resp d).2.seismometer.accelero = d.seismometer.accelero := by
  let P := fun d' : Device w D => d'.seismometer.accelero = d.seismometer.accelero
  have hconfigured : P (configured now (replyParams resp) d) :=
    configured_preserves (P := P) (fun _ _ h => h) (fun _ _ h => h) (fun _ _ h => h)
      (fun _ h => h) (fun _ h => h) _ rfl
  exact checkServerConfig_preserves (P := P) hconfigured rfl rfl

theorem configured_trace (now : BitVec 32) (params : Params) (d : Device w D) :
    (configured now params d).trace =
      if params.contains (str "trace") = true then d.trace.start (d.ntp.getUNIXTime now)
      else d.trace := by
  simp only [configured]
  split <;> split <;> split <;> rfl

theorem checkServerConfig_trace (b : Build) (time : ℕ) (now : BitVec 32) (resp : HTTPResponse)
    (d : Device w D) : (checkServerConfig b now resp d).2.trace =
      (configOps b time now resp d.ntp).foldl TraceAccumulator.apply d.trace := by
  rw [configOps]
  cases haccepts : accepts b resp with
  | true =>
    rw [checkServerConfig_of_accepts now d haccepts, configured_trace]
    split_ifs with htrace hboth hboth
    · rfl
    · exact absurd ⟨rfl, htrace⟩ hboth
    · exact absurd hboth.2 htrace
    · rfl
  | false =>
    rw [if_neg (fun h => nomatch h.1)]
    rcases checkServerConfig_of_not_accepts now d haccepts with h | h <;> rw [h] <;> rfl

end Device

namespace Core

theorem heartBeat_trace (b : Build) (i : LoopInput w D τ) (c : Core w D τ) :
    (c.heartBeat b i).device.trace = c.device.trace :=
  heartBeat_device (P := fun d => d.trace = c.device.trace) b i (fun _ h => h) rfl

theorem resync_trace (tw : ℕ) (i : LoopInput w D τ) (attempts : List (List (Round τ)))
    (c : Core w D τ) : (c.resync tw i attempts).state.device.trace = c.device.trace :=
  resync_preserves (P := fun c' : Core w D τ => c'.device.trace = c.device.trace)
    (fun _ _ h => h) (fun _ h => h) attempts rfl

theorem tick_accelero [Double D] (i : LoopInput w D τ) (c : Core w D τ) :
    (c.tick i).1.device.seismometer.accelero = c.device.seismometer.accelero := by
  rw [tick]
  exact Seismometer.tick_accelero _ _

variable [DoubleText D]

theorem andThen_checkCommand_trace (b : Build) (time : ℕ) (i : LoopInput w D τ) (c : Core w D τ) :
    (c.andThen (checkCommand b i)).device.trace =
      (if c.device.status = .running then
        commandOps b time i.command c.device.ntp (c.commands ++ i.arrived) else []).foldl
        TraceAccumulator.apply c.device.trace := by
  unfold andThen
  split
  · exact checkCommandPacket_trace b time i.command c.device _
  · rfl

theorem hear_trace (b : Build) (x : TimedCall w D τ) (c : Core w D τ) :
    (c.hear b x.input).device.trace =
      (c.hearOps b x).foldl TraceAccumulator.apply c.device.trace := by
  rw [hear, andThen_checkCommand_trace b x.commandTime, heartBeat_trace]
  rfl

variable [Double D]

theorem tickOps_eq (time : ℕ) (i : LoopInput w D τ) (c : Core w D τ) :
    (c.device.seismometer.accelero = false ∧ c.tickOps time i = []) ∨
      (c.device.seismometer.accelero = true ∧
        ∃ record, c.tickOps time i = [.traceValue ⟨time, c.device.ntp, i.traceTest⟩ record]) := by
  cases haccelero : c.device.seismometer.accelero with
  | false =>
    refine .inl ⟨rfl, ?_⟩
    rw [tickOps, tick, Seismometer.tick, if_pos haccelero]
    rfl
  | true =>
    obtain ⟨record, hrecord⟩ := Seismometer.tick_record
      ⟨c.device.ntp.getUNIXTime i.ts, i.accel, i.clock⟩ haccelero
    refine .inr ⟨rfl, record, ?_⟩
    rw [tickOps, tick]
    dsimp only
    rw [hrecord]
    rfl

theorem tick_trace (time : ℕ) (i : LoopInput w D τ) (c : Core w D τ) :
    (c.tick i).1.device.trace =
      (c.tickOps time i).foldl TraceAccumulator.apply c.device.trace := by
  rcases tickOps_eq time i c with ⟨haccelero, hops⟩ | ⟨haccelero, record, hops⟩
  · rw [hops, tick]
    exact if_neg (by rw [haccelero]; exact Bool.false_ne_true)
  · rw [hops, tick]
    exact if_pos haccelero

theorem checkConfig_trace (b : Build) (time : ℕ) (i : LoopInput w D τ) (c : Core w D τ) :
    (c.checkConfig b i).device.trace =
      (if due i.cfg.test c.cfgLastMs CHECK_CONFIG_INTERVAL = true ∧ i.waits.config = false then
        configOps b time i.traceStart i.resp c.device.ntp else []).foldl
        TraceAccumulator.apply c.device.trace := by
  unfold checkConfig
  by_cases hdue : due i.cfg.test c.cfgLastMs CHECK_CONFIG_INTERVAL = true
  · rw [if_pos hdue]
    cases hwaits : i.waits.config with
    | true =>
      rw [if_pos rfl, if_neg fun h => nomatch h.2]
      rfl
    | false =>
      rw [if_neg Bool.false_ne_true, if_pos ⟨hdue, rfl⟩, ← checkServerConfig_trace]
      dsimp only
      split <;> rfl
  · rw [if_neg hdue, if_neg fun h => hdue h.1]
    rfl

theorem andThen_checkConfig_trace (b : Build) (time : ℕ) (i : LoopInput w D τ) (c : Core w D τ) :
    (c.andThen (checkConfig b i)).device.trace =
      (if c.device.status = .running ∧
          due i.cfg.test c.cfgLastMs CHECK_CONFIG_INTERVAL = true ∧ i.waits.config = false then
        configOps b time i.traceStart i.resp c.device.ntp else []).foldl
        TraceAccumulator.apply c.device.trace := by
  unfold andThen
  by_cases hrunning : c.device.status = .running
  · rw [if_pos hrunning, checkConfig_trace b time]
    simp only [hrunning, true_and]
  · rw [if_neg hrunning, if_neg fun h => hrunning h.1]
    rfl

/-- The accelerometer that `init` has found stays. -/
theorem beforeSync_accelero (b : Build) (i : LoopInput w D τ) (c : Core w D τ) :
    (c.beforeSync b i).device.seismometer.accelero = c.device.seismometer.accelero := by
  let P := fun d : Device w D => d.seismometer.accelero = c.device.seismometer.accelero
  exact beforeSync_device (P := P) (fun _ _ h => h)
    (fun d queue h => (checkCommandPacket_accelero b i.command d queue).trans h)
    (fun d h => (checkServerConfig_accelero b i.traceStart i.resp d).trans h) rfl

omit [DoubleText D] in
/-- A request of the tick that does not return comes behind what the tick does to the trace. -/
theorem finish_trace (i : LoopInput w D τ) (syncs : ℕ) (c : Core w D τ) :
    (c.finish i syncs).core.device.trace =
      if due i.seismo.test c.seismoLastMs SEISMOMETER_TICK_INTERVAL = true then
        (c.tick i).1.device.trace else c.device.trace := by
  unfold finish
  dsimp only
  split_ifs <;> rfl

theorem beforeSync_eq (b : Build) (i : LoopInput w D τ) (c : Core w D τ) :
    c.beforeSync b i = ((c.hear b i).andThen (checkNetwork i)).andThen (checkConfig b i) := rfl

theorem beforeSync_trace (b : Build) (x : TimedCall w D τ) (c : Core w D τ) :
    (c.beforeSync b x.input).device.trace =
      (c.beforeSyncOps b x).foldl TraceAccumulator.apply c.device.trace := by
  have hnet : ((c.hear b x.input).andThen (checkNetwork x.input)).device.trace =
      (c.hearOps b x).foldl TraceAccumulator.apply c.device.trace := by
    rw [← hear_trace]
    exact andThen_preserves (P := fun c' => c'.device.trace = (c.hear b x.input).device.trace)
      (checkNetwork_device (P := fun d => d.trace = _) x.input fun _ h => h) rfl
  rw [beforeSyncOps, List.foldl_append, ← hnet, beforeSync_eq,
    andThen_checkConfig_trace b x.configTime x.input]

/-- A call of `loop` does to the trace what its calls of `TraceAccumulator` do. -/
theorem loop_trace (b : Build) (tw : ℕ) (x : TimedCall w D τ) (c : Core w D τ) :
    (c.loop b tw x.input x.attempts).core.device.trace =
      (c.traceOps b tw x).foldl TraceAccumulator.apply c.device.trace := by
  rw [traceOps, List.foldl_append, ← beforeSync_trace]
  unfold loop
  dsimp only
  by_cases hrunning : (c.beforeSync b x.input).device.status = .running
  · have hsync := resync_trace tw x.input x.attempts (c.beforeSync b x.input)
    rw [if_neg (not_not.2 hrunning), ← hsync]
    by_cases hret : ((c.beforeSync b x.input).resync tw x.input x.attempts).returned = true
    · rw [if_pos hret]
      by_cases hdue : due x.input.seismo.test
          ((c.beforeSync b x.input).resync tw x.input x.attempts).state.seismoLastMs
          SEISMOMETER_TICK_INTERVAL = true
      · rw [if_pos ⟨hrunning, hret, hdue⟩, finish_trace, if_pos hdue]
        exact tick_trace x.tickTime x.input _
      · rw [if_neg fun h => hdue h.2.2, finish_trace, if_neg hdue]
        rfl
    · rw [if_neg hret, if_neg fun h => hret h.2.1]
      rfl
  · rw [if_pos hrunning, if_neg fun h => hrunning h.1, List.foldl_nil]

end Core

namespace Traced

/-- The device has of the calls what they leave. -/
def Replays (t : TraceAccumulator w) (s : Traced w D τ) : Prop :=
  s.core.device.trace = s.ops.foldl TraceAccumulator.apply t

variable {t : TraceAccumulator w} {s : Traced w D τ}

theorem Replays.andThen {f : Traced w D τ → Traced w D τ} (h : s.Replays t)
    (hf : s.Replays t → (f s).Replays t) : (s.andThen f).Replays t := by
  unfold Traced.andThen
  split
  · exact hf h
  · exact h

/-- A step of which the device keeps the further calls. -/
theorem Replays.append {c : Core w D τ} {ops : List (TraceOp w)} {returned : Bool} (h : s.Replays t)
    (hc : c.device.trace = ops.foldl TraceAccumulator.apply s.core.device.trace) :
    (⟨c, s.ops ++ ops, returned⟩ : Traced w D τ).Replays t := by
  rw [Replays, List.foldl_append, ← h]
  exact hc

theorem Replays.foldl {σ : Type} {f : Traced w D τ → σ → Traced w D τ}
    (hf : ∀ s x, s.Replays t → (f s x).Replays t) (xs : List σ) (h : s.Replays t) :
    (xs.foldl f s).Replays t := by
  induction xs generalizing s with
  | nil => exact h
  | cons x xs ih => exact ih (hf s x h)

theorem Replays.sync (tw : ℕ) (rounds : List (Round τ)) (h : s.Replays t) :
    (s.sync tw rounds).Replays t := h.andThen id

variable [DoubleText D]

theorem Replays.wait (b : Build) (h : s.Replays t) (x : TimedCall w D τ) : (s.wait b x).Replays t :=
  h.andThen fun h => h.append (Core.hear_trace b x s.core)

variable [Double D]

theorem Replays.checkServerConfig (b : Build) (h : s.Replays t) (x : Check) :
    (s.checkServerConfig b x).Replays t :=
  h.andThen fun h => h.append (checkServerConfig_trace b x.time x.now x.resp s.core.device)

theorem Replays.loop (b : Build) (tw : ℕ) (h : s.Replays t) (x : TimedCall w D τ) :
    (s.loop b tw x).Replays t :=
  h.andThen fun h => h.append (Core.loop_trace b tw x s.core)

end Traced

namespace TraceRun
variable [Double D] [DoubleText D] {b : Build} (tw : ℕ) (r : TraceRun b w D τ)

/-- After the checks of the configuration in `setup`. -/
def checked : Traced w D τ :=
  (r.refused ++ [r.accepted]).foldl (Traced.checkServerConfig b) ⟨r.core, [], true⟩

def state : Traced w D τ :=
  r.calls.foldl (Traced.loop b tw) (r.waits.foldl (Traced.wait b) (r.checked.sync tw r.rounds))

/-- The calls of `TraceAccumulator` in the run. -/
def ops : List (TraceOp w) := (r.state tw).ops

theorem ops_of_waits (h : r.waits = []) :
    r.ops tw = (r.calls.foldl (Traced.loop b tw) (r.checked.sync tw r.rounds)).ops := by
  rw [ops, state, h, List.foldl_nil]

/-- The device has of its trace what they make of it. -/
theorem trace_eq :
    (r.state tw).core.device.trace = (Tracer.init.run (r.ops tw)).toTraceAccumulator := by
  rw [Tracer.run_toTraceAccumulator]
  have hchecked : r.checked.Replays Tracer.init.toTraceAccumulator :=
    Traced.Replays.foldl (fun _ x h => h.checkServerConfig b x) _ r.trace
  have hwaited := Traced.Replays.foldl (fun _ x h => h.wait b x) r.waits (hchecked.sync tw r.rounds)
  exact Traced.Replays.foldl (fun _ x h => h.loop b tw x) r.calls hwaited

/-- `start` starts a trace, and `after` comes after it. -/
def Starts (start : Reading w) (before after : List (TraceOp w)) : Prop :=
  r.ops tw = before ++ .setTrace start :: after ∧ (Tracer.init.run before).traceFile = false

/-- Every trace covers its window. -/
def Covers : Prop :=
  ∀ start before after, r.Starts tw start before after →
    ∃ sent, Tracer.init.run (before ++ [TraceOp.setTrace start]) = Tracer.started start sent ∧
      Tracer.Covers start sent after

def Timely : Prop :=
  ∀ start before after, r.Starts tw start before after → Tracer.Timely start after

/-- While a trace runs the clock is steady. -/
def Steady : Prop :=
  ∀ start before after, r.Starts tw start before after →
    ∀ ops₁ sample record ops₂, after = ops₁ ++ .traceValue sample record :: ops₂ →
      (∀ o ∈ ops₁, ¬ o.Late start) → Tracer.Steady start sample

theorem Steady.timely {tw : ℕ} {r : TraceRun b w D τ} (hw : 32 ≤ w) (h : r.Steady tw) :
    r.Timely tw := fun start before after hstarts =>
  Tracer.Timely.of_steady hw (h start before after hstarts)

/-- Every trace of a run covers its window exactly if every trace is timely; a steady clock is
enough for that. -/
theorem traces_covered_iff (hw : 32 ≤ w)
    (hsorted : (r.ops tw).Pairwise fun o o' => o.time ≤ o'.time) :
    (r.Covers tw ↔ r.Timely tw) ∧ (r.Steady tw → r.Covers tw) := by
  have hiff : r.Covers tw ↔ r.Timely tw := by
    refine forall_congr' fun start => forall_congr' fun before => forall_congr' fun after =>
      forall_congr' fun hstarts => ?_
    have hafter : after.Pairwise fun o o' => o.time ≤ o'.time := by
      rw [hstarts.1, List.pairwise_append, List.pairwise_cons] at hsorted
      exact hsorted.2.1.2
    have hstarted : Tracer.init.run (before ++ [.setTrace start]) =
        Tracer.started start (Tracer.init.run before).sent := by
      rw [Tracer.run_append]
      exact Tracer.setTrace_closed hstarts.2 start
    constructor
    · rintro ⟨sent, -, hcovers⟩
      exact (Tracer.covers_iff hafter).1 hcovers
    · intro htimely
      exact ⟨_, hstarted, (Tracer.covers_iff hafter).2 htimely⟩
  exact ⟨hiff, fun hsteady => hiff.2 (hsteady.timely hw)⟩

end TraceRun

/-! ### Runs of a device left to itself -/

/-- A call in which no command comes, with the reply of the server. -/
def Core.asked {D : Type} [Double D] (now : BitVec 32) (resp : HTTPResponse) :
    TimedCall 32 D Unit where
  input := { (Core.alone now).input with resp := resp }
  attempts := []
  commandTime := now.toNat
  configTime := now.toNat
  tickTime := now.toNat

namespace Core
variable [Double D] [DoubleText D]

/-- A call with a tick in which no command is heard and no time is asked for. -/
@[mk_iff] structure Ticks (b : Build) (x : TimedCall w D τ) (c : Core w D τ) : Prop where
  heard : (c.hearOps b x).isEmpty = true
  running : (c.beforeSync b x.input).device.status = .running
  ntp : due x.input.ntp.test (c.beforeSync b x.input).ntpLastMs NTP_SYNC_INTERVAL = false
  tick : due x.input.seismo.test (c.beforeSync b x.input).seismoLastMs
    SEISMOMETER_TICK_INTERVAL = true
  trace : x.input.waits.trace = false
  alert : x.input.waits.alert = false

instance (b : Build) (x : TimedCall w D τ) (c : Core w D τ) : Decidable (c.Ticks b x) :=
  decidable_of_iff' _ (ticks_iff b x c)

end Core

namespace Traced
variable [Double D] [DoubleText D]

/-- It has the trace that its check of the configuration starts, if any, and then one sample. -/
theorem loop_ticks {b : Build} {x : TimedCall w D τ} {s : Traced w D τ}
    (hreturned : s.returned = true) (h : s.core.Ticks b x)
    (haccelero : s.core.device.seismometer.accelero = true) (tw : ℕ) :
    (s.loop b tw x).returned = true ∧
      (s.loop b tw x).core.device.seismometer.accelero = true ∧
      ∃ record, (s.loop b tw x).ops = s.ops ++ (s.core.beforeSyncOps b x ++
        [.traceValue ⟨x.tickTime, (s.core.beforeSync b x.input).device.ntp, x.input.traceTest⟩
          record]) := by
  have hc := (Core.beforeSync_accelero b x.input s.core).trans haccelero
  have hresync : (s.core.beforeSync b x.input).resync tw x.input x.attempts =
      ⟨s.core.beforeSync b x.input, 0, true⟩ := by
    rw [Core.resync, if_neg (by rw [h.ntp]; exact Bool.false_ne_true)]
  have hcore : (s.core.loop b tw x.input x.attempts).core =
      ((s.core.beforeSync b x.input).tick x.input).1 := by
    rw [Core.loop_idle b tw x.attempts h.running h.ntp]
    exact Core.finish_core h.tick h.trace h.alert 0
  have hret : (s.core.loop b tw x.input x.attempts).returned = true := by
    rw [Core.loop_idle b tw x.attempts h.running h.ntp]
    exact (Core.finish_complete h.trace h.alert 0 _).returned
  have hops : ∃ record, s.core.traceOps b tw x = s.core.beforeSyncOps b x ++
      [.traceValue ⟨x.tickTime, (s.core.beforeSync b x.input).device.ntp, x.input.traceTest⟩
        record] := by
    rcases Core.tickOps_eq x.tickTime x.input (s.core.beforeSync b x.input) with
      ⟨hidle, -⟩ | ⟨-, record, hops⟩
    · rw [hc] at hidle
      cases hidle
    · refine ⟨record, ?_⟩
      unfold Core.traceOps
      dsimp only
      rw [hresync, if_pos ⟨h.running, rfl, h.tick⟩, hops]
  obtain ⟨record, hops⟩ := hops
  rw [loop, andThen, if_pos hreturned]
  dsimp only
  refine ⟨hret, ?_, record, congrArg (s.ops ++ ·) hops⟩
  rw [hcore, Core.tick_accelero, hc]

end Traced

namespace TraceRun

/-- If only the first call of a run requests a trace, that is its only trace. -/
theorem Starts.first [Double D] [DoubleText D] {b : Build} {tw : ℕ} {r : TraceRun b w D τ}
    {start start' : Reading w} {before after samples : List (TraceOp w)}
    (h : r.Starts tw start' before after) (hops : r.ops tw = .setTrace start :: samples)
    (hsamples : ∀ o ∈ samples, o.IsSample) : start' = start ∧ after = samples := by
  have hsplit := h.1
  rw [hops] at hsplit
  cases before with
  | nil =>
    injection hsplit with hstart hafter
    injection hstart with hstart
    exact ⟨hstart.symm, hafter.symm⟩
  | cons o before =>
    injection hsplit with _ hsplit
    have hmem : .setTrace start' ∈ samples := by
      rw [hsplit]
      exact List.mem_append_right before List.mem_cons_self
    exact (hsamples _ hmem).elim

/-- A check of the configuration in a call of `loop` that starts a trace. -/
theorem beforeSyncOps_requested [Double D] [DoubleText D] {b : Build} {x : TimedCall w D τ}
    {c : Core w D τ} (hheard : (c.hearOps b x).isEmpty = true) :
    let c' := (c.hear b x.input).andThen (Core.checkNetwork x.input)
    c'.device.status = .running → due x.input.cfg.test c'.cfgLastMs CHECK_CONFIG_INTERVAL = true →
      x.input.waits.config = false → Terremoti.accepts b x.input.resp = true →
      (replyParams x.input.resp).contains (str "trace") = true →
      c.beforeSyncOps b x = [.setTrace ⟨x.configTime, c'.device.ntp, x.input.traceStart⟩] := by
  intro c' hrunning hdue hserved haccepts htrace
  rw [Core.beforeSyncOps, List.isEmpty_iff.1 hheard, configOps, if_pos ⟨hrunning, hdue, hserved⟩,
    if_pos ⟨haccepts, htrace⟩, List.nil_append]

def reply (params : String) : HTTPResponse := ⟨.HTTP_OK, 200, some (str params)⟩
def noReply : HTTPResponse := ⟨.HTTP_CONNECTION_TIMEOUT, 0, none⟩

/-- The trace is requested by the second configuration, and runs for more than a quarter of an
hour. -/
def requestedInLoop {D : Type} [Double D] : TraceRun ⟨.raspi, false⟩ 32 D Unit where
  core := Core.rested
  refused := []
  accepted := ⟨5000, 5000, reply "ntpserver:europe.pool.ntp.org"⟩
  rounds := [NTP.promptRound 5100]
  waits := []
  calls := [Core.asked 900000 (reply "ntpserver:europe.pool.ntp.org|trace:1"),
    Core.asked 1802000 noReply]
  ntp := rfl
  trace := rfl
  refuses := nofun
  accepts := by decide

theorem requestedInLoop_ops : ∃ start r₁ record₁ r₂ record₂,
    (requestedInLoop (D := ℝ)).ops 32 =
        [.setTrace start, .traceValue r₁ record₁, .traceValue r₂ record₂] ∧
      start.time = 900000 ∧ (r₁.time = 900000 ∧ Tracer.Steady start r₁) ∧
      r₂.time = 1802000 ∧ Tracer.Steady start r₂ := by
  let b : Build := ⟨.raspi, false⟩
  let r : TraceRun b 32 ℝ Unit := requestedInLoop
  let s₁ := r.checked.sync 32 r.rounds
  let x₁ : TimedCall 32 ℝ Unit :=
    Core.asked 900000 (reply "ntpserver:europe.pool.ntp.org|trace:1")
  let x₂ : TimedCall 32 ℝ Unit := Core.asked 1802000 noReply
  have hticks₁ : s₁.core.Ticks b x₁ := by decide +kernel
  have hticks₂ : (s₁.loop b 32 x₁).core.Ticks b x₂ := by decide +kernel
  have hreturned : s₁.returned = true := by decide +kernel
  have haccelero : s₁.core.device.seismometer.accelero = true := by decide +kernel
  obtain ⟨hreturned₂, haccelero₂, record₁, hops₁⟩ :=
    Traced.loop_ticks hreturned hticks₁ haccelero 32
  obtain ⟨-, -, record₂, hops₂⟩ := Traced.loop_ticks hreturned₂ hticks₂ haccelero₂ 32
  have hstart := beforeSyncOps_requested hticks₁.heard (by decide +kernel) (by decide +kernel)
    rfl (by decide) (by decide)
  have hnone : (s₁.loop b 32 x₁).core.beforeSyncOps b x₂ = [] :=
    List.isEmpty_iff.1 (by decide +kernel)
  have hchecked : s₁.ops = [] := rfl
  have hcalls : r.calls = [x₁, x₂] := rfl
  have hops : r.ops 32 = ((s₁.loop b 32 x₁).loop b 32 x₂).ops := by
    rw [ops_of_waits 32 r rfl, hcalls, List.foldl_cons, List.foldl_cons, List.foldl_nil]
  rw [hops₂, hops₁, hchecked, hstart, hnone, List.nil_append, List.nil_append, List.append_assoc,
    List.singleton_append, List.singleton_append] at hops
  let start : Reading 32 := ⟨x₁.configTime,
    ((s₁.core.hear b x₁.input).andThen (Core.checkNetwork x₁.input)).device.ntp,
    x₁.input.traceStart⟩
  let r₁ : Reading 32 :=
    ⟨x₁.tickTime, (s₁.core.beforeSync b x₁.input).device.ntp, x₁.input.traceTest⟩
  let r₂ : Reading 32 :=
    ⟨x₂.tickTime, ((s₁.loop b 32 x₁).core.beforeSync b x₂.input).device.ntp, x₂.input.traceTest⟩
  have hsteady₁ : Tracer.Steady start r₁ := by decide +kernel
  have hsteady₂ : Tracer.Steady start r₂ := by decide +kernel
  refine ⟨start, r₁, record₁, r₂, record₂, ?_, ?_, ⟨?_, hsteady₁⟩, ?_, hsteady₂⟩
  · exact hops
  · decide +kernel
  · decide +kernel
  · decide +kernel

theorem traces_covered_iff_requestedInLoop :
    let r : TraceRun ⟨.raspi, false⟩ 32 ℝ Unit := requestedInLoop
    (∃ start after, r.Starts 32 start [] after) ∧ r.Covers 32 := by
  intro r
  obtain ⟨start, r₁, record₁, r₂, record₂, hops, hstart, ⟨hr₁, hsteady₁⟩, hr₂, hsteady₂⟩ :=
    requestedInLoop_ops
  have hsorted : (r.ops 32).Pairwise fun o o' => o.time ≤ o'.time := by
    rw [hops]
    simp [TraceOp.time, TraceOp.reading, hstart, hr₁, hr₂]
  refine ⟨⟨start, _, hops, rfl⟩, (traces_covered_iff 32 r (by decide) hsorted).2 ?_⟩
  intro start' before after hstarts ops₁ sample record ops₂ hafter _
  obtain ⟨rfl, rfl⟩ := hstarts.first hops (by simp [TraceOp.IsSample])
  have hmem := List.mem_append_right ops₁ (List.mem_cons_self (a := .traceValue sample record)
    (l := ops₂))
  rw [← hafter] at hmem
  simp only [List.mem_cons, TraceOp.traceValue.injEq, List.not_mem_nil, or_false] at hmem
  rcases hmem with ⟨rfl, -⟩ | ⟨rfl, -⟩
  · exact hsteady₁
  · exact hsteady₂

/-- The first configuration requests a trace; its first sample is the first one after the
synchronisation. -/
def requestedAtSetup {D : Type} [Double D] : TraceRun ⟨.raspi, false⟩ 32 D Unit where
  core := Core.rested
  refused := []
  accepted := ⟨5000, 5000, reply "ntpserver:europe.pool.ntp.org|trace:1"⟩
  rounds := [NTP.promptRound 5100]
  waits := []
  calls := [Core.asked 6000 noReply]
  ntp := rfl
  trace := rfl
  refuses := nofun
  accepts := by decide

/-- That sample ends the trace, of which the server gets a file without a record. -/
theorem requestedAtSetup_uncovered :
    let r : TraceRun ⟨.raspi, false⟩ 32 ℝ Unit := requestedAtSetup
    ((r.ops 32).Pairwise fun o o' => o.time ≤ o'.time) ∧
      (Tracer.init.run (r.ops 32)).sent = [Tracer.head 32] ∧ ¬ r.Covers 32 := by
  intro r
  let b : Build := ⟨.raspi, false⟩
  let s := r.checked.sync 32 r.rounds
  let x : TimedCall 32 ℝ Unit := Core.asked 6000 noReply
  have hticks : s.core.Ticks b x := by decide +kernel
  have hreturned : s.returned = true := by decide +kernel
  have haccelero : s.core.device.seismometer.accelero = true := by decide +kernel
  obtain ⟨-, -, record, hloop⟩ := Traced.loop_ticks hreturned hticks haccelero 32
  have hnone : s.core.beforeSyncOps b x = [] := List.isEmpty_iff.1 (by decide +kernel)
  have hchecked : s.ops = [.setTrace ⟨5000, NTP.init, 5000⟩] := rfl
  have hcalls : r.calls = [x] := rfl
  let start : Reading 32 := ⟨5000, NTP.init, 5000⟩
  let sample : Reading 32 :=
    ⟨x.tickTime, (s.core.beforeSync b x.input).device.ntp, x.input.traceTest⟩
  have hops : r.ops 32 = [.setTrace start, .traceValue sample record] := by
    rw [ops_of_waits 32 r rfl, hcalls, List.foldl_cons, List.foldl_nil, hloop, hchecked, hnone]
    rfl
  have htime : sample.time = 6000 := by decide +kernel
  have hlate : (TraceOp.traceValue sample record).Late start :=
    Tracer.late_of_unset le_rfl rfl rfl (by decide) (by decide +kernel) (by decide +kernel) record
  have hended : ∀ sent, (Tracer.started start sent).run [.traceValue sample record] =
      Tracer.stopped sent [] := fun sent => Tracer.run_late (List.forall_mem_nil _) hlate
  have hstopped : Tracer.init.run (r.ops 32) = Tracer.stopped [] [] := by
    rw [hops]
    exact hended []
  refine ⟨?_, ?_, ?_⟩
  · rw [hops]
    refine List.pairwise_pair.2 ?_
    show 5000 ≤ sample.time
    omega
  · rw [hstopped]
    rfl
  · intro hcovers
    obtain ⟨sent, -, hcover⟩ := hcovers start [] _ ⟨hops, rfl⟩
    have hwindow := hcover.window [.traceValue sample record] [] rfl (by
      rw [List.forall_mem_singleton]
      show sample.time ≤ 5000 + 15 * 60 * 1000
      omega)
    exact Tracer.running_ne_stopped (hwindow.symm.trans (hended sent))

end TraceRun
end Terremoti
