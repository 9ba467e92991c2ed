import Terremoti.LogRotation

/-!
# When the parts of the main loop run (`loop`)

Four parts of `loop` run if the millisecond counter has moved on by an interval since they last did
(`Part`). So does the heartbeat, but not in every build, and it comes in requests too. Over a run of
calls that return, with every reading the real time modulo `2 ^ 32`, a part runs exactly if that much
real time has passed or, where `unsigned long` is wider than the counter, the counter has wrapped
since (`ran_iff`).
-/

namespace Terremoti

/-- The parts of `loop` that wait for an interval to pass. -/
inductive Part
  | network
  | config
  | ntp
  | seismometer
  deriving DecidableEq

namespace Part

/-- The time that has to pass, in milliseconds. -/
def interval : Part → ℕ
  | network => CHECK_NETWORK_INTERVAL
  | config => CHECK_CONFIG_INTERVAL
  | ntp => NTP_SYNC_INTERVAL
  | seismometer => SEISMOMETER_TICK_INTERVAL

theorem interval_lt (p : Part) : p.interval < 2 ^ 32 := by cases p <;> decide

variable {w : ℕ} {D τ : Type}

/-- The clock at its test and when it stores that it has run. -/
def stamps (i : LoopInput w D τ) : Part → Stamps
  | network => i.net
  | config => i.cfg
  | ntp => i.ntp
  | seismometer => i.seismo

/-- When it last ran. -/
def last (c : Core w D τ) : Part → BitVec w
  | network => c.netLastMs
  | config => c.cfgLastMs
  | ntp => c.ntpLastMs
  | seismometer => c.seismoLastMs

/-- Its test. -/
def runs (i : LoopInput w D τ) (c : Core w D τ) (p : Part) : Bool :=
  due (p.stamps i).test (p.last c) p.interval

end Part

/-! ### One call -/

namespace Core
variable {w : ℕ} {D τ : Type} {i : LoopInput w D τ} {c c' c'' : Core w D τ}

/-- From `c` to `c'` come the tests of the parts `ps`, and nothing else sets when a part last ran. -/
def Stage (i : LoopInput w D τ) (ps : List Part) (c c' : Core w D τ) : Prop :=
  ∀ p : Part, p.last c' =
    if p ∈ ps ∧ p.runs i c = true then (p.stamps i).stamp.setWidth w else p.last c

theorem Stage.of_last (h : ∀ p : Part, p.last c' = p.last c) : Stage i [] c c' := fun p =>
  (h p).trans (if_neg fun hp => List.not_mem_nil hp.1).symm

theorem Stage.trans {ps qs : List Part} (h : Stage i ps c c') (h' : Stage i qs c' c'')
    (hdisj : ∀ p ∈ ps, p ∉ qs) : Stage i (ps ++ qs) c c'' := by
  intro p
  rw [h' p]
  by_cases hq : p ∈ qs
  · have hp : p ∉ ps := fun hp => hdisj p hp hq
    have hkept : p.last c' = p.last c := (h p).trans (if_neg fun hp' => hp hp'.1)
    simp only [Part.runs, hkept, List.mem_append, hp, hq, or_true, true_and]
  · rw [if_neg fun hq' => hq hq'.1, h p]
    simp only [List.mem_append, hq, or_false]

/-- A part whose test comes, and which sets its variable alone if it runs. -/
theorem Stage.single {q : Part} (hother : ∀ p, p ≠ q → p.last c' = p.last c)
    (hself : q.last c' = if q.runs i c = true then (q.stamps i).stamp.setWidth w else q.last c) :
    Stage i [q] c c' := by
  intro p
  by_cases hp : p = q
  · subst hp
    rw [hself]
    simp only [List.mem_singleton, true_and]
  · rw [hother p hp, if_neg fun h => hp (List.mem_singleton.1 h.1)]

theorem Stage.andThen {ps qs : List Part} {f : Core w D τ → Core w D τ}
    (h : c'.device.status = .running → Stage i ps c c')
    (hf : (f c').device.status = .running → Stage i qs c' (f c')) (hdisj : ∀ p ∈ ps, p ∉ qs)
    (hrunning : (c'.andThen f).device.status = .running) : Stage i (ps ++ qs) c (c'.andThen f) := by
  unfold Core.andThen at hrunning ⊢
  split_ifs at hrunning ⊢ with hbefore
  · exact (h hbefore).trans (hf hrunning) hdisj
  · exact absurd hrunning hbefore

theorem heartBeat_stage (b : Build) : Stage i [] c (c.heartBeat b i) := by
  refine Stage.of_last fun p => ?_
  rcases heartBeat_cases b i c with h | ⟨t, h⟩
  · rw [h]
    cases p <;> rfl
  · rw [h]
    cases p <;> rfl

theorem checkNetwork_stage (h : (c.checkNetwork i).device.status = .running) :
    Stage i [.network] c (c.checkNetwork i) := by
  unfold checkNetwork at h ⊢
  split_ifs at h ⊢ with htest hmac hreboots
  · cases h
  · cases h
  · split at h
    · cases h
    · refine Stage.single (fun p hp => ?_) (if_pos htest).symm
      cases p <;> first | rfl | exact absurd rfl hp
  · exact Stage.single (fun _ _ => rfl) (if_neg htest).symm

theorem resync_stage {tw : ℕ} {attempts : List (List (Round τ))}
    (h : (c.resync tw i attempts).returned = true) :
    Stage i [.ntp] c (c.resync tw i attempts).state := by
  have hsync : ∀ p : Part, p.last (Retry.run (sync tw) attempts c).state = p.last c := by
    intro p
    refine Retry.run_preserves (P := fun c' : Core w D τ => p.last c' = p.last c)
      (fun c' rounds hc' => ?_) rfl attempts
    rw [← hc']
    cases p <;> rfl
  unfold resync at h ⊢
  split_ifs at h ⊢ with htest
  · dsimp only at h ⊢
    split_ifs at h ⊢ with hret
    · refine Stage.single (fun p hp => ?_) (if_pos htest).symm
      rw [← hsync p]
      cases p <;> first | rfl | exact absurd rfl hp
    · exact absurd h hret
  · exact Stage.single (fun _ _ => rfl) (if_neg htest).symm

section Tick
variable [Double D]

theorem finish_stage {syncs : ℕ} (h : (c.finish i syncs).returned = true) :
    Stage i [.seismometer] c (c.finish i syncs).core := by
  rcases finish_cases i syncs c with
    ⟨hidle, hfinish⟩ | ⟨hdue, hfinish⟩ | ⟨-, -, s, t, effects, -, hfinish⟩
  · rw [hfinish]
    refine Stage.single (fun _ _ => rfl) (if_neg fun hruns => ?_).symm
    cases hidle.symm.trans hruns
  · rw [hfinish]
    refine Stage.single (fun p hp => ?_) (if_pos hdue).symm
    cases p <;> first | rfl | exact absurd rfl hp
  · rw [hfinish] at h
    cases h

variable [DoubleText D] {b : Build}

theorem checkConfig_stage (h : (c.checkConfig b i).device.status = .running) :
    Stage i [.config] c (c.checkConfig b i) := by
  -- a check that does not return upgrades the device
  have hupgrade : (checkServerConfig b i.traceStart i.resp c.device).1 = none →
      (checkServerConfig b i.traceStart i.resp c.device).2.status = .upgrading := by
    intro hnone
    cases haccepts : accepts b i.resp with
    | true =>
      rw [checkServerConfig_of_accepts _ _ haccepts] at hnone
      cases hnone
    | false =>
      rcases checkServerConfig_of_not_accepts i.traceStart c.device haccepts with hr | hr
      · rw [hr] at hnone
        cases hnone
      · rw [hr]
  unfold checkConfig at h ⊢
  split_ifs at h ⊢ with htest hwaits
  · cases h
  · dsimp only at h ⊢
    split at h
    · rename_i hnone
      rw [hupgrade hnone] at h
      cases h
    · refine Stage.single (fun p hp => ?_) (if_pos htest).symm
      cases p <;> first | rfl | exact absurd rfl hp
  · exact Stage.single (fun _ _ => rfl) (if_neg htest).symm

omit [Double D] in
theorem checkCommand_stage : Stage i [] c (c.checkCommand b i) :=
  Stage.of_last fun p => by cases p <;> rfl

theorem beforeSync_stage : (c.beforeSync b i).device.status = .running →
    Stage i [.network, .config] c (c.beforeSync b i) :=
  Stage.andThen (Stage.andThen (Stage.andThen (fun _ => heartBeat_stage b)
    (fun _ => checkCommand_stage) (by decide)) checkNetwork_stage (by decide)) checkConfig_stage
    (by decide)

/-- A call that returns makes every test, and a part that runs stores when. -/
theorem loop_stage {tw : ℕ} {attempts : List (List (Round τ))}
    (h : (c.loop b tw i attempts).returned = true) (p : Part) :
    p.last (c.loop b tw i attempts).core =
      if p.runs i c = true then (p.stamps i).stamp.setWidth w else p.last c := by
  have hstages : Stage i [.network, .config, .ntp, .seismometer] c
      (c.loop b tw i attempts).core := by
    unfold loop at h ⊢
    dsimp only at h ⊢
    split_ifs at h ⊢ with hstatus hret
    exact ((beforeSync_stage (not_not.1 hstatus)).trans (resync_stage hret) (by decide)).trans
      (finish_stage h) (by decide)
  have hall : p ∈ [Part.network, .config, .ntp, .seismometer] := by cases p <;> simp
  rw [hstages p]
  simp only [hall, true_and]

end Tick
end Core

/-! ### Runs in real time -/

/-- When a part is tested and when it stores that it has run, in milliseconds of real time from a
time at which the counter was zero. -/
structure Slot where
  test : ℕ
  stamp : ℕ

/-- A call of `loop`, with the real times at which it reads the clock for each part. -/
structure Cycle (w : ℕ) (D τ : Type) where
  input : LoopInput w D τ
  attempts : List (List (Round τ))
  slot : Part → Slot

namespace Cycle
variable {w : ℕ} {D τ : Type}

/-- The readings are of these times. -/
structure Clocked (x : Cycle w D τ) : Prop where
  stamps : ∀ p : Part, p.stamps x.input =
    ⟨BitVec.ofNat 32 (x.slot p).test, BitVec.ofNat 32 (x.slot p).stamp⟩
  le : ∀ p, (x.slot p).test ≤ (x.slot p).stamp

/-- The next call comes after this one, less than a turn of the counter, but for the interval, after
it. -/
def Follows (x y : Cycle w D τ) : Prop :=
  ∀ p : Part, (x.slot p).stamp ≤ (y.slot p).test ∧
    (y.slot p).test + p.interval < (x.slot p).test + 2 ^ 32

end Cycle

/-- A device, and the real time at which each part last ran. -/
structure Paced (w : ℕ) (D τ : Type) where
  core : Core w D τ
  ran : Part → ℕ

/-- Less than a turn of the counter apart, a test goes by the real time, but for the wrap of the
counter where `unsigned long` is wider. -/
theorem due_ofNat_iff {w : ℕ} (hw : 32 ≤ w) {last t interval : ℕ} (hinterval : interval < 2 ^ 32)
    (hle : last ≤ t) (hlt : t < last + 2 ^ 32) :
    due (BitVec.ofNat 32 t) ((BitVec.ofNat 32 last).setWidth w) interval = true ↔
      last + interval ≤ t ∨ 32 < w ∧ last / 2 ^ 32 < t / 2 ^ 32 := by
  obtain ⟨d, rfl⟩ := Nat.exists_eq_add_of_le hle
  have hread : BitVec.ofNat 32 (last + d) = Counter.read (BitVec.ofNat 32 last) d := BitVec.ofNat_add ..
  have hdiff := Counter.toNat_setWidth_read_sub hw (BitVec.ofNat 32 last) (show d < 2 ^ 32 by omega)
  rw [due, decide_eq_true_eq, hread, hdiff, BitVec.toNat_ofNat]
  rcases hw.eq_or_lt with rfl | hlt
  · split <;> omega
  · have hpow : 2 ^ 33 ≤ 2 ^ w := Nat.pow_le_pow_right (by decide) hlt
    split <;> omega

namespace Paced
variable {w : ℕ} {D τ : Type} [Double D] [DoubleText D] {b : Build} {tw : ℕ}

def step (b : Build) (tw : ℕ) (o : Paced w D τ) (x : Cycle w D τ) : Paced w D τ where
  core := (o.core.loop b tw x.input x.attempts).core
  ran p := if p.runs x.input o.core = true then (x.slot p).stamp else o.ran p

theorem step_core (o : Paced w D τ) (x : Cycle w D τ) :
    (o.step b tw x).core = (o.core.loop b tw x.input x.attempts).core := by
  simp only [step]

theorem step_ran (o : Paced w D τ) (x : Cycle w D τ) (p : Part) :
    (o.step b tw x).ran p = if p.runs x.input o.core = true then (x.slot p).stamp else o.ran p := by
  simp only [step]

def run (b : Build) (tw : ℕ) (o : Paced w D τ) (xs : List (Cycle w D τ)) : Paced w D τ :=
  xs.foldl (step b tw) o

theorem run_cons (o : Paced w D τ) (x : Cycle w D τ) (xs : List (Cycle w D τ)) :
    o.run b tw (x :: xs) = (o.step b tw x).run b tw xs := by
  rw [run, run, List.foldl_cons]

/-- Every call returns. -/
def Returns (b : Build) (tw : ℕ) : Paced w D τ → List (Cycle w D τ) → Prop
  | _, [] => True
  | o, x :: xs =>
    (o.core.loop b tw x.input x.attempts).returned = true ∧ Returns b tw (o.step b tw x) xs

/-- What is stored are readings at these times. -/
def Stored (o : Paced w D τ) : Prop :=
  ∀ p : Part, p.last o.core = (BitVec.ofNat 32 (o.ran p)).setWidth w

/-- The call comes less than a turn of the counter after them. -/
def Within (o : Paced w D τ) (x : Cycle w D τ) : Prop :=
  ∀ p, o.ran p ≤ (x.slot p).test ∧ (x.slot p).test < o.ran p + 2 ^ 32

/-- The part is to run in the call by the real time, or because the counter has wrapped. -/
def Due (o : Paced w D τ) (x : Cycle w D τ) (p : Part) : Prop :=
  o.ran p + p.interval ≤ (x.slot p).test ∨
    32 < w ∧ o.ran p / 2 ^ 32 < (x.slot p).test / 2 ^ 32

variable {o : Paced w D τ} {x : Cycle w D τ}

omit [Double D] [DoubleText D] in
theorem runs_iff (hw : 32 ≤ w) (hstored : o.Stored) (hclock : x.Clocked) (hwithin : o.Within x)
    (p : Part) : p.runs x.input o.core = true ↔ o.Due x p := by
  rw [Part.runs, hstored p, hclock.stamps p]
  exact due_ofNat_iff hw p.interval_lt (hwithin p).1 (hwithin p).2

theorem step_stored (hstored : o.Stored) (hclock : x.Clocked)
    (hreturned : (o.core.loop b tw x.input x.attempts).returned = true) :
    (o.step b tw x).Stored := by
  intro p
  rw [step_core, step_ran, Core.loop_stage hreturned p, hclock.stamps p, hstored p]
  split_ifs <;> rfl

theorem step_within (hw : 32 ≤ w) (hstored : o.Stored) (hclock : x.Clocked) (hwithin : o.Within x)
    {y : Cycle w D τ} (hfollows : x.Follows y) : (o.step b tw x).Within y := by
  intro p
  obtain ⟨hafter, hsoon⟩ := hfollows p
  have hle := hclock.le p
  by_cases hruns : p.runs x.input o.core = true
  · rw [step_ran, if_pos hruns]
    omega
  · have hnot : ¬ o.ran p + p.interval ≤ (x.slot p).test := fun h =>
      hruns ((runs_iff hw hstored hclock hwithin p).2 (.inl h))
    have hbefore := (hwithin p).1
    rw [step_ran, if_neg hruns]
    omega

/-- Over a run of calls that return, each less than a turn of the counter after the last, a part runs
in a call exactly if its interval has passed in real time since it last ran or, with an `unsigned
long` wider than the counter, the counter has wrapped since. -/
theorem ran_iff (hw : 32 ≤ w) (hstored : o.Stored) {xs : List (Cycle w D τ)}
    (hfirst : ∀ x ∈ xs.head?, o.Within x) (hclock : ∀ x ∈ xs, x.Clocked)
    (hchain : xs.IsChain Cycle.Follows) (hreturns : Returns b tw o xs) :
    ∀ pre x post, xs = pre ++ x :: post → ∀ p : Part,
      p.runs x.input (o.run b tw pre).core = true ↔ (o.run b tw pre).Due x p := by
  induction xs generalizing o with
  | nil =>
    rintro pre x post h
    exact absurd h (by simp)
  | cons y ys ih =>
    obtain ⟨hreturned, hrest⟩ := hreturns
    have hy := hclock y (List.mem_cons_self ..)
    have hwithin := hfirst y rfl
    have hnext : ∀ x ∈ ys.head?, (o.step b tw y).Within x := fun x hx =>
      step_within hw hstored hy hwithin (List.isChain_cons.1 hchain |>.1 x hx)
    rintro pre x post h
    cases pre with
    | nil =>
      obtain ⟨rfl, -⟩ := List.cons.inj h
      exact runs_iff hw hstored hy hwithin
    | cons z pre =>
      rw [List.cons_append] at h
      obtain ⟨rfl, hys⟩ := List.cons.inj h
      rw [run_cons]
      exact ih (step_stored hstored hy hreturned) hnext
        (fun x hx => hclock x (List.mem_cons_of_mem _ hx)) (List.isChain_cons.1 hchain).2 hrest
        pre x post hys

/-- A quarter of an hour after the last check of the configuration, and at once again. -/
theorem ran_iff_daily :
    let o : Paced 32 ℝ Unit :=
      ⟨Core.daily 85500000, fun p => if p = .config then 85500000 else 86400000⟩
    let x : Cycle 32 ℝ Unit := ⟨Core.offline 86400000, [], fun _ => ⟨86400000, 86400000⟩⟩
    let y : Cycle 32 ℝ Unit := ⟨Core.offline 86400050, [], fun _ => ⟨86400000, 86400000⟩⟩
    Part.config.runs x.input o.core = true ∧
      ¬ Part.config.runs y.input (o.run ⟨.raspi, false⟩ 32 [x]).core = true := by
  intro o x y
  obtain ⟨hfirst, hsecond⟩ := Core.loop_daily
  have hstored : o.Stored := by
    intro p
    cases p <;> rfl
  have hclock : ∀ z ∈ [x, y], z.Clocked := by
    intro z hz
    rcases List.mem_cons.1 hz with rfl | hz
    · exact ⟨fun p => by cases p <;> rfl, fun _ => le_rfl⟩
    · obtain rfl := List.mem_singleton.1 hz
      exact ⟨fun p => by cases p <;> rfl, fun _ => le_rfl⟩
  have hwithin : ∀ z ∈ [x, y].head?, o.Within z := by
    rintro z ⟨⟩ p
    cases p <;> decide
  have hchain : [x, y].IsChain Cycle.Follows := by
    refine List.isChain_pair.2 fun p => ⟨le_rfl, ?_⟩
    exact Nat.add_lt_add_left p.interval_lt _
  have hstep : o.step ⟨.raspi, false⟩ 32 x = ⟨Core.daily 86400000, fun _ => 86400000⟩ := by
    rw [step, hfirst]
    refine congrArg (Paced.mk _) (funext fun p => ?_)
    cases p with
    | config => exact if_pos (by decide)
    | _ => exact ite_self _
  have hreturns : Returns ⟨.raspi, false⟩ 32 o [x, y] := by
    refine ⟨congrArg Turn.returned hfirst, ?_, trivial⟩
    rw [hstep]
    exact congrArg Turn.returned hsecond
  have hran := ran_iff le_rfl hstored hwithin hclock hchain hreturns
  refine ⟨(hran [] x [y] rfl .config).2 (.inl (by decide)), fun h => ?_⟩
  have hdue := (hran [x] y [] rfl .config).1 h
  rw [run_cons, hstep] at hdue
  rcases hdue with hdue | ⟨hlt, -⟩
  · exact absurd hdue (by decide)
  · exact absurd hlt (lt_irrefl _)

end Paced
end Terremoti
