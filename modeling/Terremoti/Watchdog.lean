import Terremoti.Core

/-!
# The watchdog (`Watchdog.cpp`)

Two processes over one file: the sketch's `heartBeat` writes it, but not again within 20 seconds of
its last write by a millisecond counter that wraps, and the watchdog process polls its modification
time, which is in seconds. Times are nanoseconds of one clock. `Fresh` is the invariant of a run
with heartbeats at most 40 seconds apart: the last write is at most 20 seconds older than the last
heartbeat, so at most 60 seconds older than a poll (`poll_not_stale`).
-/

namespace Terremoti

/-- `lastBeat` of the sketch, and the seconds of `WATCHDOG_FILE`'s modification time. -/
structure Watchdog (w : ℕ) where
  lastBeat : BitVec w
  mtime : Option ℤ

namespace Watchdog

variable {w : ℕ}

/-- The test of `heartBeat`. -/
def writes (now : BitVec 32) (s : Watchdog w) : Bool :=
  decide ((now.setWidth w - s.lastBeat).toNat > WATCHDOG_TIMER / 3)

/-- `Watchdog::heartBeat`, with a file that can be written; `seconds` is the system time. -/
def heartBeat (beat : Stamps) (seconds : ℤ) (s : Watchdog w) : Watchdog w :=
  if s.writes beat.test then { lastBeat := beat.stamp.setWidth w, mtime := some seconds } else s

/-- The test of the polling loop on Linux; without the file the heartbeat is taken to be there. -/
def stale (seconds : ℤ) (s : Watchdog w) : Bool :=
  match s.mtime with
  | some tv_sec => decide (tv_sec < seconds - (WATCHDOG_TIMER / 1000 : ℕ))
  | none => false

/-- What the two processes do, in any order, each at an instant of the clock. -/
inductive Event
  | beat (t : ℕ)
  | poll (t : ℕ)

def Event.beat? : Event → Option ℕ
  | beat t => some t
  | poll _ => none

def beats (events : List Event) : List ℕ := events.filterMap Event.beat?

/-- `Utils::millis` at `t` nanoseconds, where the counter stood at `start` at time zero. -/
def millisAt (start : BitVec 32) (t : ℕ) : BitVec 32 := Counter.read start (t / 10 ^ 6)

def beatAt (start : BitVec 32) (t : ℕ) (s : Watchdog w) : Watchdog w :=
  s.heartBeat ⟨millisAt start t, millisAt start t⟩ (t / 10 ^ 9 : ℕ)

def step (start : BitVec 32) (s : Watchdog w) : Event → Watchdog w
  | .beat t => s.beatAt start t
  | .poll _ => s

def run (start : BitVec 32) (s : Watchdog w) (events : List Event) : Watchdog w :=
  events.foldl (step start) s

/-- The time of the latest heartbeat, the first one having been at `first`. -/
def latest (first : ℕ) (events : List Event) : ℕ := (beats events).getLast?.getD first

/-- The heartbeats are at most 40 seconds apart. -/
def Lively (first : ℕ) (events : List Event) : Prop :=
  (first :: beats events).IsChain fun t t' => t ≤ t' ∧ t' ≤ t + 40 * 10 ^ 9

theorem Lively.of_append {first : ℕ} {pre post : List Event} (h : Lively first (pre ++ post)) :
    Lively first pre := by
  rw [Lively, beats, List.filterMap_append, ← List.cons_append] at h
  exact (List.isChain_append.1 h).1

theorem Lively.last {first t : ℕ} {events : List Event} (h : Lively first (events ++ [.beat t])) :
    latest first events ≤ t ∧ t ≤ latest first events + 40 * 10 ^ 9 := by
  rw [Lively, beats, List.filterMap_append, ← List.cons_append] at h
  exact (List.isChain_append.1 h).2.2 _ (by rw [List.getLast?_cons]; rfl) t rfl

/-! ### The invariant -/

theorem beatAt_of_writes {start : BitVec 32} {t : ℕ} {s : Watchdog w}
    (h : s.writes (millisAt start t) = true) :
    s.beatAt start t = ⟨(millisAt start t).setWidth w, some (t / 10 ^ 9 : ℕ)⟩ := by
  rw [beatAt, heartBeat, if_pos h]

theorem beatAt_of_not_writes {start : BitVec 32} {t : ℕ} {s : Watchdog w}
    (h : s.writes (millisAt start t) = false) : s.beatAt start t = s := by
  rw [beatAt, heartBeat, if_neg (by simp [h])]

/-- The last write was at `written`, at most 20 seconds before the last heartbeat, at `last`. -/
structure Fresh (start : BitVec 32) (last written : ℕ) (s : Watchdog w) : Prop where
  lastBeat : s.lastBeat = (millisAt start written).setWidth w
  mtime : s.mtime = some (written / 10 ^ 9 : ℕ)
  le : written ≤ last
  age : last / 10 ^ 6 ≤ written / 10 ^ 6 + 20000

namespace Fresh
variable {start : BitVec 32} {last written t : ℕ} {s : Watchdog w}

theorem of_writes (h : s.writes (millisAt start t) = true) : Fresh start t t (s.beatAt start t) := by
  rw [beatAt_of_writes h]
  exact ⟨rfl, rfl, le_rfl, Nat.le_add_right _ _⟩

theorem beat (hw : 32 ≤ w) (h : Fresh start last written s) (hle : last ≤ t)
    (hnext : t ≤ last + 40 * 10 ^ 9) : ∃ written', Fresh start t written' (s.beatAt start t) := by
  cases hwrites : s.writes (millisAt start t) with
  | true => exact ⟨t, of_writes hwrites⟩
  | false =>
    have hwritten := h.le
    have hage := h.age
    obtain ⟨d, hd⟩ := Nat.exists_eq_add_of_le (show written / 10 ^ 6 ≤ t / 10 ^ 6 by omega)
    have hread : millisAt start t = Counter.read (millisAt start written) d := by
      rw [millisAt, hd, millisAt, Counter.read_read]
    -- if the counter has wrapped, a difference of more than 32 bits is only larger
    have hdiff := Counter.toNat_setWidth_read_sub hw (millisAt start written)
      (show d < 2 ^ 32 by omega)
    rw [beatAt_of_not_writes hwrites]
    rw [writes, h.lastBeat, hread, hdiff, decide_eq_false_iff_not] at hwrites
    have htimer : WATCHDOG_TIMER / 3 = 20000 := rfl
    refine ⟨written, h.lastBeat, h.mtime, by omega, ?_⟩
    split at hwrites <;> omega

theorem not_stale (h : Fresh start last written s) (hpoll : t ≤ last + 40 * 10 ^ 9) :
    s.stale (t / 10 ^ 9 : ℕ) = false := by
  have hage := h.age
  have htimer : WATCHDOG_TIMER / 1000 = 60 := rfl
  rw [stale, h.mtime, htimer]
  refine decide_eq_false_iff_not.2 ?_
  omega

theorem run (hw : 32 ≤ w) {first : ℕ} (hfirst : s.writes (millisAt start first) = true)
    {events : List Event} (h : Lively first events) :
    ∃ written, Fresh start (latest first events) written
      (Watchdog.run start (s.beatAt start first) events) := by
  induction events using List.reverseRecOn with
  | nil => exact ⟨first, of_writes hfirst⟩
  | append_singleton events e ih =>
    obtain ⟨written, hfresh⟩ := ih h.of_append
    rw [Watchdog.run, List.foldl_append]
    cases e with
    | beat t =>
      have hlatest : latest first (events ++ [.beat t]) = t := by
        rw [latest, beats, List.filterMap_append]
        simp [Event.beat?]
      rw [hlatest]
      exact hfresh.beat hw h.last.1 h.last.2
    | poll t =>
      have hlatest : latest first (events ++ [.poll t]) = latest first events := by
        rw [latest, latest, beats, List.filterMap_append]
        simp [Event.beat?, beats]
      rw [hlatest]
      exact ⟨written, hfresh⟩

end Fresh

/-- A sketch whose heartbeats, from the first one that wrote the file on, are at most 40 seconds
apart is not taken for dead by any poll up to 40 seconds after the latest of them, for either width
of `unsigned long` and wherever the counter stood. -/
theorem poll_not_stale (hw : 32 ≤ w) (start : BitVec 32) {s : Watchdog w} {first : ℕ}
    (hfirst : s.writes (millisAt start first) = true) {events : List Event}
    (hlively : Lively first events) :
    ∀ pre t post, events = pre ++ .poll t :: post → t ≤ latest first pre + 40 * 10 ^ 9 →
      (run start (s.beatAt start first) pre).stale (t / 10 ^ 9 : ℕ) = false := by
  rintro pre t post rfl hpoll
  obtain ⟨written, hfresh⟩ := Fresh.run hw hfirst hlively.of_append
  exact hfresh.not_stale hpoll

/-- Over a wrap of the counter: writes at 0 and 45 seconds, and a poll 40 seconds after the last
heartbeat. -/
theorem poll_not_stale_wrapping :
    let start : BitVec 32 := BitVec.ofNat 32 (2 ^ 32 - 25000)
    let s : Watchdog 32 := ⟨0, none⟩
    let pre := [Event.beat (20 * 10 ^ 9), .poll (44 * 10 ^ 9), .beat (45 * 10 ^ 9),
      .beat (65 * 10 ^ 9)]
    (run start (s.beatAt start 0) pre).stale (105 * 10 ^ 9 / 10 ^ 9 : ℕ) = false := by
  intro start s pre
  have hlively : Lively 0 (pre ++ [.poll (105 * 10 ^ 9)]) := by unfold Lively; decide
  exact poll_not_stale (by decide) start (by decide) hlively pre _ [] rfl (by decide)

end Watchdog

/-- The heartbeat of the main loop in a build with the watchdog, with a file that can be opened. -/
theorem Core.heartBeat_eq {w : ℕ} {D τ : Type} {b : Build} (hb : b.watchdog = true)
    {i : LoopInput w D τ} {c : Core w D τ} (hfile : i.watchdogFile = true) (mtime : Option ℤ)
    (seconds : ℤ) :
    c.heartBeat b i = { c with
      lastBeat := (Watchdog.heartBeat i.beat seconds ⟨c.lastBeat, mtime⟩).lastBeat } := by
  rw [Core.heartBeat, Watchdog.heartBeat, Watchdog.writes, hb]
  split
  · rename_i h
    rw [if_neg (by simp [hfile]), if_pos (by simpa using h)]
  · rename_i h
    rw [if_neg (by simpa using h)]

end Terremoti
