import Terremoti.Logging
import Terremoti.Watchdog

/-!
# When the watchdog reboots a hung sketch (`Watchdog::launch`)

The watchdog process writes a line to its log, polls until the heartbeat is stale (`missedAt`), writes
another and comes to `platformReboot` (`Reboots`). Of a sketch that has made heartbeats at most 40
seconds apart and then hangs, the heartbeat goes stale between 40 and 61 seconds after the last one;
the reboot is for the first poll after that, if the two lines come to their end (`hung_rebooted`). The
process is that of a Linux build, and the one of the sketch is still there.
-/

namespace Terremoti
namespace Watchdog

variable {w : ℕ}

namespace Event

def time : Event → ℕ
  | beat t => t
  | poll t => t

def poll? : Event → Option ℕ
  | beat _ => none
  | poll t => some t

end Event

def polls (events : List Event) : List ℕ := events.filterMap Event.poll?

/-- The poll that finds the heartbeat missed. -/
def missedAt (start : BitVec 32) : Watchdog w → List Event → Option ℕ
  | _, [] => none
  | s, .beat t :: events => missedAt start (s.beatAt start t) events
  | s, .poll t :: events =>
    if s.stale (t / 10 ^ 9 : ℕ) = true then some t else missedAt start s events

/-- The reason of the reboot while the sketch's process is there. -/
def missedReason : List Byte := str "Reboot reason: Heartbeat missed;Sketch is not running"

/-- The process comes to `platformReboot` for the poll at `t`. Its log looks for the hardware address
before the first poll and behind the last; `lookup n` is what the system does at the `n`th lookup. -/
def Reboots (lookup : ℕ → Lookup) (pid : List Byte) (start : BitVec 32) (s : Watchdog w)
    (events : List Event) (t : ℕ) : Prop :=
  ∃ fuel l, Logger.log lookup fuel .DEBUG (str "Watchdog PID is " ++ pid) .watchdog = some l ∧
    missedAt start s events = some t ∧ Logger.Returns lookup .INFO missedReason l

/-- It does if two lookups succeed. -/
theorem reboots_iff {lookup : ℕ → Lookup} {pid : List Byte} {start : BitVec 32} {s : Watchdog w}
    {events : List Event} {t : ℕ} : Reboots lookup pid start s events t ↔
      missedAt start s events = some t ∧
        ∃ n m, n < m ∧ (lookup n).succeeds = true ∧ (lookup m).succeeds = true := by
  constructor
  · rintro ⟨fuel, l, hl, hmissed, hreturns⟩
    obtain ⟨n, -, hlookups, hn, -⟩ := Logger.log_lookups rfl rfl hl
    obtain ⟨hlogLevel, hmac⟩ := Logger.log_keeps hl
    refine ⟨hmissed, n, ?_⟩
    rcases (Logger.log_returns_iff lookup .INFO missedReason l).1 hreturns with hlevel | hne | hm
    · exact absurd hlogLevel hlevel
    · exact absurd hmac hne
    · obtain ⟨m, hm, hsucceeds⟩ := hm
      exact ⟨m, by omega, hn, hsucceeds⟩
  · rintro ⟨hmissed, n, m, hnm, hn, hm⟩
    obtain ⟨fuel, hfuel⟩ := (Logger.log_returns_iff lookup .DEBUG (str "Watchdog PID is " ++ pid)
      .watchdog).2 (.inr (.inr ⟨n, Nat.zero_le n, hn⟩))
    obtain ⟨l, hl⟩ := Option.isSome_iff_exists.1 hfuel
    obtain ⟨k, -, hlookups, -, hfail⟩ := Logger.log_lookups rfl rfl hl
    -- the first line has stopped at `n` at the latest
    have hkn : k ≤ n := by
      by_contra hlt
      rw [hfail n (Nat.zero_le n) (Nat.not_le.1 hlt)] at hn
      cases hn
    exact ⟨fuel, l, hl, hmissed, (Logger.log_returns_iff lookup .INFO missedReason l).2
      (.inr (.inr ⟨m, by omega, hm⟩))⟩

/-! ### The last write -/

/-- The file was written, at the latest at `last`. -/
def WrittenBy (last : ℕ) (s : Watchdog w) : Prop :=
  ∃ written ≤ last, s.mtime = some (written / 10 ^ 9 : ℕ)

namespace WrittenBy
variable {start : BitVec 32} {last : ℕ} {s : Watchdog w}

theorem of_writes (h : s.writes (millisAt start last) = true) :
    (s.beatAt start last).WrittenBy last := by
  rw [beatAt_of_writes h]
  exact ⟨last, le_rfl, rfl⟩

theorem beatAt (h : s.WrittenBy last) {t : ℕ} (ht : t ≤ last) : (s.beatAt start t).WrittenBy last := by
  cases hwrites : s.writes (millisAt start t) with
  | true =>
    rw [beatAt_of_writes hwrites]
    exact ⟨t, ht, rfl⟩
  | false =>
    rw [beatAt_of_not_writes hwrites]
    exact h

theorem run (h : s.WrittenBy last) {events : List Event} (hbeats : ∀ t ∈ beats events, t ≤ last) :
    (Watchdog.run start s events).WrittenBy last := by
  induction events generalizing s with
  | nil => exact h
  | cons e events ih =>
    cases e with
    | beat t =>
      have hbeats' : ∀ u ∈ t :: beats events, u ≤ last := hbeats
      rw [List.forall_mem_cons] at hbeats'
      exact ih (h.beatAt hbeats'.1) hbeats'.2
    | poll t => exact ih h hbeats

/-- 61 seconds after the last heartbeat it is stale, wherever the counter stood. -/
theorem stale (h : s.WrittenBy last) {t : ℕ} (ht : last + 61 * 10 ^ 9 ≤ t) :
    s.stale (t / 10 ^ 9 : ℕ) = true := by
  obtain ⟨written, hwritten, hmtime⟩ := h
  have htimer : WATCHDOG_TIMER / 1000 = 60 := rfl
  rw [Watchdog.stale, hmtime, htimer]
  refine decide_eq_true ?_
  omega

end WrittenBy

theorem Lively.le_latest {first : ℕ} {events : List Event} (h : Lively first events) :
    first ≤ latest first events ∧ ∀ t ∈ beats events, t ≤ latest first events := by
  induction events using List.reverseRecOn with
  | nil => exact ⟨le_rfl, List.forall_mem_nil _⟩
  | append_singleton events e ih =>
    obtain ⟨hfirst, hbeats⟩ := ih h.of_append
    cases e with
    | beat t =>
      have hlatest : latest first (events ++ [.beat t]) = t := by
        rw [latest, beats, List.filterMap_append]
        simp [Event.beat?]
      have hle := h.last.1
      rw [hlatest]
      refine ⟨hfirst.trans hle, fun u hu => ?_⟩
      rw [beats, List.filterMap_append] at hu
      rcases List.mem_append.1 hu with hu | hu
      · exact (hbeats u hu).trans hle
      · exact (List.mem_singleton.1 hu).le
    | poll t =>
      have hsame : beats (events ++ [.poll t]) = beats events := by
        rw [beats, List.filterMap_append]
        exact List.append_nil _
      rw [latest, hsame]
      exact ⟨hfirst, hbeats⟩

/-- A beat after a poll comes at most 40 seconds after the latest one before it. -/
theorem Lively.next {first t : ℕ} {pre post : List Event} (h : Lively first (pre ++ .poll t :: post)) :
    ∀ u ∈ (beats post).head?, u ≤ latest first pre + 40 * 10 ^ 9 := by
  intro u hu
  rw [Lively, beats, List.filterMap_append, ← List.cons_append] at h
  exact ((List.isChain_append.1 h).2.2 _ (by rw [List.getLast?_cons]; rfl) u hu).2

/-! ### The poll -/

section
variable {start : BitVec 32} {s : Watchdog w} {events : List Event}

/-- That poll is one that finds the heartbeat stale. -/
theorem stale_of_missedAt {t : ℕ} (h : missedAt start s events = some t) :
    ∃ pre post, events = pre ++ .poll t :: post ∧
      (run start s pre).stale (t / 10 ^ 9 : ℕ) = true := by
  induction events generalizing s with
  | nil => cases h
  | cons e events ih =>
    cases e with
    | beat u =>
      obtain ⟨pre, post, rfl, hstale⟩ := ih h
      exact ⟨.beat u :: pre, post, rfl, hstale⟩
    | poll u =>
      rw [missedAt] at h
      split_ifs at h with hu
      · obtain rfl := Option.some.inj h
        exact ⟨[], events, rfl, hu⟩
      · obtain ⟨pre, post, rfl, hstale⟩ := ih h
        exact ⟨.poll u :: pre, post, rfl, hstale⟩

/-- A stale heartbeat is found by the first poll after it has gone stale. -/
theorem missedAt_le {pre post : List Event} {t : ℕ}
    (hstale : (run start s pre).stale (t / 10 ^ 9 : ℕ) = true)
    (hsorted : (pre ++ .poll t :: post).Pairwise fun e e' => e.time ≤ e'.time) :
    ∃ t' ≤ t, missedAt start s (pre ++ .poll t :: post) = some t' := by
  induction pre generalizing s with
  | nil => exact ⟨t, le_rfl, if_pos hstale⟩
  | cons e pre ih =>
    rw [List.cons_append, List.pairwise_cons] at hsorted
    have ht : e.time ≤ t := hsorted.1 (.poll t) (List.mem_append_right _ (List.mem_cons_self ..))
    cases e with
    | beat u => exact ih hstale hsorted.2
    | poll u =>
      rw [List.cons_append, missedAt]
      split_ifs with hu
      · exact ⟨u, ht, rfl⟩
      · exact ih hstale hsorted.2

/-- Polls at most `gap` apart meet a time that some poll is past within `gap` of it. -/
theorem exists_poll {gap deadline first : ℕ} {ts : List ℕ} (hfirst : first < deadline)
    (hgap : (first :: ts).IsChain fun t t' => t' ≤ t + gap) (hlong : ∃ t ∈ ts, deadline ≤ t) :
    ∃ t ∈ ts, deadline ≤ t ∧ t ≤ deadline + gap := by
  induction ts generalizing first with
  | nil =>
    obtain ⟨t, ht, -⟩ := hlong
    cases ht
  | cons u ts ih =>
    obtain ⟨hu, hgap⟩ := List.isChain_cons_cons.1 hgap
    by_cases hdeadline : deadline ≤ u
    · exact ⟨u, List.mem_cons_self .., hdeadline, by omega⟩
    · obtain ⟨t, ht, hle⟩ := hlong
      rcases List.mem_cons.1 ht with rfl | ht
      · exact absurd hle hdeadline
      · obtain ⟨v, hv, hbounds⟩ := ih (Nat.not_le.1 hdeadline) hgap ⟨t, ht, hle⟩
        exact ⟨v, List.mem_cons_of_mem _ hv, hbounds⟩

theorem mem_polls {t : ℕ} (h : t ∈ polls events) :
    ∃ pre post, events = pre ++ .poll t :: post := by
  obtain ⟨e, he, ht⟩ := List.mem_filterMap.1 h
  obtain ⟨pre, post, rfl⟩ := List.append_of_mem he
  cases e with
  | beat u => cases ht
  | poll u =>
    obtain rfl := Option.some.inj ht
    exact ⟨pre, post, rfl⟩

/-- The heartbeat of a sketch that has made its last one, all being at most 40 seconds apart, is found
missed more than 40 seconds after it, and within 61 seconds and the time between two polls. -/
theorem hung_missed (hw : 32 ≤ w) {first : ℕ} (hfirst : s.writes (millisAt start first) = true)
    (hlively : Lively first events) (hsorted : events.Pairwise fun e e' => e.time ≤ e'.time)
    {gap : ℕ} (hgap : (first :: polls events).IsChain fun t t' => t' ≤ t + gap)
    (hlong : ∃ t ∈ polls events, latest first events + 61 * 10 ^ 9 ≤ t) :
    ∃ t, missedAt start (s.beatAt start first) events = some t ∧
      latest first events + 40 * 10 ^ 9 < t ∧ t ≤ latest first events + 61 * 10 ^ 9 + gap := by
  obtain ⟨hle, hbeats⟩ := hlively.le_latest
  obtain ⟨t, ht, hdeadline, hwithin⟩ := exists_poll (by omega) hgap hlong
  obtain ⟨pre, post, hevents⟩ := mem_polls ht
  have hwritten : (run start (s.beatAt start first) pre).WrittenBy (latest first events) := by
    obtain ⟨written, hwritten, hmtime⟩ := WrittenBy.of_writes hfirst
    refine WrittenBy.run ⟨written, hwritten.trans hle, hmtime⟩ fun u hu => hbeats u ?_
    rw [hevents, beats, List.filterMap_append]
    exact List.mem_append_left _ hu
  obtain ⟨t', ht', hmissed⟩ := missedAt_le (hwritten.stale hdeadline) (hevents ▸ hsorted)
  rw [← hevents] at hmissed
  refine ⟨t', hmissed, ?_, ht'.trans hwithin⟩
  obtain ⟨pre', post', rfl, hstale⟩ := stale_of_missedAt hmissed
  by_contra hearly
  have hsoon : t' ≤ latest first pre' + 40 * 10 ^ 9 := by
    cases hnext : beats post' with
    | nil =>
      have hlatest : latest first (pre' ++ .poll t' :: post') = latest first pre' := by
        have hsame : beats (pre' ++ .poll t' :: post') = beats pre' ++ beats post' := by
          rw [beats, List.filterMap_append]
          rfl
        rw [latest, hsame, hnext, List.append_nil]
        rfl
      exact hlatest ▸ Nat.not_lt.1 hearly
    | cons u us =>
      -- the poll comes before the next beat
      have hbeat : .beat u ∈ post' := by
        obtain ⟨e, he, hu⟩ := List.mem_filterMap.1 (hnext ▸ List.mem_cons_self (a := u) (l := us))
        cases e with
        | beat v => exact Option.some.inj hu ▸ he
        | poll v => cases hu
      have hbefore := (List.pairwise_cons.1 (List.pairwise_append.1 hsorted).2.1).1 _ hbeat
      exact hbefore.trans (hlively.next u (by rw [hnext]; rfl))
  obtain ⟨written, hfresh⟩ := Fresh.run hw hfirst hlively.of_append
  rw [hfresh.not_stale hsoon] at hstale
  cases hstale

/-- For the sketch there is one such poll, and the process comes to reboot for that one, if two
lookups of the hardware address succeed, or for none. -/
theorem hung_rebooted (hw : 32 ≤ w) {first : ℕ} (hfirst : s.writes (millisAt start first) = true)
    (hlively : Lively first events) (hsorted : events.Pairwise fun e e' => e.time ≤ e'.time)
    {gap : ℕ} (hgap : (first :: polls events).IsChain fun t t' => t' ≤ t + gap)
    (hlong : ∃ t ∈ polls events, latest first events + 61 * 10 ^ 9 ≤ t)
    (lookup : ℕ → Lookup) (pid : List Byte) :
    ∃ t, latest first events + 40 * 10 ^ 9 < t ∧ t ≤ latest first events + 61 * 10 ^ 9 + gap ∧
      ∀ t', Reboots lookup pid start (s.beatAt start first) events t' ↔
        t' = t ∧ ∃ n m, n < m ∧ (lookup n).succeeds = true ∧ (lookup m).succeeds = true := by
  obtain ⟨t, hmissed, hbounds⟩ := hung_missed hw hfirst hlively hsorted hgap hlong
  refine ⟨t, hbounds.1, hbounds.2, fun t' => ?_⟩
  rw [reboots_iff, hmissed, Option.some_inj, eq_comm]

end

/-- Polls every 15 seconds, and a last heartbeat after half a minute, the counter wrapping just
before it. The network comes up after the first lookup. -/
theorem hung_rebooted_wrapping :
    let start : BitVec 32 := BitVec.ofNat 32 (2 ^ 32 - 25000)
    let s : Watchdog 32 := ⟨0, none⟩
    let events := [Event.poll (15 * 10 ^ 9), .beat (30 * 10 ^ 9), .poll (30 * 10 ^ 9),
      .poll (45 * 10 ^ 9), .poll (60 * 10 ^ 9), .poll (75 * 10 ^ 9), .poll (90 * 10 ^ 9),
      .poll (105 * 10 ^ 9)]
    let lookup := fun n => if n = 0 then Lookup.noInterface else .success fun _ => 1
    ∃ t, 30 * 10 ^ 9 + 40 * 10 ^ 9 < t ∧ t ≤ 30 * 10 ^ 9 + 61 * 10 ^ 9 + 15 * 10 ^ 9 ∧
      Reboots lookup (str "7") start (s.beatAt start 0) events t := by
  intro start s events lookup
  have hlively : Lively 0 events := by
    unfold Lively
    decide
  have hfirst : s.writes (millisAt start 0) = true := by decide
  have hsorted : events.Pairwise fun e e' => e.time ≤ e'.time := by decide
  have hgap : (0 :: polls events).IsChain fun t t' => t' ≤ t + 15 * 10 ^ 9 := by decide
  have hlatest : latest 0 events = 30 * 10 ^ 9 := by decide
  have hlong : ∃ t ∈ polls events, latest 0 events + 61 * 10 ^ 9 ≤ t := by decide
  obtain ⟨t, hafter, hbefore, hreboots⟩ :=
    hung_rebooted le_rfl hfirst hlively hsorted hgap hlong lookup (str "7")
  rw [hlatest] at hafter hbefore
  exact ⟨t, hafter, hbefore, (hreboots t).2 ⟨rfl, 1, 2, Nat.lt_succ_self 1, rfl, rfl⟩⟩

end Watchdog
end Terremoti
