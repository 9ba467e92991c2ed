import Terremoti.Utils

/-!
# Logging (`Log::log`, `Utils::getInterfaceMAC`)

A line of the log names the device: `log` takes the configured address, and looks the hardware
address up if there is none. When the lookup fails, `getInterfaceMAC` logs that at `LEVEL_DEBUG`,
which takes the next lookup. `lookup n` is what the system does at the `n`th lookup. `fuel` bounds
the depth of the calls; a call returns if some depth is enough (`log_returns_iff`).
-/

namespace Terremoti

inductive LogLevel
  | DEBUG
  | INFO
  | ERROR
  deriving DecidableEq

/-- The value of the enumerator. -/
def LogLevel.toNat : LogLevel → ℕ
  | DEBUG => 0
  | INFO => 1
  | ERROR => 2

/-- What comes of a lookup of the interfaces: the address of one that is not the loopback, no
socket, no list of interfaces, or no such interface. -/
inductive Lookup
  | success (mac_address : Fin 6 → Byte)
  | socketFailed
  | ioctlFailed
  | noInterface

namespace Lookup

/-- The address, or the message logged in its place. -/
def result : Lookup → (Fin 6 → Byte) ⊕ List Byte
  | success mac_address => .inl mac_address
  | socketFailed => .inr (str "MAC: Socket failed")
  | ioctlFailed => .inr (str "MAC: ioctl interface lookup failed")
  | noInterface => .inr (str "MAC: address lookup failed, no such interface")

def succeeds (r : Lookup) : Bool := r.result.isLeft

end Lookup

/-- A line of the log, without its date. -/
structure LogEntry where
  level : LogLevel
  macAddress : List Byte
  msg : List Byte
  deriving DecidableEq

/-- What the logging reads and writes: `Log::logLevel`, `Config::macAddress`, how many lookups have
been made, and the lines written. -/
structure Logger where
  logLevel : LogLevel
  macAddress : List Byte
  lookups : ℕ := 0
  lines : List LogEntry := []
  deriving DecidableEq

namespace Logger

/-- That of the watchdog's process, whose log is at `LEVEL_DEBUG`; the address is configured later,
by the sketch. -/
def watchdog : Logger := { logLevel := .DEBUG, macAddress := [] }

def write (e : LogEntry) (l : Logger) : Logger := { l with lines := l.lines ++ [e] }

/-- `Utils::getInterfaceMAC`; `d` is `Log::d`. -/
def getInterfaceMAC (lookup : ℕ → Lookup) (d : List Byte → Logger → Option Logger) (l : Logger) :
    Option (List Byte × Logger) :=
  let r := lookup l.lookups
  let l := { l with lookups := l.lookups + 1 }
  match r.result with
  | .inl mac_address => some (Utils.getInterfaceMAC (some mac_address), l)
  | .inr msg => (d msg l).map fun l => (Utils.getInterfaceMAC none, l)

/-- `Log::log`, with at most `fuel` calls of it open at a time. -/
def log (lookup : ℕ → Lookup) : ℕ → LogLevel → List Byte → Logger → Option Logger
  | 0, _, _, _ => none
  | fuel + 1, level, msg, l =>
    if l.logLevel.toNat > level.toNat then some l
    else if l.macAddress = [] then
      (getInterfaceMAC lookup (log lookup fuel .DEBUG) l).map fun r => r.2.write ⟨level, r.1, msg⟩
    else some (l.write ⟨level, l.macAddress, msg⟩)

variable {lookup : ℕ → Lookup}

/-- The call comes to its end. -/
def Returns (lookup : ℕ → Lookup) (level : LogLevel) (msg : List Byte) (l : Logger) : Prop :=
  ∃ fuel, (log lookup fuel level msg l).isSome = true

/-! ### One call -/

theorem log_skip (fuel : ℕ) {level : LogLevel} (msg : List Byte) {l : Logger}
    (h : level.toNat < l.logLevel.toNat) : log lookup (fuel + 1) level msg l = some l := by
  rw [log, if_pos h]

theorem log_named (fuel : ℕ) {level : LogLevel} (msg : List Byte) {l : Logger}
    (h : l.logLevel.toNat ≤ level.toNat) (hmac : l.macAddress ≠ []) :
    log lookup (fuel + 1) level msg l = some (l.write ⟨level, l.macAddress, msg⟩) := by
  rw [log, if_neg (by omega), if_neg hmac]

theorem log_success (fuel : ℕ) {level : LogLevel} (msg : List Byte) {l : Logger}
    (h : l.logLevel.toNat ≤ level.toNat) (hmac : l.macAddress = [])
    (hlookup : (lookup l.lookups).succeeds = true) :
    (log lookup (fuel + 1) level msg l).isSome = true := by
  rw [log, if_neg (by omega), if_pos hmac, getInterfaceMAC]
  cases hr : (lookup l.lookups).result with
  | inl mac_address => rfl
  | inr text => simp [Lookup.succeeds, hr] at hlookup

/-- A failed lookup: the call returns if the call of `Log::d` about it does. -/
theorem log_failure (fuel : ℕ) {level : LogLevel} (msg : List Byte) {l : Logger}
    (h : l.logLevel.toNat ≤ level.toNat) (hmac : l.macAddress = [])
    (hlookup : (lookup l.lookups).succeeds = false) :
    ∃ text, (log lookup (fuel + 1) level msg l).isSome =
      (log lookup fuel .DEBUG text { l with lookups := l.lookups + 1 }).isSome := by
  rw [log, if_neg (by omega), if_pos hmac, getInterfaceMAC]
  cases hr : (lookup l.lookups).result with
  | inl mac_address => simp [Lookup.succeeds, hr] at hlookup
  | inr text => exact ⟨text, by simp⟩

/-! ### Any number of calls -/

/-- At `LEVEL_DEBUG` and without an address every failed lookup leads to the next one. -/
theorem log_failing (fuel : ℕ) (level : LogLevel) (msg : List Byte) {l : Logger}
    (hlevel : l.logLevel = .DEBUG) (hmac : l.macAddress = [])
    (hlookup : ∀ n ≥ l.lookups, (lookup n).succeeds = false) :
    log lookup fuel level msg l = none := by
  induction fuel generalizing level msg l with
  | zero => rfl
  | succ fuel ih =>
    have hlog : l.logLevel.toNat ≤ level.toNat := by rw [hlevel]; exact Nat.zero_le _
    obtain ⟨text, hcall⟩ := log_failure fuel msg hlog hmac (hlookup _ le_rfl)
    have hnone : log lookup fuel .DEBUG text { l with lookups := l.lookups + 1 } = none := by
      refine ih .DEBUG text ?_ ?_ ?_
      · exact hlevel
      · exact hmac
      intro n hn
      exact hlookup n (Nat.le_of_succ_le hn)
    rw [hnone] at hcall
    simpa using hcall

/-- A call that finds no address returns at the latest with the next lookup that succeeds. -/
theorem log_of_succeeds (k : ℕ) (level : LogLevel) (msg : List Byte) {l : Logger}
    (hmac : l.macAddress = []) (hlookup : (lookup (l.lookups + k)).succeeds = true) :
    (log lookup (k + 1) level msg l).isSome = true := by
  induction k generalizing level msg l with
  | zero =>
    by_cases h : l.logLevel.toNat ≤ level.toNat
    · exact log_success 0 msg h hmac hlookup
    · rw [log_skip 0 msg (by omega)]
      rfl
  | succ k ih =>
    by_cases h : l.logLevel.toNat ≤ level.toNat
    · cases hnow : (lookup l.lookups).succeeds with
      | true => exact log_success _ msg h hmac hnow
      | false =>
        obtain ⟨text, hcall⟩ := log_failure (k + 1) msg h hmac hnow
        rw [hcall]
        refine ih .DEBUG text ?_ ?_
        · exact hmac
        · rwa [Nat.add_assoc, Nat.add_comm 1 k]
    · rw [log_skip (k + 1) msg (by omega)]
      rfl

/-- The log leaves out messages of `LEVEL_DEBUG`: the message about a failed lookup takes no
lookup. -/
theorem log_of_level (level : LogLevel) (msg : List Byte) {l : Logger} (hlevel : l.logLevel ≠ .DEBUG)
    (hmac : l.macAddress = []) : (log lookup 2 level msg l).isSome = true := by
  by_cases h : l.logLevel.toNat ≤ level.toNat
  · cases hnow : (lookup l.lookups).succeeds with
    | true => exact log_success 1 msg h hmac hnow
    | false =>
      obtain ⟨text, hcall⟩ := log_failure 1 msg h hmac hnow
      have hdebug : LogLevel.DEBUG.toNat < l.logLevel.toNat := by
        cases hl : l.logLevel with
        | DEBUG => exact absurd hl hlevel
        | INFO => exact Nat.zero_lt_one
        | ERROR => exact Nat.zero_lt_two
      rw [hcall, log_skip 0 text (l := { l with lookups := l.lookups + 1 }) hdebug]
      rfl
  · rw [log_skip 1 msg (by omega)]
    rfl

/-- A call returns, unless the log is at `LEVEL_DEBUG`, no address is configured, and no lookup
from now on succeeds. -/
theorem log_returns_iff (lookup : ℕ → Lookup) (level : LogLevel) (msg : List Byte) (l : Logger) :
    Returns lookup level msg l ↔
      l.logLevel ≠ .DEBUG ∨ l.macAddress ≠ [] ∨ ∃ n ≥ l.lookups, (lookup n).succeeds = true := by
  constructor
  · rintro ⟨fuel, hfuel⟩
    by_contra! ⟨hlevel, hmac, hlookup⟩
    rw [log_failing fuel level msg hlevel hmac fun n hn => by simpa using hlookup n hn] at hfuel
    cases hfuel
  · intro h
    by_cases hmac : l.macAddress = []
    · rcases h with hlevel | hne | ⟨n, hn, hlookup⟩
      · exact ⟨2, log_of_level level msg hlevel hmac⟩
      · exact absurd hmac hne
      · obtain ⟨k, rfl⟩ := Nat.exists_eq_add_of_le hn
        exact ⟨k + 1, log_of_succeeds k level msg hmac hlookup⟩
    · refine ⟨1, ?_⟩
      by_cases hl : l.logLevel.toNat ≤ level.toNat
      · rw [log_named 0 msg hl hmac]
        rfl
      · rw [log_skip 0 msg (by omega)]
        rfl

/-- The level and the address stay. -/
theorem log_keeps {fuel : ℕ} {level : LogLevel} {msg : List Byte} {l l' : Logger}
    (h : log lookup fuel level msg l = some l') :
    l'.logLevel = l.logLevel ∧ l'.macAddress = l.macAddress := by
  induction fuel generalizing level msg l l' with
  | zero => cases h
  | succ fuel ih =>
    rw [log] at h
    split_ifs at h
    · cases h
      exact ⟨rfl, rfl⟩
    · rw [getInterfaceMAC] at h
      cases hr : (lookup l.lookups).result with
      | inl mac_address =>
        rw [hr] at h
        cases h
        exact ⟨rfl, rfl⟩
      | inr text =>
        rw [hr] at h
        simp only [Option.map_map, Option.map_eq_some_iff] at h
        obtain ⟨l₁, hcall, rfl⟩ := h
        have hkeeps : l₁.logLevel = _ ∧ l₁.macAddress = _ := ih hcall
        exact hkeeps
    · cases h
      exact ⟨rfl, rfl⟩

/-- Without an address a call at `LEVEL_DEBUG` makes lookups up to the first that succeeds. -/
theorem log_lookups {fuel : ℕ} {level : LogLevel} {msg : List Byte} {l l' : Logger}
    (hlevel : l.logLevel = .DEBUG) (hmac : l.macAddress = [])
    (h : log lookup fuel level msg l = some l') :
    ∃ n ≥ l.lookups, l'.lookups = n + 1 ∧ (lookup n).succeeds = true ∧
      ∀ m ≥ l.lookups, m < n → (lookup m).succeeds = false := by
  induction fuel generalizing level msg l l' with
  | zero => cases h
  | succ fuel ih =>
    rw [log, if_neg (by rw [hlevel]; exact Nat.not_lt_zero _), if_pos hmac, getInterfaceMAC] at h
    cases hr : (lookup l.lookups).result with
    | inl mac_address =>
      rw [hr] at h
      cases h
      refine ⟨l.lookups, le_rfl, rfl, ?_, fun m hm hlt => absurd hm (Nat.not_le.2 hlt)⟩
      rw [Lookup.succeeds, hr]
      rfl
    | inr text =>
      rw [hr] at h
      simp only [Option.map_map, Option.map_eq_some_iff] at h
      obtain ⟨l₁, hcall, rfl⟩ := h
      obtain ⟨n, hn, hlookups, hsucceeds, hfail⟩ := ih (l := { l with
        lookups := l.lookups + 1 }) hlevel hmac hcall
      refine ⟨n, Nat.le_of_succ_le hn, hlookups, hsucceeds, fun m hm hlt => ?_⟩
      rcases Nat.eq_or_lt_of_le hm with rfl | hm
      · rw [Lookup.succeeds, hr]
        rfl
      · exact hfail m hm hlt

/-- With the network down, the first line of the watchdog's log is never written. -/
theorem not_returns_watchdog :
    ¬ Returns (fun _ => .noInterface) .DEBUG (str "Watchdog PID is 7") watchdog := by
  rintro ⟨fuel, hfuel⟩
  rw [log_failing fuel .DEBUG _ rfl rfl fun _ _ => rfl] at hfuel
  cases hfuel

end Logger
end Terremoti
