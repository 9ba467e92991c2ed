import Mathlib.Analysis.Real.Sqrt
import Mathlib.Tactic.Ring

/-!
# Types shared by the device's modules

`Byte`, `IPaddr` and byte strings follow `common.h` and `net/IPaddr.h`; `unsigned long` is
`BitVec w`, with `w = 32` on the Raspberry Pi and `w = 64` on `linux-x86`. `Double` lists the
operations of the C++ `double` the detector uses; `ℝ` is the instance in which they are exact.
-/

namespace Terremoti

/-- `typedef uint8_t byte`. -/
abbrev Byte := BitVec 8

/-- `IPaddr`, in host byte order. -/
abbrev IPaddr := BitVec 32

def str (s : String) : List Byte := s.toList.map fun c => BitVec.ofNat 8 c.toNat

/-! ### Intervals of `common.h`, in milliseconds -/

def NTP_SYNC_INTERVAL : ℕ := 60 * 60 * 1000
def CHECK_NETWORK_INTERVAL : ℕ := 30 * 1000
def CHECK_CONFIG_INTERVAL : ℕ := 15 * 60 * 1000
def SEISMOMETER_TICK_INTERVAL : ℕ := 50
def NTP_RESPONSE_TIMEOUT_VALUE : ℕ := 5 * 1000

/-- `double`, as far as the detector computes with it. -/
class Double (D : Type) extends NatCast D, Add D, Sub D, Mul D, Div D where
  sqrt : D → D
  gt : D → D → Bool

noncomputable instance : Double ℝ where
  sqrt := Real.sqrt
  gt a b := decide (b < a)

theorem gt_real (a b : ℝ) : Double.gt a b = decide (b < a) := rfl

theorem sqrt_real (a : ℝ) : Double.sqrt a = Real.sqrt a := rfl

end Terremoti
