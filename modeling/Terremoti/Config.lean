import Terremoti.Utils

/-!
# The saved configuration (`Config.cpp`)

`save` is the text `Config::save` writes, `readConfigFile` reads such a text back: lines of at most
99 characters, each split at its first colon, trimmed and matched on a prefix. `trim` throws on a
text with nothing in it, and then nothing catches it: `none`.
-/

namespace Terremoti

/-- The static fields of `class Config` but the constant `syslogServer`. -/
structure Config (D : Type) where
  macAddress : List Byte
  lat : D
  lon : D

def snprintf (n : ℕ) (s : List Byte) : List Byte := s.take (n - 1)

/-- `strchr`, from the character after the one found. -/
def afterChr (c : Byte) : List Byte → Option (List Byte)
  | [] => none
  | b :: s => if b = c then some s else afterChr c s

/-- The lines `fgets` reads with room for `max` characters; `acc` is the line begun. -/
def fgets (max : ℕ) : List Byte → List Byte → List (List Byte)
  | acc, [] => if acc = [] then [] else [acc]
  | acc, c :: s =>
    let acc := acc ++ [c]
    if c = 10 ∨ acc.length = max then acc :: fgets max [] s else fgets max acc s

namespace Config

variable {D : Type}

/-- The MAC address as `getMacAddressAsByte` reads it from the device id; past its end the string
has a NUL. -/
def getMacAddressAsByte (c : Config D) (i : Fin 6) : Byte :=
  BitVec.ofInt 8 <| strtol16 <| cstr
    [c.macAddress.getD (i * 2) 0, c.macAddress.getD (i * 2 + 1) 0]

variable [DoubleText D]

def save (c : Config D) : List Byte :=
  snprintf 200 (str "deviceid:" ++ cstr c.macAddress ++ [10]) ++
    snprintf 200 (str "lat:" ++ DoubleText.printf c.lat ++ [10]) ++
    snprintf 200 (str "lon:" ++ DoubleText.printf c.lon ++ [10])

def trimArgument (arg : List Byte) : Option (List Byte) := do
  let argument ← Utils.trim arg 32
  let argument ← Utils.trim argument 10
  Utils.trim argument 13

/-- The body of the loop of `readConfigFile`; `buf` is the line as a C string. -/
def readLine (c : Config D) (buf : List Byte) : Option (Config D) :=
  match afterChr 58 buf with
  | none => some c
  | some arg => do
    let argument ← trimArgument arg
    if str "deviceid" <+: buf then
      if argument.length < 12 then some c else some { c with macAddress := argument }
    else if str "lat" <+: buf then some { c with lat := Utils.atofn argument 8 }
    else if str "lon" <+: buf then some { c with lon := Utils.atofn argument 8 }
    else some c

/-- `Config::readConfigFile` on the contents of the file, or on a file that cannot be opened. -/
def readConfigFile (c : Config D) : Option (List Byte) → Option (Bool × Config D)
  | none => some (false, c)
  | some text => do
    let c ← ((fgets 99 [] text).map cstr).foldlM readLine c
    some (true, c)

end Config
end Terremoti
