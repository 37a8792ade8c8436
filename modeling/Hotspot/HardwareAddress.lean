import Hotspot.DecodeError
import Hotspot.Text.Fields

/-!
Hardware addresses of six octets: how they are read, printed and told apart.
-/

set_option autoImplicit false
set_option relaxedAutoImplicit false

namespace Hotspot

structure HardwareAddress where
  octets : List UInt8
  length_eq : octets.length = 6
  deriving DecidableEq

namespace HardwareAddress

def zero : HardwareAddress := ⟨List.replicate 6 0x00, rfl⟩

def broadcast : HardwareAddress := ⟨List.replicate 6 0xFF, rfl⟩

def ofOctets (octets : List UInt8) : Except DecodeError HardwareAddress :=
  if h : octets.length = 6 then .ok ⟨octets, h⟩
  else .error (.address (.octetCount octets.length))

def readOctet (field : List Char) : Except DecodeError UInt8 :=
  match Text.Numeral.read? 16 256 field with
  | some n => .ok (UInt8.ofNat n)
  | none => .error (.address (.octet (String.ofList field)))

/-- Colons and hyphens stand between the octets of a written address. -/
def isSeparator (c : Char) : Bool :=
  c == ':' || c == '-'

def read (text : String) : Except DecodeError HardwareAddress :=
  match Text.fields isSeparator text.toList with
  | [a, b, c, d, e, f] => do
    let a ← readOctet a
    let b ← readOctet b
    let c ← readOctet c
    let d ← readOctet d
    let e ← readOctet e
    let f ← readOctet f
    return ⟨[a, b, c, d, e, f], rfl⟩
  | parts => .error (.address (.fieldCount parts.length))

/-- Prints an address in upper case with colons between its octets. -/
def render (a : HardwareAddress) : String :=
  String.ofList (List.intercalate [':'] (a.octets.map Text.Numeral.upperOctet))

/-- Addresses a group of devices: the lowest bit of the first octet is set. -/
def isMulticast (a : HardwareAddress) : Bool :=
  a.octets.headD 0 &&& 1 != 0

def isWildcard (a : HardwareAddress) : Bool :=
  a == zero || a == broadcast

instance : LT HardwareAddress := ⟨fun a b => a.octets < b.octets⟩

instance (a b : HardwareAddress) : Decidable (a < b) :=
  inferInstanceAs (Decidable (a.octets < b.octets))

end HardwareAddress

end Hotspot
