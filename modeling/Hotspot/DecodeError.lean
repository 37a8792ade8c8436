import Hotspot.Security.Suite
import Hotspot.Text.Numeral

/-!
Why received octets or written addresses could not be decoded. Each cause is a value; `message` is
the only place where it is put into words.
-/

set_option autoImplicit false
set_option relaxedAutoImplicit false

namespace Hotspot

inductive ElementFault
  | truncated (field : String)
  | listTruncated (field : String)
  | lengthExceedsBuffer
  | unsupportedVersion (protocol : String) (version : UInt16)
  | foreignVendor
  | described (text : String)
  deriving DecidableEq, Repr

def ElementFault.message : ElementFault → String
  | .truncated field => s!"{field} truncated"
  | .listTruncated field => s!"{field} list truncated"
  | .lengthExceedsBuffer => "length exceeds buffer"
  | .unsupportedVersion protocol version => s!"unsupported {protocol} version {version}"
  | .foreignVendor => "missing 00-50-F2 type 1 header"
  | .described text => text

inductive AddressFault
  | fieldCount (count : Nat)
  | octetCount (count : Nat)
  | octet (text : String)
  | described (text : String)
  deriving DecidableEq, Repr

def AddressFault.message : AddressFault → String
  | .fieldCount count => s!"Expected 6 octets, got {count}"
  | .octetCount count => s!"Expected 6 bytes, got {count}"
  | .octet text => s!"Invalid octet '{text}'"
  | .described text => text

inductive NameFault
  | tooLong (octets : Nat) (limit : Nat)
  | described (text : String)
  deriving DecidableEq, Repr

def NameFault.message : NameFault → String
  | .tooLong octets limit => s!"{octets} octets exceeds {limit}"
  | .described text => text

inductive DecodeError
  | element (what : String) (fault : ElementFault)
  | address (fault : AddressFault)
  | name (fault : NameFault)
  | unknownSuite (suite : Suite)
  deriving DecidableEq, Repr

namespace DecodeError

private def bracketed (octets : List UInt8) : String :=
  let shown := octets.map fun b => String.ofList (Text.Numeral.upperOctet b)
  "[" ++ ", ".intercalate shown ++ "]"

def message : DecodeError → String
  | .element what fault => s!"Failed to parse {what}: {fault.message}"
  | .address fault => s!"Invalid MAC address: {fault.message}"
  | .name fault => s!"Invalid SSID: {fault.message}"
  | .unknownSuite suite => s!"Unknown suite selector {bracketed suite.octets}"

/-- Holds of the errors that come from received octets, not from an argument. -/
def isElement : DecodeError → Bool
  | .element _ _ => true
  | _ => false

end DecodeError

theorem exists_of_bind_eq_ok {ε α β : Type} {x : Except ε α} {next : α → Except ε β} {b : β}
    (h : (x >>= next) = .ok b) : ∃ a, x = .ok a ∧ next a = .ok b := by
  cases x with
  | error _ => cases h
  | ok a => exact ⟨a, rfl, h⟩

end Hotspot
