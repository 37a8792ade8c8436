/-!
Information elements: an octet that says what an element is, an octet that counts its body, and the
body. A row of them is walked from the front until what is left is too short for what it announces.
-/

set_option autoImplicit false
set_option relaxedAutoImplicit false

namespace Hotspot

structure Element where
  id : UInt8
  body : List UInt8
  deriving DecidableEq, Repr

namespace Element

def encode (e : Element) : List UInt8 :=
  e.id :: UInt8.ofNat e.body.length :: e.body

/-- The elements at the front of a row of octets, up to the first that runs past its end. -/
def walk : List UInt8 → List Element
  | id :: len :: rest =>
    if len.toNat ≤ rest.length then ⟨id, rest.take len.toNat⟩ :: walk (rest.drop len.toNat)
    else []
  | _ => []
termination_by octets => octets.length
decreasing_by
  simp only [List.length_drop, List.length_cons]
  omega

def ssidId : UInt8 := 0

def ratesId : UInt8 := 1

def countryId : UInt8 := 7

def highThroughputId : UInt8 := 45

def rsnId : UInt8 := 48

def extendedRatesId : UInt8 := 50

def mobilityDomainId : UInt8 := 54

def wapiId : UInt8 := 68

def veryHighThroughputId : UInt8 := 191

def vendorId : UInt8 := 221

end Element

end Hotspot
