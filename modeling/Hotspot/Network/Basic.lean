import Hotspot.HardwareAddress
import Hotspot.Network.Name
import Hotspot.Network.Rate
import Hotspot.Security.Offer
import Hotspot.Spectrum.Channel

/-!
A network as a scan finds it: the fixed fields of a beacon and what its elements say.
-/

set_option autoImplicit false
set_option relaxedAutoImplicit false

namespace Hotspot

structure Capability where
  bits : UInt16
  deriving DecidableEq, Repr

namespace Capability

def infrastructure (c : Capability) : Bool := c.bits &&& 0x0001 != 0

/-- A station of a network without access points sent the beacon. -/
def independent (c : Capability) : Bool := c.bits &&& 0x0002 != 0

def privacy (c : Capability) : Bool := c.bits &&& 0x0010 != 0

def qualityOfService (c : Capability) : Bool := c.bits &&& 0x0200 != 0

end Capability

/-- A set of radio modes, one bit each. The empty set stands for any. -/
structure RadioModes where
  bits : UInt8
  deriving DecidableEq, Repr

namespace RadioModes

def a : RadioModes := ⟨0x01⟩

def b : RadioModes := ⟨0x02⟩

def g : RadioModes := ⟨0x04⟩

def n : RadioModes := ⟨0x08⟩

def ac : RadioModes := ⟨0x10⟩

def union (s t : RadioModes) : RadioModes := ⟨s.bits ||| t.bits⟩

def intersects (s t : RadioModes) : Bool := s.bits &&& t.bits != 0

def isAny (s : RadioModes) : Bool := s.bits == 0

end RadioModes

/-- The mobility domain that a network belongs to. -/
structure MobilityDomain where
  id : UInt16
  overDistribution : Bool
  deriving DecidableEq, Repr

structure CountryLetters where
  first : UInt8
  second : UInt8
  deriving DecidableEq, Repr

def upperLetter (b : UInt8) : UInt8 :=
  if 0x61 ≤ b && b ≤ 0x7A then b - 0x20 else b

def CountryLetters.same (c d : CountryLetters) : Bool :=
  upperLetter c.first == upperLetter d.first && upperLetter c.second == upperLetter d.second

structure Network where
  address : HardwareAddress
  name : NetworkName
  channel : Channel
  capability : Capability
  beaconInterval : UInt16
  rates : List UInt8
  highThroughput : Bool
  veryHighThroughput : Bool
  multimedia : Bool
  protectedSetup : Bool
  peerToPeer : Bool
  peerAddress : Option HardwareAddress
  security : SecurityOffer
  country : Option CountryLetters
  mobilityDomain : Option MobilityDomain
  elements : List UInt8
  deriving DecidableEq

namespace Network

def multimediaHeader : Suite := ⟨.wpa, 2⟩

def protectedSetupHeader : Suite := ⟨.wpa, 4⟩

def peerToPeerHeader : Suite := ⟨.alliance, 9⟩

/-- The device address in the attributes of a peer-to-peer element: the first six octets of the
first attribute that names or describes the device. An attribute that runs past the end stops the
search. -/
def deviceAddress? : List UInt8 → Option HardwareAddress
  | id :: low :: high :: rest =>
    let size := low.toNat + 256 * high.toNat
    if rest.length < size then none
    else if (id == 3 || id == 13) && 6 ≤ size then
      (HardwareAddress.ofOctets (rest.take 6)).toOption
    else deviceAddress? (rest.drop size)
  | _ => none
termination_by octets => octets.length
decreasing_by
  simp only [List.length_drop, List.length_cons]
  omega

/-- Takes one more element into account. A name that is too long spoils the whole beacon. -/
def take (n : Network) (e : Element) : Except DecodeError Network :=
  if e.id == Element.ssidId then
    (NetworkName.ofOctets e.body).map fun name => { n with name }
  else if e.id == Element.ratesId || e.id == Element.extendedRatesId then
    .ok { n with rates := n.rates ++ e.body }
  else if e.id == Element.countryId then
    match e.body with
    | first :: second :: _ => .ok { n with country := some ⟨first, second⟩ }
    | _ => .ok n
  else if e.id == Element.highThroughputId then .ok { n with highThroughput := true }
  else if e.id == Element.veryHighThroughputId then .ok { n with veryHighThroughput := true }
  else if e.id == Element.mobilityDomainId then
    match e.body with
    | low :: high :: flags :: _ =>
      let domain := ⟨low.toUInt16 + high.toUInt16 * 256, flags &&& 1 != 0⟩
      .ok { n with mobilityDomain := some domain }
    | _ => .ok n
  else if e.id == Element.vendorId then
    if multimediaHeader.heads e.body then .ok { n with multimedia := true }
    else if protectedSetupHeader.heads e.body then .ok { n with protectedSetup := true }
    else if peerToPeerHeader.heads e.body then
      .ok { n with peerToPeer := true, peerAddress := deviceAddress? (e.body.drop 4) }
    else .ok n
  else .ok n

def bare (address : HardwareAddress) (channel : Channel) (capability : Capability)
    (beaconInterval : UInt16) (elements : List UInt8) : Network where
  address
  name := .wildcard
  channel
  capability
  beaconInterval
  rates := []
  highThroughput := false
  veryHighThroughput := false
  multimedia := false
  protectedSetup := false
  peerToPeer := false
  peerAddress := none
  security := .ofElements capability.privacy (Element.walk elements)
  country := none
  mobilityDomain := none
  elements

/-- Builds a network from the fixed fields of a beacon and the octets of its elements. -/
def ofBeacon (address : HardwareAddress) (channel : Channel) (capability : Capability)
    (beaconInterval : UInt16) (elements : List UInt8) : Except DecodeError Network :=
  (Element.walk elements).foldlM take (bare address channel capability beaconInterval elements)

/-- The radio modes that the band, the rates and the elements imply. -/
def radioModes (n : Network) : RadioModes :=
  let legacy :=
    match n.channel.band with
    | .lower =>
      if n.rates.any fun r => Rate.orthogonal.contains (Rate.bare r) then RadioModes.b.union .g
      else .b
    | .upper => .a
  let high := if n.highThroughput || n.veryHighThroughput then legacy.union .n else legacy
  if n.veryHighThroughput then high.union .ac else high

end Network

end Hotspot
