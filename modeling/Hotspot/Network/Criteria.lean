import Hotspot.Network.Basic
import Hotspot.Security.Negotiation

/-!
Which of the networks that were found may be joined: the criteria of one attempt and the standing
preferences. Main rule: a network matches if it passes every check and, unless the attempt does
without, the profile and the network agree on how to protect traffic.
-/

set_option autoImplicit false
set_option relaxedAutoImplicit false

namespace Hotspot

inductive NetworkKind
  | infrastructure
  | independent
  | any
  deriving DecidableEq, Repr

def NetworkKind.accepts (kind : NetworkKind) (c : Capability) : Bool :=
  match kind with
  | .infrastructure => c.infrastructure
  | .independent => c.independent
  | .any => c.infrastructure || c.independent

/-- What one attempt asks of a network. An empty list, or a wildcard in it, accepts any. -/
structure Criteria where
  names : List NetworkName
  nameRequired : Bool
  addresses : List HardwareAddress
  channels : List Channel
  radioModes : RadioModes
  kind : NetworkKind
  security : SecurityProfile
  country : Option CountryLetters
  peerToPeerOnly : Bool
  protectedSetup : Bool
  osen : Bool
  mobilityDomain : Option UInt16
  deriving DecidableEq

structure Preferences where
  heedCountry : Bool
  qualityOfServiceOnly : Bool
  rateFeatures : RateFeatures
  avoided : List HardwareAddress
  deriving DecidableEq

def Criteria.lenient : Criteria where
  names := []
  nameRequired := false
  addresses := []
  channels := []
  radioModes := ⟨0⟩
  kind := .infrastructure
  security := .unprotected
  country := none
  peerToPeerOnly := false
  protectedSetup := false
  osen := false
  mobilityDomain := none

/-- Preferences that heed countries, avoid no network and do all rates. -/
def Preferences.usual : Preferences where
  heedCountry := true
  qualityOfServiceOnly := false
  rateFeatures := .all
  avoided := []

/-- A match: what was agreed on, unless the attempt does without. -/
structure Match where
  agreement : Option Agreement
  deriving DecidableEq

namespace Criteria

def acceptsName (c : Criteria) (name : NetworkName) : Bool :=
  if c.names.isEmpty || c.names.any NetworkName.isWildcard then true
  else if name.isHidden then !c.nameRequired
  else c.names.contains name

/-- Among peer-to-peer devices the device address counts as well. -/
def acceptsAddress (c : Criteria) (n : Network) : Bool :=
  c.addresses.isEmpty || c.addresses.any HardwareAddress.isWildcard ||
    c.addresses.any fun a => a == n.address || (c.peerToPeerOnly && n.peerAddress == some a)

def acceptsChannel (c : Criteria) (channel : Channel) : Bool :=
  c.channels.isEmpty || c.channels.contains channel

def acceptsModes (c : Criteria) (modes : RadioModes) : Bool :=
  c.radioModes.isAny || c.radioModes.intersects modes

def acceptsCountry (c : Criteria) (p : Preferences) (found : Option CountryLetters) : Bool :=
  if p.heedCountry then
    match c.country, found with
    | some wanted, some found => wanted.same found
    | _, _ => true
  else true

/-- Only attempts with a fast transition are tied to a mobility domain. -/
def acceptsDomain (c : Criteria) (found : Option MobilityDomain) : Bool :=
  match c.mobilityDomain with
  | some id =>
    if c.security.authentications.any Authentication.isFastTransition then
      found.any (·.id == id)
    else true
  | none => true

def skipsAgreement (c : Criteria) : Bool :=
  c.protectedSetup || c.osen

def accepts (c : Criteria) (p : Preferences) (n : Network) : Bool :=
  (!c.peerToPeerOnly || n.peerToPeer) &&
    !p.avoided.contains n.address &&
    c.acceptsName n.name &&
    c.acceptsAddress n &&
    c.acceptsChannel n.channel &&
    c.acceptsModes n.radioModes &&
    c.kind.accepts n.capability &&
    Rate.basicSupported p.rateFeatures n.rates &&
    (!p.qualityOfServiceOnly || n.multimedia || n.capability.qualityOfService) &&
    c.acceptsCountry p n.country &&
    c.acceptsDomain n.mobilityDomain

def match? (c : Criteria) (p : Preferences) (n : Network) : Option Match :=
  if c.accepts p n then
    if c.skipsAgreement then some ⟨none⟩
    else (c.security.negotiate? n.security).map fun a => ⟨some a⟩
  else none

def isMatch (c : Criteria) (p : Preferences) (n : Network) : Bool :=
  (c.match? p n).isSome

end Criteria

end Hotspot
