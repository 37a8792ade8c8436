import Hotspot.Security.Offer
import Hotspot.Security.Profile

/-!
Agreement between a profile and the protection that a network offers. A network without agreement is
left out; nothing is reported. Each family of elements is tried on its own: WPI with WAPI, every
other negotiated cipher with RSN first and WPA second. The profile's order of preference decides.
-/

set_option autoImplicit false
set_option relaxedAutoImplicit false

namespace Hotspot

/-- What both sides will use. The capability bits are there if an RSN element was agreed on. -/
structure Agreement where
  authentication : Authentication
  unicast : Encryption
  multicast : Encryption
  protectionCapable : Bool
  protectionRequired : Bool
  rsnCapabilities : Option RsnCapabilities
  deriving DecidableEq

namespace SecurityProfile

private def plain (authentication : Authentication) (unicast multicast : Encryption) : Agreement :=
  ⟨authentication, unicast, multicast, false, false, none⟩

/-- The first way to authenticate that needs no element. A profile that names none is open. -/
def legacyAuthentication? (p : SecurityProfile) : Option Authentication :=
  if p.authentications.isEmpty then some .openSystem
  else p.authentications.find? Authentication.isLegacy

/-- Without a cipher, a network is joined only if it does not ask for privacy. -/
def agreeUnprotected? (p : SecurityProfile) (offer : SecurityOffer) : Option Agreement :=
  if offer.privacy then none
  else p.legacyAuthentication?.map fun a => plain a .none .none

/-- Configured WEP keys are for networks that ask for privacy but have neither RSN nor WPA. -/
def agreeStaticWep? (p : SecurityProfile) (offer : SecurityOffer) : Option Agreement :=
  if !offer.privacy || offer.rsn.isSome || offer.wpa.isSome then none
  else if !p.multicast.isEmpty && !p.multicast.contains p.unicast then none
  else p.legacyAuthentication?.map fun a => plain a p.unicast p.unicast

/-- The wanted cipher is offered for unicast frames, by name or by way of the group cipher. -/
def unicastOffered (family : Family) (wanted : Cipher) (pairwise : List Suite) (group : Suite) :
    Bool :=
  (wanted.offered? family pairwise).isSome ||
    ((Cipher.useGroup.offered? family pairwise).isSome && (wanted.offered? family [group]).isSome)

/-- The first accepted encryption that uses the group cipher. Where nothing is named, whatever the
group cipher stands for is accepted. -/
def multicastAgreed? (family : Family) (accepted : List Encryption) (group : Suite) :
    Option Encryption :=
  if accepted.isEmpty then Encryption.ofCipher? (Cipher.ofSuite family group)
  else accepted.find? fun e => (e.cipher.offered? family [group]).isSome

/-- The first preferred way to authenticate whose method is offered. -/
def authenticationAgreed? (family : Family) (preferred : List Authentication)
    (offers : List Suite) : Option Authentication :=
  preferred.find? fun a =>
    (a.method? family).any fun m => (m.offered? family offers).isSome

/-- Agreement on the terms of an RSN element, protected management frames included. -/
def agreeRsn? (p : SecurityProfile) (e : RsnElement) : Option Agreement := do
  guard (unicastOffered .rsn p.unicast.cipher e.pairwiseCiphers e.groupCipher)
  let multicast ← multicastAgreed? .rsn p.multicast e.groupCipher
  let authentication ← authenticationAgreed? .rsn p.authentications e.methods
  let capable := e.capabilities.protectionCapable
  let required := e.capabilities.protectionRequired
  guard (p.protection.all fun policy => policy.agrees capable required)
  return ⟨authentication, p.unicast, multicast, capable, required, some e.capabilities⟩

def agreeWpa? (p : SecurityProfile) (e : WpaElement) : Option Agreement := do
  guard (unicastOffered .wpa p.unicast.cipher e.pairwiseCiphers e.groupCipher)
  let multicast ← multicastAgreed? .wpa p.multicast e.groupCipher
  let authentication ← authenticationAgreed? .wpa p.authentications e.methods
  return plain authentication p.unicast multicast

def agreeWapi? (p : SecurityProfile) (e : WapiElement) : Option Agreement := do
  guard (Cipher.wpi.offered? .wapi e.pairwiseCiphers).isSome
  let multicast ← multicastAgreed? .wapi p.multicast e.groupCipher
  let authentication ← authenticationAgreed? .wapi p.authentications e.methods
  return plain authentication .wpi multicast

/-- What a profile and an offer agree on, if they do. Delivered WEP keys make sense only on a
network that asks for privacy. -/
def negotiate? (p : SecurityProfile) (offer : SecurityOffer) : Option Agreement :=
  match p.unicast with
  | .none => p.agreeUnprotected? offer
  | .wep40Static | .wep104Static => p.agreeStaticWep? offer
  | .wpi => offer.wapi.bind p.agreeWapi?
  | cipher =>
    if cipher.isDynamicWep && !offer.privacy then none
    else (offer.rsn.bind p.agreeRsn?).or (offer.wpa.bind p.agreeWpa?)

end SecurityProfile

end Hotspot
