import Hotspot.Element.Security

/-!
What a network offers to protect its traffic, gathered from its elements. Of each family the first
element that can be read counts, and one that cannot be read is as good as absent.
-/

set_option autoImplicit false
set_option relaxedAutoImplicit false

namespace Hotspot

structure SecurityOffer where
  privacy : Bool
  rsn : Option RsnElement
  wpa : Option WpaElement
  wapi : Option WapiElement
  deriving DecidableEq

namespace SecurityOffer

def take (offer : SecurityOffer) (e : Element) : SecurityOffer :=
  if e.id == Element.rsnId then
    { offer with rsn := offer.rsn.or (RsnElement.read e.body).toOption }
  else if e.id == Element.wapiId then
    { offer with wapi := offer.wapi.or (WapiElement.read e.body).toOption }
  else if e.id == Element.vendorId && WpaElement.header.heads e.body then
    { offer with wpa := offer.wpa.or (WpaElement.read e.body).toOption }
  else offer

/-- Gathers the offer from the privacy bit and the elements of a network. -/
def ofElements (privacy : Bool) (elements : List Element) : SecurityOffer :=
  elements.foldl take ⟨privacy, none, none, none⟩

def isLegacy (offer : SecurityOffer) : Bool :=
  offer.rsn.isNone && offer.wpa.isNone && offer.wapi.isNone

end SecurityOffer

end Hotspot
