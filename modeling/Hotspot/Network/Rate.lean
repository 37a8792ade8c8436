/-!
The rates that the local side supports. A network's rate is given in steps of 500 kbit/s; the top
bit marks a rate that every member must support, and some numbers stand for a required feature.
-/

set_option autoImplicit false
set_option relaxedAutoImplicit false

namespace Hotspot

/-- Local features on which parts of the rate table depend. -/
structure RateFeatures where
  extendedSelectors : Bool
  channelBonding : Bool
  multiStream : Bool
  deriving DecidableEq, Repr

namespace RateFeatures

def none : RateFeatures := ⟨false, false, false⟩

def all : RateFeatures := ⟨true, true, true⟩

def covers (present needed : RateFeatures) : Bool :=
  (!needed.extendedSelectors || present.extendedSelectors) &&
    (!needed.channelBonding || present.channelBonding) &&
    (!needed.multiStream || present.multiStream)

end RateFeatures

namespace Rate

def basicMask : UInt8 := 0x80

def isBasic (rate : UInt8) : Bool :=
  rate &&& basicMask != 0

def bare (rate : UInt8) : UInt8 :=
  rate &&& 0x7F

def direct : List UInt8 := [2, 4, 11, 22]

def orthogonal : List UInt8 := [12, 18, 24, 36, 48, 72, 96, 108]

def needs? (rate : UInt8) : Option RateFeatures :=
  if (direct ++ orthogonal).contains rate then some RateFeatures.none
  else if rate == 127 then some ⟨false, false, true⟩
  else if rate == 126 then some ⟨false, true, true⟩
  else if rate == 123 then some ⟨true, false, false⟩
  else Option.none

def isSupported (features : RateFeatures) (rate : UInt8) : Bool :=
  (needs? (bare rate)).any features.covers

def basicSupported (features : RateFeatures) (rates : List UInt8) : Bool :=
  (rates.filter isBasic).all (isSupported features)

end Rate

end Hotspot
