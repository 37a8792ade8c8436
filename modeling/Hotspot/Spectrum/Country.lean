import Hotspot.Spectrum.Domain

/-!
The domains of the countries that are known by their two-letter code, put together from bands of
channels with the same rules.
-/

set_option autoImplicit false
set_option relaxedAutoImplicit false

namespace Hotspot.Domain

private def band (radar indoorOnly : Bool) (maxPower : Int) (channels : List Channel) :
    List Allowance :=
  channels.map fun channel => { channel, radar, indoorOnly, maxPower }

private def lower : List Allowance :=
  band false false 30 [1, 2, 3, 4, 5, 6, 7, 8, 9, 10, 11]

private def lowerExtension : List Allowance :=
  band false false 20 [12, 13]

private def lowerLast : List Allowance :=
  band false false 20 [14]

private def first (indoorOnly : Bool) : List Allowance :=
  band false indoorOnly 23 [36, 40, 44, 48]

private def second (indoorOnly : Bool) : List Allowance :=
  band true indoorOnly 23 [52, 56, 60, 64]

private def middle (maxPower : Int) (last : Channel) : List Allowance :=
  band true false maxPower
    ([100, 104, 108, 112, 116, 120, 124, 128, 132, 136, 140, 144].filter (· ≤ last))

private def upperEnd : List Allowance :=
  band false false 30 [149, 153, 157, 161, 165]

def european : List String :=
  ["AT", "BE", "CH", "CZ", "DE", "DK", "ES", "FI", "FR", "GB", "GR", "IE", "IT", "NL", "NO", "PL",
    "PT", "SE"]

/-- The region and the channels of a country, by its code in upper case. -/
def rules? (code : String) : Option (Region × List Allowance) :=
  if code == "US" || code == "CA" then
    some (.fcc, lower ++ first false ++ second false ++ middle 24 144 ++ upperEnd)
  else if code == "JP" then
    some (.mkk, lower ++ lowerExtension ++ lowerLast ++ first true ++ second true ++ middle 30 140)
  else if code == "CN" then
    some (.cn, lower ++ lowerExtension ++ first false ++ second false ++ upperEnd)
  else if code == "KR" then
    some (.kr, lower ++ lowerExtension ++ first false ++ second false ++ middle 24 124 ++ upperEnd)
  else if code == "00" then
    some (.world, lower ++ first false)
  else if european.contains code then
    some (.etsi, lower ++ lowerExtension ++ first false ++ second false ++ middle 30 140)
  else none

def forCountry (code : String) : Except ControlError Domain :=
  match rules? code.toUpper with
  | some (region, allowances) => custom code.toUpper region allowances
  | none => .error (.unknownCountry code)

end Hotspot.Domain
