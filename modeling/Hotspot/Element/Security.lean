import Hotspot.Element.Basic
import Hotspot.Element.Field

/-!
The three elements that say how a network is protected: RSN, the older vendor element WPA, and WAPI.
Each is read with or without its header, and written as a standard body. A field that the format
lets a sender omit has a default when nothing is left for it.
-/

set_option autoImplicit false
set_option relaxedAutoImplicit false

namespace Hotspot

open Element.Field

structure RsnCapabilities where
  bits : UInt16
  deriving DecidableEq, Repr

namespace RsnCapabilities

def bit (c : RsnCapabilities) (n : UInt16) : Bool :=
  (c.bits >>> n) &&& 1 == 1

def preauthentication (c : RsnCapabilities) : Bool := c.bit 0

def noPairwise (c : RsnCapabilities) : Bool := c.bit 1

def pairwiseReplay (c : RsnCapabilities) : UInt16 := (c.bits >>> 2) &&& 3

def groupReplay (c : RsnCapabilities) : UInt16 := (c.bits >>> 4) &&& 3

def protectionRequired (c : RsnCapabilities) : Bool := c.bit 6

def protectionCapable (c : RsnCapabilities) : Bool := c.bit 7

end RsnCapabilities

abbrev KeyName := { bytes : List UInt8 // bytes.length = 16 }

structure RsnElement where
  version : UInt16
  groupCipher : Suite
  pairwiseCiphers : List Suite
  methods : List Suite
  capabilities : RsnCapabilities
  keyNames : List KeyName
  managementCipher : Option Suite
  deriving DecidableEq

structure WpaElement where
  version : UInt16
  groupCipher : Suite
  pairwiseCiphers : List Suite
  methods : List Suite
  deriving DecidableEq

structure WapiElement where
  version : UInt16
  methods : List Suite
  pairwiseCiphers : List Suite
  groupCipher : Suite
  capabilities : UInt16
  deriving DecidableEq

def readVersion (protocol : String) : Reader UInt16 := fun bytes => do
  let (version, rest) ← word "version" bytes
  if version == 1 then return (version, rest)
  else throw (.unsupportedVersion protocol version)

namespace RsnElement

/-- Reads the body of an RSN element. CCMP and IEEE 802.1X are understood where nothing is said. -/
def readBody (body : List UInt8) : Except ElementFault RsnElement := do
  let (version, rest) ← readVersion "RSN" body
  let (groupCipher, rest) ← orDefault ⟨.rsn, 4⟩ (suite "group cipher") rest
  let (pairwiseCiphers, rest) ← orDefault [⟨.rsn, 4⟩] (suites "pairwise") rest
  let (methods, rest) ← orDefault [⟨.rsn, 1⟩] (suites "AKM") rest
  let (capabilities, rest) ← ifPresent 2 (word "capabilities") rest
  let (count, rest) ← ifPresent 2 (word "PMKID count") rest
  let (keyNames, rest) ← times (octets 16 "PMKID") (count.getD 0).toNat rest
  let (managementCipher, _) ← ifPresent 4 (suite "group management cipher") rest
  return {
    version, groupCipher, pairwiseCiphers, methods
    capabilities := ⟨capabilities.getD 0⟩
    keyNames, managementCipher }

def read (bytes : List UInt8) : Except DecodeError RsnElement :=
  (unwrap Element.rsnId 2 bytes >>= readBody).mapError (.element "RSN IE")

def encodeBody (e : RsnElement) : List UInt8 :=
  encodeWord e.version ++ e.groupCipher.octets ++ encodeSuites e.pairwiseCiphers ++
    encodeSuites e.methods ++ encodeWord e.capabilities.bits ++
    encodeWord (UInt16.ofNat e.keyNames.length) ++ e.keyNames.flatMap (·.val) ++
    (e.managementCipher.map Suite.octets).getD []

end RsnElement

def Suite.heads (s : Suite) (body : List UInt8) : Bool :=
  s.octets.isPrefixOf body

namespace WpaElement

def header : Suite := ⟨.wpa, 1⟩

/-- Reads the body of a WPA element. TKIP and IEEE 802.1X are understood where nothing is said. -/
def readBody (body : List UInt8) : Except ElementFault WpaElement := do
  if !header.heads body then throw .foreignVendor
  let (version, rest) ← readVersion "WPA" (body.drop 4)
  let (groupCipher, rest) ← orDefault ⟨.wpa, 2⟩ (suite "multicast cipher") rest
  let (pairwiseCiphers, rest) ← orDefault [⟨.wpa, 2⟩] (suites "unicast") rest
  let (methods, _) ← orDefault [⟨.wpa, 1⟩] (suites "auth") rest
  return { version, groupCipher, pairwiseCiphers, methods }

def read (bytes : List UInt8) : Except DecodeError WpaElement :=
  (unwrap Element.vendorId 4 bytes >>= readBody).mapError (.element "WPA IE")

def encodeBody (e : WpaElement) : List UInt8 :=
  header.octets ++ encodeWord e.version ++ e.groupCipher.octets ++
    encodeSuites e.pairwiseCiphers ++ encodeSuites e.methods

end WpaElement

namespace WapiElement

/-- Reads the body of a WAPI element. Only the capabilities may be left out. -/
def readBody (body : List UInt8) : Except ElementFault WapiElement := do
  let (version, rest) ← readVersion "WAPI" body
  let (methods, rest) ← suites "AKM" rest
  let (pairwiseCiphers, rest) ← suites "unicast" rest
  let (groupCipher, rest) ← suite "multicast cipher" rest
  let (capabilities, _) ← ifPresent 2 (word "capabilities") rest
  return { version, methods, pairwiseCiphers, groupCipher, capabilities := capabilities.getD 0 }

def read (bytes : List UInt8) : Except DecodeError WapiElement :=
  (unwrap Element.wapiId 2 bytes >>= readBody).mapError (.element "WAPI IE")

def encodeBody (e : WapiElement) : List UInt8 :=
  encodeWord e.version ++ encodeSuites e.methods ++ encodeSuites e.pairwiseCiphers ++
    e.groupCipher.octets ++ encodeWord e.capabilities

end WapiElement

end Hotspot
