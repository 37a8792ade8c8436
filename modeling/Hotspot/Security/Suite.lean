/-!
Suite selectors: the four octets that name a cipher or a key management method on the air. The three
families of security elements use selectors of their own for the same cipher or method.
-/

set_option autoImplicit false
set_option relaxedAutoImplicit false

namespace Hotspot

/-- Three octets that name the body which assigned a number. -/
structure Organisation where
  first : UInt8
  second : UInt8
  third : UInt8
  deriving DecidableEq, Repr

namespace Organisation

def rsn : Organisation := ⟨0x00, 0x0F, 0xAC⟩

/-- The vendor whose element carried WPA before the standard did. -/
def wpa : Organisation := ⟨0x00, 0x50, 0xF2⟩

def wapi : Organisation := ⟨0x00, 0x14, 0x72⟩

def cckm : Organisation := ⟨0x00, 0x40, 0x96⟩

def alliance : Organisation := ⟨0x50, 0x6F, 0x9A⟩

end Organisation

/-- A suite selector: an organisation and a number it assigned. -/
structure Suite where
  organisation : Organisation
  number : UInt8
  deriving DecidableEq, Repr

def Suite.octets (s : Suite) : List UInt8 :=
  [s.organisation.first, s.organisation.second, s.organisation.third, s.number]

inductive Family
  | rsn
  | wpa
  | wapi
  deriving DecidableEq, Repr

/-- Ciphers as they can be asked for in any family. `reserved` stands for no cipher and has no
selector anywhere; `useGroup` asks for the group cipher to be used for unicast frames as well. -/
inductive Cipher
  | reserved
  | wep40
  | wep104
  | tkip
  | ccmp
  | wpi
  | useGroup
  | gcmp128
  | gcmp256
  | ccmp256
  | bipCmac128
  deriving DecidableEq, Repr

def Cipher.all : List Cipher :=
  [.reserved, .wep40, .wep104, .tkip, .ccmp, .wpi, .useGroup, .gcmp128, .gcmp256, .ccmp256,
    .bipCmac128]

inductive KeyManagement
  | ieee8021x
  | psk
  | ftIeee8021x
  | ftPsk
  | ieee8021xSha256
  | pskSha256
  | sae
  | ftSae
  | owe
  | cckm
  | osen
  | wapiCertificate
  | wapiPsk
  deriving DecidableEq, Repr

def Cipher.suite? : Family → Cipher → Option Suite
  | .rsn, .wep40 => some ⟨.rsn, 0x01⟩
  | .rsn, .wep104 => some ⟨.rsn, 0x05⟩
  | .rsn, .tkip => some ⟨.rsn, 0x02⟩
  | .rsn, .ccmp => some ⟨.rsn, 0x04⟩
  | .rsn, .useGroup => some ⟨.rsn, 0x00⟩
  | .rsn, .gcmp128 => some ⟨.rsn, 0x08⟩
  | .rsn, .gcmp256 => some ⟨.rsn, 0x09⟩
  | .rsn, .ccmp256 => some ⟨.rsn, 0x0A⟩
  | .rsn, .bipCmac128 => some ⟨.rsn, 0x06⟩
  | .wpa, .wep40 => some ⟨.wpa, 0x01⟩
  | .wpa, .wep104 => some ⟨.wpa, 0x05⟩
  | .wpa, .tkip => some ⟨.wpa, 0x02⟩
  | .wpa, .ccmp => some ⟨.wpa, 0x04⟩
  | .wpa, .useGroup => some ⟨.wpa, 0x00⟩
  | .wapi, .wpi => some ⟨.wapi, 0x01⟩
  | _, _ => none

/-- The cipher a selector names; `reserved` for a selector the family does not know. -/
def Cipher.ofSuite (family : Family) (suite : Suite) : Cipher :=
  (Cipher.all.find? fun c => Cipher.suite? family c == some suite).getD .reserved

/-- The selector of a key management method in a family that knows it. -/
def KeyManagement.suite? : Family → KeyManagement → Option Suite
  | .rsn, .ieee8021x => some ⟨.rsn, 0x01⟩
  | .rsn, .psk => some ⟨.rsn, 0x02⟩
  | .rsn, .ftIeee8021x => some ⟨.rsn, 0x03⟩
  | .rsn, .ftPsk => some ⟨.rsn, 0x04⟩
  | .rsn, .ieee8021xSha256 => some ⟨.rsn, 0x05⟩
  | .rsn, .pskSha256 => some ⟨.rsn, 0x06⟩
  | .rsn, .sae => some ⟨.rsn, 0x08⟩
  | .rsn, .ftSae => some ⟨.rsn, 0x09⟩
  | .rsn, .owe => some ⟨.rsn, 0x12⟩
  | .rsn, .cckm => some ⟨.cckm, 0x00⟩
  | .rsn, .osen => some ⟨.alliance, 0x01⟩
  | .wpa, .cckm => some ⟨.cckm, 0x00⟩
  | .wpa, .ieee8021x => some ⟨.wpa, 0x01⟩
  | .wpa, .psk => some ⟨.wpa, 0x02⟩
  | .wapi, .wapiCertificate => some ⟨.wapi, 0x01⟩
  | .wapi, .wapiPsk => some ⟨.wapi, 0x02⟩
  | _, _ => none

/-- The selector of a cipher, if it stands in a list of offered ones. -/
def Cipher.offered? (family : Family) (offers : List Suite) (cipher : Cipher) : Option Suite :=
  (Cipher.suite? family cipher).filter offers.contains

/-- The selector of a key management method, if it stands in a list of offered ones. -/
def KeyManagement.offered? (family : Family) (offers : List Suite) (method : KeyManagement) :
    Option Suite :=
  (KeyManagement.suite? family method).filter offers.contains

end Hotspot
