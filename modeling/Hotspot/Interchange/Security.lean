import Hotspot.Interchange.Codec
import Hotspot.Security.Negotiation

/-!
The JSON form of what networks offer, what a profile asks for and what both agree on. Selectors and
key names are rows of octets.
-/

set_option autoImplicit false
set_option relaxedAutoImplicit false

namespace Hotspot

def Family.codec : Codec Family :=
  .named [(.rsn, "Rsn"), (.wpa, "Wpa"), (.wapi, "Wapi")]

def Cipher.codec : Codec Cipher :=
  .named [(.reserved, "Reserved"), (.wep40, "Wep40"), (.wep104, "Wep104"), (.tkip, "Tkip"),
    (.ccmp, "Ccmp"), (.wpi, "Wpi"), (.useGroup, "UseGroup"), (.gcmp128, "Gcmp128"),
    (.gcmp256, "Gcmp256"), (.ccmp256, "Ccmp256"), (.bipCmac128, "BipCmac128")]

def KeyManagement.codec : Codec KeyManagement :=
  .named [(.ieee8021x, "Ieee8021x"), (.psk, "Psk"), (.ftIeee8021x, "FtIeee8021x"),
    (.ftPsk, "FtPsk"), (.ieee8021xSha256, "Ieee8021xSha256"), (.pskSha256, "PskSha256"),
    (.sae, "Sae"), (.ftSae, "FtSae"), (.owe, "Owe"), (.cckm, "Cckm"), (.osen, "Osen"),
    (.wapiCertificate, "WapiCert"), (.wapiPsk, "WapiPsk")]

def Authentication.codec : Codec Authentication :=
  .named [(.openSystem, "Open"), (.sharedKey, "SharedKey"), (.autoSwitch, "AutoSwitch"),
    (.wpa, "Wpa"), (.wpaPsk, "WpaPsk"), (.cckmWpa, "CckmWpa"), (.rsn, "Rsn"), (.rsnPsk, "RsnPsk"),
    (.ftRsn, "FtRsn"), (.ftRsnPsk, "FtRsnPsk"), (.cckmRsn, "CckmRsn"),
    (.rsn8021xSha256, "Rsn8021xSha256"), (.rsnPskSha256, "RsnPskSha256"), (.sae, "Sae"),
    (.ftSae, "FtSae"), (.owe, "Owe"), (.osen, "Osen"), (.wapiCertificate, "WapiCert"),
    (.wapiPsk, "WapiPsk")]

def Encryption.codec : Codec Encryption :=
  .named [(.none, "None"), (.wep40Static, "Wep40StaticKey"), (.wep104Static, "Wep104StaticKey"),
    (.wep40, "Wep40"), (.wep104, "Wep104"), (.tkip, "Tkip"), (.ccmp, "AesCcmp"),
    (.ccmp256, "AesCcmp256"), (.gcmp, "AesGcmp"), (.gcmp256, "AesGcmp256"), (.wpi, "Wpi")]

def Suite.codec : Codec Suite :=
  Codec.octets.imap Suite.octets fun
    | [a, b, c, kind] => some ⟨⟨a, b, c⟩, kind⟩
    | _ => none

def KeyName.codec : Codec KeyName :=
  Codec.octets.imap (·.val) fun octets =>
    if sized : octets.length = 16 then some ⟨octets, sized⟩ else none

def RsnCapabilities.codec : Codec RsnCapabilities :=
  Codec.word.imap (·.bits) fun bits => some ⟨bits⟩

def RsnElement.codec : Codec RsnElement where
  write e := .object [
    ("version", Codec.word.write e.version),
    ("group_cipher", Suite.codec.write e.groupCipher),
    ("pairwise_ciphers", Suite.codec.list.write e.pairwiseCiphers),
    ("akm_suites", Suite.codec.list.write e.methods),
    ("capabilities", RsnCapabilities.codec.write e.capabilities),
    ("pmkids", KeyName.codec.list.write e.keyNames),
    ("group_mgmt_cipher", Suite.codec.nullable.write e.managementCipher)]
  read base j := return {
    version := ← j.field? "version" .word (base.map (·.version))
    groupCipher := ← j.field? "group_cipher" Suite.codec (base.map (·.groupCipher))
    pairwiseCiphers :=
      ← j.field? "pairwise_ciphers" Suite.codec.list (base.map (·.pairwiseCiphers))
    methods := ← j.field? "akm_suites" Suite.codec.list (base.map (·.methods))
    capabilities := ← j.field? "capabilities" RsnCapabilities.codec (base.map (·.capabilities))
    keyNames := ← j.field? "pmkids" KeyName.codec.list (base.map (·.keyNames))
    managementCipher :=
      ← j.field? "group_mgmt_cipher" Suite.codec.nullable (base.map (·.managementCipher)) }

def WpaElement.codec : Codec WpaElement where
  write e := .object [
    ("version", Codec.word.write e.version),
    ("multicast_cipher", Suite.codec.write e.groupCipher),
    ("unicast_ciphers", Suite.codec.list.write e.pairwiseCiphers),
    ("auth_suites", Suite.codec.list.write e.methods)]
  read base j := return {
    version := ← j.field? "version" .word (base.map (·.version))
    groupCipher := ← j.field? "multicast_cipher" Suite.codec (base.map (·.groupCipher))
    pairwiseCiphers := ← j.field? "unicast_ciphers" Suite.codec.list (base.map (·.pairwiseCiphers))
    methods := ← j.field? "auth_suites" Suite.codec.list (base.map (·.methods)) }

def WapiElement.codec : Codec WapiElement where
  write e := .object [
    ("version", Codec.word.write e.version),
    ("akm_suites", Suite.codec.list.write e.methods),
    ("unicast_ciphers", Suite.codec.list.write e.pairwiseCiphers),
    ("multicast_cipher", Suite.codec.write e.groupCipher),
    ("capabilities", Codec.word.write e.capabilities)]
  read base j := return {
    version := ← j.field? "version" .word (base.map (·.version))
    methods := ← j.field? "akm_suites" Suite.codec.list (base.map (·.methods))
    pairwiseCiphers := ← j.field? "unicast_ciphers" Suite.codec.list (base.map (·.pairwiseCiphers))
    groupCipher := ← j.field? "multicast_cipher" Suite.codec (base.map (·.groupCipher))
    capabilities := ← j.field? "capabilities" .word (base.map (·.capabilities)) }

def SecurityOffer.codec : Codec SecurityOffer where
  write o := .object [
    ("privacy", .bool o.privacy),
    ("rsn", RsnElement.codec.nullable.write o.rsn),
    ("wpa", WpaElement.codec.nullable.write o.wpa),
    ("wapi", WapiElement.codec.nullable.write o.wapi)]
  read base j := return {
    privacy := ← j.field? "privacy" .flag (base.map (·.privacy))
    rsn := ← j.field? "rsn" RsnElement.codec.nullable (base.map (·.rsn))
    wpa := ← j.field? "wpa" WpaElement.codec.nullable (base.map (·.wpa))
    wapi := ← j.field? "wapi" WapiElement.codec.nullable (base.map (·.wapi)) }

def ProtectionPolicy.codec : Codec ProtectionPolicy where
  write p := .object [
    ("enabled", .bool p.enabled),
    ("required", .bool p.required),
    ("capable", .bool p.capable)]
  read base j := return {
    enabled := ← j.field? "enabled" .flag (base.map (·.enabled))
    required := ← j.field? "required" .flag (base.map (·.required))
    capable := ← j.field? "capable" .flag (base.map (·.capable)) }

def SecurityProfile.codec : Codec SecurityProfile where
  write p := .object [
    ("auth_types", Authentication.codec.list.write p.authentications),
    ("unicast", Encryption.codec.write p.unicast),
    ("multicast", Encryption.codec.list.write p.multicast),
    ("mfp", ProtectionPolicy.codec.nullable.write p.protection)]
  read base j := return {
    authentications :=
      ← j.field? "auth_types" Authentication.codec.list (base.map (·.authentications))
    unicast := ← j.field? "unicast" Encryption.codec (base.map (·.unicast))
    multicast := ← j.field? "multicast" Encryption.codec.list (base.map (·.multicast))
    protection := ← j.field? "mfp" ProtectionPolicy.codec.nullable (base.map (·.protection)) }

def Agreement.toJson (a : Agreement) : Json :=
  .object [
    ("auth_type", Authentication.codec.write a.authentication),
    ("unicast_cipher", Encryption.codec.write a.unicast),
    ("multicast_cipher", Encryption.codec.write a.multicast),
    ("mfp_capable", .bool a.protectionCapable),
    ("mfp_required", .bool a.protectionRequired),
    ("rsn_capabilities", RsnCapabilities.codec.nullable.write a.rsnCapabilities)]

end Hotspot
