import Hotspot.Security.Suite

/-!
What the local side is ready to use: ways to authenticate, ciphers, and a policy on protected
management frames.
-/

set_option autoImplicit false
set_option relaxedAutoImplicit false

namespace Hotspot

inductive Authentication
  | openSystem
  | sharedKey
  | autoSwitch
  | wpa
  | wpaPsk
  | cckmWpa
  | rsn
  | rsnPsk
  | ftRsn
  | ftRsnPsk
  | cckmRsn
  | rsn8021xSha256
  | rsnPskSha256
  | sae
  | ftSae
  | owe
  | osen
  | wapiCertificate
  | wapiPsk
  deriving DecidableEq, Repr

namespace Authentication

def isFastTransition : Authentication → Bool
  | .ftRsn | .ftRsnPsk | .ftSae => true
  | _ => false

def isLegacy : Authentication → Bool
  | .openSystem | .sharedKey | .autoSwitch => true
  | _ => false

/-- The key management method that a family of elements announces for a way to authenticate. -/
def method? : Family → Authentication → Option KeyManagement
  | .rsn, .ftRsn => some .ftIeee8021x
  | .rsn, .ftRsnPsk => some .ftPsk
  | .rsn, .ftSae => some .ftSae
  | .rsn, .cckmRsn => some .cckm
  | .rsn, .rsn => some .ieee8021x
  | .rsn, .rsnPsk => some .psk
  | .rsn, .rsn8021xSha256 => some .ieee8021xSha256
  | .rsn, .rsnPskSha256 => some .pskSha256
  | .rsn, .sae => some .sae
  | .rsn, .owe => some .owe
  | .rsn, .osen => some .osen
  | .wpa, .cckmWpa => some .cckm
  | .wpa, .wpa => some .ieee8021x
  | .wpa, .wpaPsk => some .psk
  | .wapi, .wapiCertificate => some .wapiCertificate
  | .wapi, .wapiPsk => some .wapiPsk
  | _, _ => none

end Authentication

/-- Ciphers a profile may ask for. Static WEP keys are configured, dynamic ones delivered. -/
inductive Encryption
  | none
  | wep40Static
  | wep104Static
  | wep40
  | wep104
  | tkip
  | ccmp
  | ccmp256
  | gcmp
  | gcmp256
  | wpi
  deriving DecidableEq, Repr

namespace Encryption

def cipher : Encryption → Cipher
  | .none => .reserved
  | .wep40 | .wep40Static => .wep40
  | .wep104 | .wep104Static => .wep104
  | .tkip => .tkip
  | .ccmp => .ccmp
  | .ccmp256 => .ccmp256
  | .gcmp => .gcmp128
  | .gcmp256 => .gcmp256
  | .wpi => .wpi

def ofCipher? : Cipher → Option Encryption
  | .wep40 => some .wep40
  | .wep104 => some .wep104
  | .tkip => some .tkip
  | .ccmp => some .ccmp
  | .ccmp256 => some .ccmp256
  | .gcmp128 => some .gcmp
  | .gcmp256 => some .gcmp256
  | .wpi => some .wpi
  | .reserved | .useGroup | .bipCmac128 => Option.none

def isStaticWep : Encryption → Bool
  | .wep40Static | .wep104Static => true
  | _ => false

def isDynamicWep : Encryption → Bool
  | .wep40 | .wep104 => true
  | _ => false

end Encryption

/-- The local stance on protected management frames. -/
structure ProtectionPolicy where
  enabled : Bool
  required : Bool
  capable : Bool
  deriving DecidableEq, Repr

/-- The stance agrees with what the other side can do and demands. A local side that is capable but
has not enabled protection does not agree with a capable other side. -/
def ProtectionPolicy.agrees (p : ProtectionPolicy) (capable required : Bool) : Bool :=
  !(p.enabled && p.required && !capable) && !(!p.capable && required) &&
    !(!p.enabled && p.capable && capable)

/-- A profile. Its ways to authenticate stand in order of preference; no accepted group cipher at
all stands for any; without a policy, protection of management frames is not looked at. -/
structure SecurityProfile where
  authentications : List Authentication
  unicast : Encryption
  multicast : List Encryption
  protection : Option ProtectionPolicy
  deriving DecidableEq, Repr

namespace SecurityProfile

def unprotected : SecurityProfile :=
  ⟨[.openSystem], .none, [.none], Option.none⟩

def passphrase : SecurityProfile :=
  ⟨[.rsnPsk], .ccmp, [.ccmp], Option.none⟩

end SecurityProfile

end Hotspot
