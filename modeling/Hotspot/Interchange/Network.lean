import Hotspot.Interchange.Security
import Hotspot.Network.Criteria

/-!
The JSON form of networks and of what is asked of them. Addresses, names and letters of a country
are rows of octets.
-/

set_option autoImplicit false
set_option relaxedAutoImplicit false

namespace Hotspot

def HardwareAddress.codec : Codec HardwareAddress :=
  Codec.octets.imap (·.octets) fun octets => (HardwareAddress.ofOctets octets).toOption

def NetworkName.codec : Codec NetworkName :=
  Codec.octets.imap (·.octets) fun octets => some ⟨octets⟩

def CountryLetters.codec : Codec CountryLetters :=
  Codec.octets.imap (fun c => [c.first, c.second]) fun
    | [first, second] => some ⟨first, second⟩
    | _ => none

def Capability.codec : Codec Capability :=
  Codec.word.imap (·.bits) fun bits => some ⟨bits⟩

def RadioModes.codec : Codec RadioModes :=
  Codec.octet.imap (·.bits) fun bits => some ⟨bits⟩

def NetworkKind.codec : Codec NetworkKind :=
  .named [(.infrastructure, "Infrastructure"), (.independent, "Ibss"), (.any, "Any")]

def MobilityDomain.codec : Codec MobilityDomain where
  write d := .object [("mdid", Codec.word.write d.id), ("ft_over_ds", .bool d.overDistribution)]
  read base j := return {
    id := ← j.field? "mdid" .word (base.map (·.id))
    overDistribution := ← j.field? "ft_over_ds" .flag (base.map (·.overDistribution)) }

def Network.codec : Codec Network where
  write n := .object [
    ("bssid", HardwareAddress.codec.write n.address),
    ("ssid", NetworkName.codec.write n.name),
    ("channel", Codec.octet.write n.channel),
    ("capability", Capability.codec.write n.capability),
    ("beacon_interval", Codec.word.write n.beaconInterval),
    ("rates", Codec.octets.write n.rates),
    ("ht", .bool n.highThroughput),
    ("vht", .bool n.veryHighThroughput),
    ("wmm", .bool n.multimedia),
    ("wps", .bool n.protectedSetup),
    ("p2p", .bool n.peerToPeer),
    ("p2p_device_address", HardwareAddress.codec.nullable.write n.peerAddress),
    ("security", SecurityOffer.codec.write n.security),
    ("country", CountryLetters.codec.nullable.write n.country),
    ("mobility_domain", MobilityDomain.codec.nullable.write n.mobilityDomain),
    ("ies", Codec.octets.write n.elements)]
  read base j := return {
    address := ← j.field? "bssid" HardwareAddress.codec (base.map (·.address))
    name := ← j.field? "ssid" NetworkName.codec (base.map (·.name))
    channel := ← j.field? "channel" .octet (base.map (·.channel))
    capability := ← j.field? "capability" Capability.codec (base.map (·.capability))
    beaconInterval := ← j.field? "beacon_interval" .word (base.map (·.beaconInterval))
    rates := ← j.field? "rates" .octets (base.map (·.rates))
    highThroughput := ← j.field? "ht" .flag (base.map (·.highThroughput))
    veryHighThroughput := ← j.field? "vht" .flag (base.map (·.veryHighThroughput))
    multimedia := ← j.field? "wmm" .flag (base.map (·.multimedia))
    protectedSetup := ← j.field? "wps" .flag (base.map (·.protectedSetup))
    peerToPeer := ← j.field? "p2p" .flag (base.map (·.peerToPeer))
    peerAddress :=
      ← j.field? "p2p_device_address" HardwareAddress.codec.nullable (base.map (·.peerAddress))
    security := ← j.field? "security" SecurityOffer.codec (base.map (·.security))
    country := ← j.field? "country" CountryLetters.codec.nullable (base.map (·.country))
    mobilityDomain :=
      ← j.field? "mobility_domain" MobilityDomain.codec.nullable (base.map (·.mobilityDomain))
    elements := ← j.field? "ies" .octets (base.map (·.elements)) }

def RateFeatures.codec : Codec RateFeatures where
  write f := .object [
    ("esf", .bool f.extendedSelectors),
    ("channel_bonding", .bool f.channelBonding),
    ("mimo", .bool f.multiStream)]
  read base j := return {
    extendedSelectors := ← j.field? "esf" .flag (base.map (·.extendedSelectors))
    channelBonding := ← j.field? "channel_bonding" .flag (base.map (·.channelBonding))
    multiStream := ← j.field? "mimo" .flag (base.map (·.multiStream)) }

def Criteria.read? (j : Json) : Option Criteria := do
  let base := Criteria.lenient
  return {
    names := ← j.field? "ssids" NetworkName.codec.list (some base.names)
    nameRequired := ← j.field? "ssid_required" .flag (some base.nameRequired)
    addresses := ← j.field? "bssids" HardwareAddress.codec.list (some base.addresses)
    channels := ← j.field? "channels" .octets (some base.channels)
    radioModes := ← j.field? "phy_modes" RadioModes.codec (some base.radioModes)
    kind := ← j.field? "bss_type" NetworkKind.codec (some base.kind)
    security := ← j.field? "security" SecurityProfile.codec (some base.security)
    country := ← j.field? "country" CountryLetters.codec.nullable (some base.country)
    peerToPeerOnly := ← j.field? "p2p_only" .flag (some base.peerToPeerOnly)
    protectedSetup := ← j.field? "wps" .flag (some base.protectedSetup)
    osen := ← j.field? "osen" .flag (some base.osen)
    mobilityDomain := ← j.field? "mobility_domain" Codec.word.nullable (some base.mobilityDomain) }

def Preferences.serviceCodec : Codec Bool :=
  .named [(false, "Auto"), (true, "QbssOnly")]

def Preferences.read? (j : Json) : Option Preferences := do
  let base := Preferences.usual
  return {
    heedCountry := ← j.field? "dot11d" .flag (some base.heedCountry)
    qualityOfServiceOnly := ← j.field? "qos_mode" serviceCodec (some base.qualityOfServiceOnly)
    rateFeatures := ← j.field? "rate_features" RateFeatures.codec (some base.rateFeatures)
    avoided := ← j.field? "blacklist" HardwareAddress.codec.list (some base.avoided) }

end Hotspot
