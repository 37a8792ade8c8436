import Hotspot.Interchange.Codec
import Hotspot.Spectrum.Country
import Hotspot.Spectrum.Selection

/-!
The JSON form of channels, domains, the non-occupancy list and the rules of selection. Lengths of
time have seconds and nanoseconds.
-/

set_option autoImplicit false
set_option relaxedAutoImplicit false

namespace Hotspot

def Band.codec : Codec Band :=
  .named [(.lower, "Band2_4GHz"), (.upper, "Band5GHz")]

def Width.codec : Codec Width :=
  .named [(.mhz20, "Mhz20"), (.mhz40, "Mhz40"), (.mhz80, "Mhz80")]

/-- A bonding by the places of the bonded channels as seen from the primary one. -/
def Bonding.codec : Codec Bonding :=
  .named [(.alone, "None"), (.firstOfTwo, "Ht40Lower"), (.secondOfTwo, "Ht40Upper"),
    (.firstOfFour, "Vht80LowLow"), (.secondOfFour, "Vht80HighLow"),
    (.thirdOfFour, "Vht80LowHigh"), (.fourthOfFour, "Vht80HighHigh")]

def Tuning.codec : Codec Tuning where
  write t := .object [
    ("channel", Codec.octet.write t.channel),
    ("width", Width.codec.write t.width),
    ("bonding", Bonding.codec.write t.bonding)]
  read base j := return {
    channel := ← j.field? "channel" .octet (base.map (·.channel))
    width := ← j.field? "width" Width.codec (base.map (·.width))
    bonding := ← j.field? "bonding" Bonding.codec (base.map (·.bonding)) }

def Region.codec : Codec Region :=
  .named [(.fcc, "Fcc"), (.etsi, "Etsi"), (.mkk, "Mkk"), (.cn, "Cn"), (.kr, "Kr"),
    (.world, "World")]

def Allowance.codec : Codec Allowance where
  write a := .object [
    ("channel", Codec.octet.write a.channel),
    ("dfs", .bool a.radar),
    ("indoor_only", .bool a.indoorOnly),
    ("max_power_dbm", .integer a.maxPower)]
  read base j := return {
    channel := ← j.field? "channel" .octet (base.map (·.channel))
    radar := ← j.field? "dfs" .flag (base.map (·.radar))
    indoorOnly := ← j.field? "indoor_only" .flag (base.map (·.indoorOnly))
    maxPower := ← j.field? "max_power_dbm" .integer (base.map (·.maxPower)) }

def Allowance.row : Codec Allowance where
  write a := .array [Codec.octet.write a.channel, .bool a.radar, .bool a.indoorOnly,
    .integer a.maxPower]
  read _
    | .array [channel, radar, indoorOnly, maxPower] => return {
        channel := ← Codec.octet.read? channel
        radar := ← Codec.flag.read? radar
        indoorOnly := ← Codec.flag.read? indoorOnly
        maxPower := ← Codec.integer.read? maxPower }
    | _ => none

def Domain.codec : Codec Domain where
  write d := .object [
    ("country", .text d.country),
    ("region", Region.codec.write d.region),
    ("channels", Allowance.codec.list.write d.allowances)]
  read base j := return {
    country := ← j.field? "country" .text (base.map (·.country))
    region := ← j.field? "region" Region.codec (base.map (·.region))
    allowances := ← j.field? "channels" Allowance.codec.list (base.map (·.allowances)) }

/-- A sound domain: by its country, or from the rows of an explicit table. -/
def Domain.readSound? (j : Json) : Option (Except ControlError Domain) :=
  match j with
  | .text country => some (Domain.forCountry country)
  | _ => do
    return Domain.custom (← j.field? "country" .text none)
      (← j.field? "region" Region.codec none) (← j.field? "channels" Allowance.row.list none)

def Duration.codec : Codec Duration where
  write d := .object [
    ("secs", .natural (d / 1000000000)),
    ("nanos", .natural (d % 1000000000))]
  read base j := do
    let whole ← j.field? "secs" .natural (base.map (· / 1000000000))
    let part ← j.field? "nanos" .natural (base.map (· % 1000000000))
    return Duration.seconds whole + part

namespace NonOccupancy

def Timing.codec : Codec Timing where
  write t := .object [
    ("cac", Duration.codec.write t.listening),
    ("weather_cac", Duration.codec.write t.weatherListening),
    ("non_occupancy", Duration.codec.write t.absence),
    ("weather_non_occupancy", Duration.codec.write t.weatherAbsence)]
  read base j := return {
    listening := ← j.field? "cac" Duration.codec (base.map (·.listening))
    weatherListening := ← j.field? "weather_cac" Duration.codec (base.map (·.weatherListening))
    absence := ← j.field? "non_occupancy" Duration.codec (base.map (·.absence))
    weatherAbsence :=
      ← j.field? "weather_non_occupancy" Duration.codec (base.map (·.weatherAbsence)) }

def RecordStatus.codec : Codec RecordStatus :=
  .named [(.usable, "Usable"), (.available, "Available"), (.unavailable, "Unavailable")]

def Record.codec : Codec Record where
  write r := .object [
    ("channel", Codec.octet.write r.channel),
    ("state", RecordStatus.codec.write r.status),
    ("radar_age_ms", Codec.word64.nullable.write r.ageMillis)]
  read base j := return {
    channel := ← j.field? "channel" .octet (base.map (·.channel))
    status := ← j.field? "state" RecordStatus.codec (base.map (·.status))
    ageMillis := ← j.field? "radar_age_ms" Codec.word64.nullable (base.map (·.ageMillis)) }

end NonOccupancy

def Policy.codec : Codec Policy where
  write p := .object [
    ("japan_w53_disabled", .bool p.withoutW53),
    ("outdoor", .bool p.outdoor),
    ("prefer_non_dfs", .bool p.avoidRadar),
    ("avoid_channels", Codec.octets.write p.avoided)]
  read base j := return {
    withoutW53 := ← j.field? "japan_w53_disabled" .flag (base.map (·.withoutW53))
    outdoor := ← j.field? "outdoor" .flag (base.map (·.outdoor))
    avoidRadar := ← j.field? "prefer_non_dfs" .flag (base.map (·.avoidRadar))
    avoided := ← j.field? "avoid_channels" .octets (base.map (·.avoided)) }

def SearchRange.codec : Codec SearchRange where
  write r := .object [
    ("start_channel", Codec.octet.write r.first),
    ("end_channel", Codec.octet.write r.last),
    ("channel_list", Codec.octets.write r.only),
    ("prefer_non_dfs", .bool r.avoidRadar)]
  read base j := return {
    first := ← j.field? "start_channel" .octet (base.map (·.first))
    last := ← j.field? "end_channel" .octet (base.map (·.last))
    only := ← j.field? "channel_list" .octets (base.map (·.only))
    avoidRadar := ← j.field? "prefer_non_dfs" .flag (base.map (·.avoidRadar)) }

end Hotspot
