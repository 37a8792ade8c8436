import Hotspot.AccessPoint.Settings
import Hotspot.Text.Blank
import Hotspot.Text.Fields

/-!
Settings from named variables. A variable that is unset, or that does not hold what it should,
leaves its setting at the default.
-/

set_option autoImplicit false
set_option relaxedAutoImplicit false

namespace Hotspot.Environment

/-- The values of the variables that are set, by the last part of their name. -/
abbrev Variables := String → Option String

def number (vars : Variables) (name : String) (default : Nat) : Nat :=
  ((vars name).bind fun v => Text.Numeral.read? 10 UInt64.size (Text.trim v.toList)).getD default

def switch (vars : Variables) (name : String) : Bool :=
  (vars name).any fun v =>
    v == "1" || Text.sameIgnoringCase v "true" || Text.sameIgnoringCase v "yes"

/-- The items of a list between commas. Blanks around items and items that are no octet are
dropped. -/
def octets (vars : Variables) (name : String) : List UInt8 :=
  (Text.fields (· == ',') ((vars name).getD "").toList).filterMap fun item =>
    (Text.Numeral.read? 10 256 (Text.trim item)).map UInt8.ofNat

def country (vars : Variables) (default : String) : String :=
  match (vars "COUNTRY").map fun v => (String.ofList (Text.trim v.toList)).toUpper with
  | none | some "" => default
  | some code => code

def maxSessions (vars : Variables) (default : Nat) : Nat :=
  (((vars "MAX_SESSIONS").bind fun v => Text.Numeral.read? 10 UInt64.size v.toList).filter
    (0 < ·)).getD default

def settings (vars : Variables) : Settings :=
  let base : Settings := {}
  { country := country vars base.country
    timing := {
      listening := .millis (number vars "CAC_MS" 60000)
      weatherListening := .millis (number vars "WEATHER_CAC_MS" 600000)
      absence := .seconds (number vars "NOP_SECS" 1800)
      weatherAbsence := .seconds (number vars "WEATHER_NOP_SECS" 3600) }
    skipListening := switch vars "SKIP_CAC"
    policy := {
      withoutW53 := switch vars "JAPAN_W53_DISABLED"
      outdoor := switch vars "OUTDOOR"
      avoidRadar := switch vars "PREFER_NON_DFS"
      avoided := octets vars "AVOID_CHANNELS" }
    maxSessions := maxSessions vars base.maxSessions }

end Hotspot.Environment
