import Hotspot.Interchange.Codec
import Hotspot.Log.Router

/-!
The JSON form of log settings and of records. This is the form in which they are passed on; the file
that keeps settings is read more strictly.
-/

set_option autoImplicit false
set_option relaxedAutoImplicit false

namespace Hotspot.Log

def Settings.codec : Codec Settings where
  write s := .object [
    ("enabled", .bool s.enabled),
    ("level", .text s.level),
    ("keep_days", Codec.word64.write s.keepDays)]
  read base j := return {
    enabled := ← j.field? "enabled" .flag (base.map (·.enabled))
    level := ← j.field? "level" .text (base.map (·.level))
    keepDays := ← j.field? "keep_days" .word64 (base.map (·.keepDays)) }

def Severity.codec : Codec Severity :=
  .named [(.error, "error"), (.warn, "warn"), (.info, "info"), (.debug, "debug"),
    (.trace, "trace")]

def Record.codec : Codec Record where
  write r := .object [
    ("target", .text r.target),
    ("level", Severity.codec.write r.severity),
    ("id", .natural r.id)]
  read base j := return {
    target := ← j.field? "target" .text (base.map (·.target))
    severity := ← j.field? "level" Severity.codec (base.map (·.severity))
    id := ← j.field? "id" .natural (base.map (·.id)) }

end Hotspot.Log
