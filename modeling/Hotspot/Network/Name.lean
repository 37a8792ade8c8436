import Hotspot.DecodeError
import Hotspot.Text.Quoted
import Hotspot.Text.Utf8

/-!
Network names: up to 32 octets that need not be text. The empty name stands for any network in a
filter, and a network that hides its name sends zeros or nothing.
-/

set_option autoImplicit false
set_option relaxedAutoImplicit false

namespace Hotspot

structure NetworkName where
  octets : List UInt8
  deriving DecidableEq, Repr

namespace NetworkName

def limit : Nat := 32

def wildcard : NetworkName := ⟨[]⟩

def ofOctets (octets : List UInt8) : Except DecodeError NetworkName :=
  if octets.length ≤ limit then .ok ⟨octets⟩
  else .error (.name (.tooLong octets.length limit))

def ofText (text : String) : Except DecodeError NetworkName :=
  ofOctets (Text.Utf8.encode text)

/-- The name as text, with replacement characters where it is none. -/
def render (n : NetworkName) : String :=
  Text.Utf8.decode n.octets

def quoted (n : NetworkName) : String :=
  Text.Quoted.render n.render

def isWildcard (n : NetworkName) : Bool :=
  n.octets.isEmpty

def isHidden (n : NetworkName) : Bool :=
  n.octets.all (· == 0)

end NetworkName

end Hotspot
