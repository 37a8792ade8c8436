/-!
JSON values. The members of an object stay in the order they were written in, and a number that is
not spelled as an integer keeps its spelling.
-/

set_option autoImplicit false
set_option relaxedAutoImplicit false

namespace Hotspot

inductive Json
  | null
  | bool (value : Bool)
  | integer (value : Int)
  | decimal (spelling : String)
  | text (value : String)
  | array (items : List Json)
  | object (members : List (String × Json))

namespace Json

def member? (key : String) : Json → Option Json
  | .object members => members.lookup key
  | _ => none

end Json

end Hotspot
