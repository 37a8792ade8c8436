import Hotspot.Json.Value
import Hotspot.Text.Numeral

/-!
Writing JSON: in one line without white space, or as a record with a line for each member.
-/

set_option autoImplicit false
set_option relaxedAutoImplicit false

namespace Hotspot.Json

namespace Writer

/-- A character as it stands in a string: quotes, backslashes and control characters are escaped. -/
def escape (c : Char) : List Char :=
  match c with
  | '"' => ['\\', '"']
  | '\\' => ['\\', '\\']
  | '\x08' => ['\\', 'b']
  | '\x0c' => ['\\', 'f']
  | '\n' => ['\\', 'n']
  | '\r' => ['\\', 'r']
  | '\t' => ['\\', 't']
  | c =>
    if c.toNat < 0x20 then
      ['\\', 'u', '0', '0', Text.Numeral.lowerDigit (c.toNat / 16),
        Text.Numeral.lowerDigit (c.toNat % 16)]
    else [c]

def quote (text : String) : String :=
  String.ofList ('"' :: text.toList.flatMap escape ++ ['"'])

end Writer

mutual

def render : Json → String
  | .null => "null"
  | .bool true => "true"
  | .bool false => "false"
  | .integer n => toString n
  | .decimal spelling => spelling
  | .text s => Writer.quote s
  | .array xs => "[" ++ ",".intercalate (renderItems xs) ++ "]"
  | .object ms => "\x7b" ++ ",".intercalate (renderMembers ms) ++ "\x7d"

def renderItems : List Json → List String
  | [] => []
  | j :: rest => j.render :: renderItems rest

def renderMembers : List (String × Json) → List String
  | [] => []
  | (key, j) :: rest => (Writer.quote key ++ ":" ++ j.render) :: renderMembers rest

end

def renderLine (m : String × Json) : String :=
  "  " ++ Writer.quote m.1 ++ ": " ++ m.2.render

def renderRecord (members : List (String × Json)) : String :=
  "\x7b\n" ++ ",\n".intercalate (members.map renderLine) ++ "\n\x7d"

end Hotspot.Json
