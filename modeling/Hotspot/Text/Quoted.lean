import Hotspot.Text.Numeral
import Hotspot.Text.Printable

/-!
A text shown between quotes so that a reader can tell every character. Main rule: quotes,
backslashes and characters that do not show on their own are written as escapes, all else stands for
itself.
-/

set_option autoImplicit false
set_option relaxedAutoImplicit false

namespace Hotspot.Text.Quoted

def escape (c : Char) : List Char :=
  match c with
  | '\x00' => ['\\', '0']
  | '\t' => ['\\', 't']
  | '\n' => ['\\', 'n']
  | '\r' => ['\\', 'r']
  | '"' => ['\\', '"']
  | '\\' => ['\\', '\\']
  | c => if isPrintable c then [c] else "\\u\x7b".toList ++ Numeral.lowerHex c.toNat ++ ['\x7d']

def render (text : String) : String :=
  String.ofList ('"' :: text.toList.flatMap escape ++ ['"'])

end Hotspot.Text.Quoted
