/-!
A text cut into fields at separator characters. There is always one field more than there are
separators.
-/

set_option autoImplicit false
set_option relaxedAutoImplicit false

namespace Hotspot.Text

def fields (isSeparator : Char → Bool) : List Char → List (List Char)
  | [] => [[]]
  | c :: rest =>
    if isSeparator c then [] :: fields isSeparator rest
    else match fields isSeparator rest with
      | [] => [[c]]
      | field :: others => (c :: field) :: others

end Hotspot.Text
