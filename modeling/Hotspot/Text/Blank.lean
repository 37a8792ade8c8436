/-!
White space as the Unicode property of that name has it, and text freed of it at both ends.
-/

set_option autoImplicit false
set_option relaxedAutoImplicit false

namespace Hotspot.Text

def isBlank (c : Char) : Bool :=
  (0x09 ≤ c.toNat && c.toNat ≤ 0x0D) || c.toNat == 0x20 || c.toNat == 0x85 || c.toNat == 0xA0 ||
    c.toNat == 0x1680 || (0x2000 ≤ c.toNat && c.toNat ≤ 0x200A) || c.toNat == 0x2028 ||
    c.toNat == 0x2029 || c.toNat == 0x202F || c.toNat == 0x205F || c.toNat == 0x3000

def trim (cs : List Char) : List Char :=
  ((cs.dropWhile isBlank).reverse.dropWhile isBlank).reverse

/-- Two texts that differ at most in the case of the letters A to Z. -/
def sameIgnoringCase (a b : String) : Bool :=
  a.toLower == b.toLower

end Hotspot.Text
