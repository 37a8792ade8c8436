/-!
Whole numbers in a base of at most sixteen. A written number may carry one plus sign and any number
of leading zeros; it is refused when it has no digit, a foreign character, or a value that does not
fit below the given limit.
-/

set_option autoImplicit false
set_option relaxedAutoImplicit false

namespace Hotspot.Text.Numeral

def digit? (base : Nat) (c : Char) : Option Nat :=
  let value :=
    if '0' ≤ c && c ≤ '9' then c.toNat - '0'.toNat
    else if 'a' ≤ c && c ≤ 'f' then c.toNat - 'a'.toNat + 10
    else if 'A' ≤ c && c ≤ 'F' then c.toNat - 'A'.toNat + 10
    else base
  if value < base then some value else none

/-- The value of a row of digits, read on from the value of the digits before them. -/
def digits? (base : Nat) : Nat → List Char → Option Nat
  | value, [] => some value
  | value, c :: rest => (digit? base c).bind fun d => digits? base (value * base + d) rest

/-- A number below `limit`, with or without a plus sign in front. -/
def read? (base limit : Nat) (cs : List Char) : Option Nat :=
  let body := match cs with
    | '+' :: rest => rest
    | _ => cs
  match body with
  | [] => none
  | _ => (digits? base 0 body).filter (· < limit)

def upperDigit (n : Nat) : Char :=
  if n < 10 then Char.ofNat ('0'.toNat + n) else Char.ofNat ('A'.toNat + (n - 10))

def lowerDigit (n : Nat) : Char :=
  if n < 10 then Char.ofNat ('0'.toNat + n) else Char.ofNat ('a'.toNat + (n - 10))

def upperOctet (b : UInt8) : List Char :=
  [upperDigit (b.toNat / 16), upperDigit (b.toNat % 16)]

/-- A number in lower-case hexadecimal digits, without leading zeros. -/
def lowerHex (n : Nat) : List Char :=
  if n < 16 then [lowerDigit n] else lowerHex (n / 16) ++ [lowerDigit (n % 16)]

end Hotspot.Text.Numeral
