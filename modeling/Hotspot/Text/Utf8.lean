/-!
Reading octets as UTF-8 text without ever failing. Main rule: a well-formed sequence becomes its
character, and every longest broken beginning of a sequence becomes one replacement character.
-/

set_option autoImplicit false
set_option relaxedAutoImplicit false

namespace Hotspot.Text.Utf8

def replacement : Char := '\uFFFD'

/-- A character whose first octets have been read: the next octet lies between `low` and `high`,
and `later` further octets follow it. -/
structure Pending where
  later : Nat
  low : UInt8
  high : UInt8
  value : Nat

/-- Characters that are finished, and the one that is still being read. -/
abbrev Progress := List Char × Option Pending

/-- Starts a character at its first octet; an octet that starts none is replaced. -/
def start (b : UInt8) : Progress :=
  if b < 0x80 then ([Char.ofNat b.toNat], none)
  else if 0xC2 ≤ b && b ≤ 0xDF then ([], some ⟨0, 0x80, 0xBF, b.toNat % 32⟩)
  else if b == 0xE0 then ([], some ⟨1, 0xA0, 0xBF, 0⟩)
  else if b == 0xED then ([], some ⟨1, 0x80, 0x9F, 13⟩)
  else if 0xE1 ≤ b && b ≤ 0xEF then ([], some ⟨1, 0x80, 0xBF, b.toNat % 16⟩)
  else if b == 0xF0 then ([], some ⟨2, 0x90, 0xBF, 0⟩)
  else if 0xF1 ≤ b && b ≤ 0xF3 then ([], some ⟨2, 0x80, 0xBF, b.toNat % 8⟩)
  else if b == 0xF4 then ([], some ⟨2, 0x80, 0x8F, 4⟩)
  else ([replacement], none)

/-- Goes on with a character; an octet that cannot continue it leaves a replacement character
behind and starts afresh. -/
def Pending.step (p : Pending) (b : UInt8) : Progress :=
  if p.low ≤ b && b ≤ p.high then
    let value := p.value * 64 + b.toNat % 64
    match p.later with
    | 0 => ([Char.ofNat value], none)
    | n + 1 => ([], some ⟨n, 0x80, 0xBF, value⟩)
  else
    let (out, next) := start b
    (replacement :: out, next)

def decodeFrom : Option Pending → List UInt8 → List Char
  | none, [] => []
  | some _, [] => [replacement]
  | none, b :: rest =>
    let (out, next) := start b
    out ++ decodeFrom next rest
  | some p, b :: rest =>
    let (out, next) := p.step b
    out ++ decodeFrom next rest

/-- The text that octets show, with replacement characters where they show none. -/
def decode (octets : List UInt8) : String :=
  String.ofList (decodeFrom none octets)

def encode (text : String) : List UInt8 :=
  text.toUTF8.toList

end Hotspot.Text.Utf8
