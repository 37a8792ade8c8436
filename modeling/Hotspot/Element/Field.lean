import Hotspot.DecodeError

/-!
The fields that element bodies are made of. Each reader takes its field off the front and returns it
with what is left, or says which field was cut short.
-/

set_option autoImplicit false
set_option relaxedAutoImplicit false

namespace Hotspot.Element.Field

abbrev Reader (α : Type) := List UInt8 → Except ElementFault (α × List UInt8)

def word (field : String) : Reader UInt16
  | low :: high :: rest => .ok (low.toUInt16 + high.toUInt16 * 256, rest)
  | _ => .error (.truncated field)

def suite (field : String) : Reader Suite
  | a :: b :: c :: d :: rest => .ok (⟨⟨a, b, c⟩, d⟩, rest)
  | _ => .error (.truncated field)

def octets (n : Nat) (field : String) : Reader { bytes : List UInt8 // bytes.length = n } :=
  fun bytes =>
    if h : n ≤ bytes.length then
      .ok (⟨bytes.take n, by simp [h]⟩, bytes.drop n)
    else .error (.truncated field)

def times {α : Type} (read : Reader α) : Nat → Reader (List α)
  | 0, bytes => .ok ([], bytes)
  | n + 1, bytes => do
    let (first, rest) ← read bytes
    let (others, rest) ← times read n rest
    return (first :: others, rest)

/-- A counted list of suite selectors. A count that announces more than there is refuses the whole
list. -/
def suites (field : String) : Reader (List Suite) := fun bytes => do
  let (count, rest) ← word field bytes
  if rest.length < 4 * count.toNat then throw (.listTruncated field)
  times (suite field) count.toNat rest

/-- Reads a field unless nothing is left, in which case it has a default. -/
def orDefault {α : Type} (default : α) (read : Reader α) : Reader α
  | [] => .ok (default, [])
  | bytes => read bytes

/-- Reads a field if at least `size` octets are left, in which case it is there. -/
def ifPresent {α : Type} (size : Nat) (read : Reader α) : Reader (Option α) := fun bytes =>
  if size ≤ bytes.length then do
    let (value, rest) ← read bytes
    return (some value, rest)
  else return (none, bytes)

def encodeWord (w : UInt16) : List UInt8 :=
  [w.toUInt8, (w / 256).toUInt8]

def encodeSuites (list : List Suite) : List UInt8 :=
  encodeWord (UInt16.ofNat list.length) ++ list.flatMap Suite.octets

/-- The body of an element that may come with its two header octets in front. They are taken for a
header when the first is the element's own and the rest could be a body of `least` octets. -/
def unwrap (id : UInt8) (least : Nat) (bytes : List UInt8) :
    Except ElementFault (List UInt8) :=
  match bytes with
  | tag :: len :: rest =>
    if tag == id && least ≤ rest.length then
      if rest.length < len.toNat then .error .lengthExceedsBuffer
      else .ok (rest.take len.toNat)
    else .ok bytes
  | _ => .ok bytes

end Hotspot.Element.Field
