import Hotspot.Json.Value

/-!
The JSON form of values. A codec writes values of one kind and reads them back; a text may leave out
members of an object if there is a value to take them from. Main statement: what a codec of names
writes is read back.
-/

set_option autoImplicit false
set_option relaxedAutoImplicit false

namespace Hotspot

/-- How values of one kind are written, and how they are read over a value that supplies what the
text leaves out. -/
structure Codec (α : Type) where
  write : α → Json
  read : Option α → Json → Option α

namespace Json

def list {α : Type} (write : α → Json) (values : List α) : Json :=
  .array (values.map write)

def nullable {α : Type} (write : α → Json) : Option α → Json
  | none => .null
  | some value => write value

def natural (n : Nat) : Json :=
  .integer n

def items? : Json → Option (List Json)
  | .array items => some items
  | _ => none

/-- A kind of value and what belongs to it. A name on its own has nothing. -/
def kind? : Json → Option (String × Json)
  | .text name => some (name, .null)
  | .object [(name, content)] => some (name, content)
  | _ => none

def ofKind (name : String) (content : Json) : Json :=
  .object [(name, content)]

/-- The member of an object, over the one of another value. A member that is missing in both stands
for null. -/
def field? {α : Type} (j : Json) (key : String) (c : Codec α) (base : Option α) : Option α :=
  match j.member? key, base with
  | some value, _ => c.read base value
  | none, some value => some value
  | none, none => c.read none .null

end Json

namespace Codec

def read? {α : Type} (c : Codec α) (j : Json) : Option α :=
  c.read none j

def flag : Codec Bool where
  write := .bool
  read _
    | .bool b => some b
    | _ => none

def text : Codec String where
  write := .text
  read _
    | .text s => some s
    | _ => none

def integer : Codec Int where
  write := .integer
  read _
    | .integer n => some n
    | _ => none

def natural : Codec Nat where
  write n := .integer n
  read _
    | .integer n => if 0 ≤ n then some n.toNat else none
    | _ => none

/-- Values that are written as others: `view` shows a value as another, and `of?` finds it again. -/
def imap {α β : Type} (c : Codec β) (view : α → β) (of? : β → Option α) : Codec α where
  write a := c.write (view a)
  read base j := (c.read (base.map view) j).bind of?

def below (bound : Nat) : Codec Nat :=
  natural.imap id fun n => if n < bound then some n else none

def octet : Codec UInt8 :=
  (below UInt8.size).imap UInt8.toNat fun n => some (UInt8.ofNat n)

def word : Codec UInt16 :=
  (below UInt16.size).imap UInt16.toNat fun n => some (UInt16.ofNat n)

def word32 : Codec UInt32 :=
  (below UInt32.size).imap UInt32.toNat fun n => some (UInt32.ofNat n)

def word64 : Codec UInt64 :=
  (below UInt64.size).imap UInt64.toNat fun n => some (UInt64.ofNat n)

def list {α : Type} (c : Codec α) : Codec (List α) where
  write := Json.list c.write
  read _ j := j.items?.bind fun items => items.mapM c.read?

def octets : Codec (List UInt8) :=
  list octet

def nullable {α : Type} (c : Codec α) : Codec (Option α) where
  write := Json.nullable c.write
  read base
    | .null => some none
    | j => (c.read base.join j).map some

def named {α : Type} [BEq α] (names : List (α × String)) : Codec α where
  write a := .text ((names.lookup a).getD "")
  read _
    | .text s => (names.find? (·.2 == s)).map (·.1)
    | _ => none

end Codec

end Hotspot
