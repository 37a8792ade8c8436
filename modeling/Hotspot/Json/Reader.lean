import Hotspot.Json.Value
import Hotspot.Text.Numeral

/-!
Strict reading of JSON. Nothing but white space may follow the value; strings hold no bare control
characters; an escape names a character, on its own or as a pair of halves. A value that nobody
looks at only has to be well formed: there, a half without its other one is let pass.
-/

set_option autoImplicit false
set_option relaxedAutoImplicit false

namespace Hotspot.Json

/-- A reader takes a value off the front and returns it with what is left. -/
abbrev Reader (α : Type) := List Char → Option (α × List Char)

namespace Reader

def isSpace (c : Char) : Bool :=
  c == ' ' || c == '\t' || c == '\n' || c == '\r'

def skip (cs : List Char) : List Char :=
  cs.dropWhile isSpace

def hex4? (a b c d : Char) : Option Nat :=
  Text.Numeral.digits? 16 0 [a, b, c, d]

/-- The character that a single letter after a backslash stands for. -/
def letter? : Char → Option Char
  | '"' => some '"'
  | '\\' => some '\\'
  | '/' => some '/'
  | 'b' => some '\x08'
  | 'f' => some '\x0c'
  | 'n' => some '\n'
  | 'r' => some '\r'
  | 't' => some '\t'
  | _ => none

/-- A part of a string: a character, or half of one by its code. -/
inductive Piece
  | char (c : Char)
  | half (code : Nat)
  deriving DecidableEq, Repr

def Piece.ofCode (code : Nat) : Piece :=
  if 0xD800 ≤ code && code < 0xE000 then .half code else .char (Char.ofNat code)

def pieces : Reader (List Piece)
  | '"' :: rest => some ([], rest)
  | '\\' :: 'u' :: a :: b :: c :: d :: rest => do
    let code ← hex4? a b c d
    let (others, rest) ← pieces rest
    return (.ofCode code :: others, rest)
  | '\\' :: c :: rest => do
    let first ← letter? c
    let (others, rest) ← pieces rest
    return (.char first :: others, rest)
  | c :: rest =>
    if c.toNat < 0x20 then none
    else do
      let (others, rest) ← pieces rest
      return (.char c :: others, rest)
  | [] => none

def pair? (high low : Nat) : Option Char :=
  if high < 0xDC00 && 0xDC00 ≤ low then
    some (Char.ofNat (0x10000 + (high - 0xD800) * 0x400 + (low - 0xDC00)))
  else none

/-- Puts halves together. Each half needs its other one next to it. -/
def join? : List Piece → Option (List Char)
  | [] => some []
  | .char c :: rest => (join? rest).map (c :: ·)
  | .half high :: .half low :: rest => do
    let first ← pair? high low
    return first :: (← join? rest)
  | .half _ :: _ => none

def text : Reader String := fun cs => do
  let (found, rest) ← pieces cs
  return (String.ofList (← join? found), rest)

def blurred : Reader String := fun cs =>
  (pieces cs).map fun (_, rest) => ("", rest)

def digits : Reader (List Char) := fun cs =>
  match cs.takeWhile Char.isDigit with
  | [] => none
  | ds => some (ds, cs.dropWhile Char.isDigit)

/-- The digits before the point: a zero, or digits that do not begin with one. -/
def whole : Reader (List Char)
  | '0' :: rest => some (['0'], rest)
  | cs => digits cs

def fraction : Reader (List Char)
  | '.' :: rest => (digits rest).map fun (ds, rest) => ('.' :: ds, rest)
  | cs => some ([], cs)

def exponent : Reader (List Char)
  | c :: rest =>
    if c == 'e' || c == 'E' then
      match rest with
      | s :: after =>
        if s == '+' || s == '-' then (digits after).map fun (ds, rest) => (c :: s :: ds, rest)
        else (digits rest).map fun (ds, rest) => (c :: ds, rest)
      | [] => none
    else some ([], c :: rest)
  | [] => some ([], [])

def number : Reader Json := fun cs => do
  let (negative, cs) := match cs with
    | '-' :: rest => (true, rest)
    | _ => (false, cs)
  let (ds, rest) ← whole cs
  let (point, rest) ← fraction rest
  let (power, rest) ← exponent rest
  let value := (Text.Numeral.digits? 10 0 ds).getD 0
  let spelling := (if negative then ['-'] else []) ++ ds ++ point ++ power
  if point.isEmpty && power.isEmpty && !(negative && value == 0) then
    return (.integer (if negative then -(value : Int) else value), rest)
  else return (.decimal (String.ofList spelling), rest)

def word : List Char → List Char → Option (List Char)
  | [], cs => some cs
  | _ :: _, [] => none
  | w :: ws, c :: cs => if w == c then word ws cs else none

def scalar (string : Reader String) : Reader Json
  | 'n' :: rest => (word ['u', 'l', 'l'] rest).map fun rest => (.null, rest)
  | 't' :: rest => (word ['r', 'u', 'e'] rest).map fun rest => (.bool true, rest)
  | 'f' :: rest => (word ['a', 'l', 's', 'e'] rest).map fun rest => (.bool false, rest)
  | '"' :: rest => (string rest).map fun (s, rest) => (.text s, rest)
  | cs => number cs

/-- The items of a container, at least one, up to the character that closes it. No container has
more items than there are characters. -/
def items {α : Type} (read : Reader α) (close : Char) : Nat → Reader (List α)
  | 0, _ => none
  | n + 1, cs => do
    let (first, rest) ← read cs
    match skip rest with
    | c :: rest =>
      if c == ',' then
        let (others, rest) ← items read close n rest
        return (first :: others, rest)
      else if c == close then return ([first], rest)
      else none
    | [] => none

def container {α : Type} (read : Reader α) (close : Char) (size : Nat) : Reader (List α) :=
  fun cs => match skip cs with
    | c :: rest => if c == close then some ([], rest) else items read close size cs
    | [] => none

/-- A key, a colon and the value, which may be read in a way that depends on the key. -/
def member {α : Type} (string : Reader String) (read : String → Reader α) : Reader α := fun cs =>
  match skip cs with
  | '"' :: rest => do
    let (key, rest) ← string rest
    match skip rest with
    | ':' :: rest => read key rest
    | _ => none
  | _ => none

/-- A value in which containers have at most so many items and are nested at most so deep. -/
def value (string : Reader String) (size : Nat) : (depth : Nat) → Reader Json
  | 0, cs => scalar string (skip cs)
  | depth + 1, cs =>
    match skip cs with
    | '[' :: rest =>
      (container (value string size depth) ']' size rest).map fun (xs, rest) => (.array xs, rest)
    | '\x7b' :: rest =>
      let entry := member string fun key cs =>
        (value string size depth cs).map fun (j, rest) => ((key, j), rest)
      (container entry '\x7d' size rest).map fun (ms, rest) => (.object ms, rest)
    | cs => scalar string cs

def full (size : Nat) : Reader Json :=
  value text size size

/-- A member of an object if its key is wanted. The value under any other key is not looked at. -/
def wantedMember (wanted : List String) (size : Nat) : Reader (Option (String × Json)) :=
  member text fun key cs =>
    if wanted.contains key then (full size cs).map fun (j, rest) => (some (key, j), rest)
    else (value blurred size size cs).map fun (_, rest) => (none, rest)

/-- A value of which, if it is an object, only the wanted members are kept. -/
def wantedValue (wanted : List String) (size : Nat) : Reader Json := fun cs =>
  match skip cs with
  | '\x7b' :: rest =>
    (container (wantedMember wanted size) '\x7d' size rest).map fun (ms, rest) =>
      (.object (ms.filterMap id), rest)
  | cs => full size cs

/-- Reads a text from its beginning to its end. No container holds more items, and none is nested
deeper, than the text has characters. -/
def all {α : Type} (read : Nat → Reader α) (input : String) : Option α :=
  let cs := input.toList
  match read cs.length cs with
  | some (a, rest) => if (skip rest).isEmpty then some a else none
  | none => none

end Reader

def read? (text : String) : Option Json :=
  Reader.all Reader.full text

/-- Reads a text that holds one value. Of an object only the members with wanted keys are kept, and
the others only have to be well formed. -/
def readWanted? (wanted : List String) (text : String) : Option Json :=
  Reader.all (Reader.wantedValue wanted) text

end Hotspot.Json
