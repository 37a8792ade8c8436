import Hotspot.Log.Settings
import Hotspot.Time

/-!
Which log files are kept. Files older than a cutoff go first; then the oldest ones go until the rest
fits a size, of which a running total is kept. Directories and files with other names stay.
-/

set_option autoImplicit false
set_option relaxedAutoImplicit false

namespace Hotspot.Log

/-- Something in the log directory. A directory has no size. A name that is no text is not a log's,
so that any other name that is not a log's can stand for it. -/
structure Item where
  name : String
  modified : Instant
  size : Option Nat
  deriving DecidableEq, Repr

namespace Item

/-- The characters occur next to each other somewhere in the text. -/
def occurs (part : List Char) : List Char → Bool
  | [] => part.isEmpty
  | c :: rest => part.isPrefixOf (c :: rest) || occurs part rest

/-- Names of logs end in the extension or carry a date behind it. -/
def isLogName (name : String) : Bool :=
  ".log".toList.isSuffixOf name.toList || occurs ".log.".toList name.toList

def isLog (i : Item) : Bool :=
  i.size.isSome && isLogName i.name

def octets (i : Item) : Nat :=
  i.size.getD 0

end Item

namespace Retention

def sizeLimit : Nat := 200 * 1024 * 1024

def total : List Item → Nat
  | [] => 0
  | i :: rest => i.octets + total rest

/-- Deletes items from the front until the rest fits. `sum` is the total of what is still there.
Returns what was deleted, in order, and the rest. -/
def sweep (limit : Nat) : Nat → List Item → List Item × List Item
  | _, [] => ([], [])
  | sum, i :: rest =>
    if sum ≤ limit then ([], i :: rest)
    else
      let (gone, left) := sweep limit (sum - i.octets) rest
      (i :: gone, left)

/-- What is left of a directory, and what was deleted from it, in order. -/
structure Outcome where
  left : List Item
  deleted : List Item
  deriving DecidableEq, Repr

/-- Deletes the log files that are older than the cutoff, and of the others the oldest until the
rest fits. -/
def prune (cutoff : Instant) (limit : Nat) (items : List Item) : Outcome :=
  let (kept, expired) := (items.filter Item.isLog).partition fun i => cutoff ≤ i.modified
  let (swept, rest) := sweep limit (total kept) (kept.mergeSort fun a b => a.modified ≤ b.modified)
  { left := items.filter (fun i => !i.isLog) ++ rest, deleted := expired ++ swept }

/-- The instant from which files are kept. Days beyond the reach of the clock, which counts from
zero and goes 2^63 seconds back, leave the cutoff at zero. -/
def cutoff (now : Instant) (days : UInt64) : Instant :=
  let span := min (days.toNat * 86400) (UInt64.size - 1)
  let instant := now - (Duration.seconds span : Nat)
  if -((Duration.seconds (UInt64.size / 2) : Nat) : Int) ≤ instant then instant else 0

def run (now : Instant) (s : Settings) (items : List Item) : List Item :=
  (prune (cutoff now s.keepDays) sizeLimit items).left

end Retention

end Hotspot.Log
