/-!
Which targets a layer takes. Targets are a list of items: a threshold for every target, or for the
targets that begin with a given one. The item with the longest such beginning counts, of equal ones
the last, and a record without an item is dropped.
-/

set_option autoImplicit false
set_option relaxedAutoImplicit false

namespace Hotspot.Log

inductive Severity
  | error
  | warn
  | info
  | debug
  | trace
  deriving DecidableEq, Repr

def Severity.rank : Severity → Nat
  | .error => 1
  | .warn => 2
  | .info => 3
  | .debug => 4
  | .trace => 5

abbrev Threshold := Option Severity

def Threshold.admits (t : Threshold) (s : Severity) : Bool :=
  t.any fun least => s.rank ≤ least.rank

structure Directive where
  target : String
  threshold : Threshold
  deriving DecidableEq, Repr

namespace Directive

def general (threshold : Threshold) : Directive := ⟨"", threshold⟩

def concerns (d : Directive) (target : String) : Bool :=
  d.target.toList.isPrefixOf target.toList

end Directive

abbrev Targets := List Directive

namespace Targets

def prefer (best : Option Directive) (d : Directive) : Option Directive :=
  match best with
  | some b => if b.target.length ≤ d.target.length then some d else best
  | none => some d

def choose (ts : Targets) (target : String) : Option Directive :=
  (ts.filter (·.concerns target)).foldl prefer none

def admits (ts : Targets) (target : String) (s : Severity) : Bool :=
  (ts.choose target).any (·.threshold.admits s)

end Targets

end Hotspot.Log
