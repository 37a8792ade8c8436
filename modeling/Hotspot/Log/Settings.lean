import Hotspot.Json.Reader
import Hotspot.Json.Writer

/-!
Settings of the log and the file that keeps them. A file that does not hold settings stands for the
defaults. Settings are saved by way of a draft that takes the place of the file when it is complete.
-/

set_option autoImplicit false
set_option relaxedAutoImplicit false

namespace Hotspot.Log

/-- What is logged and for how many days it is kept. -/
structure Settings where
  enabled : Bool := true
  level : String := "info"
  keepDays : UInt64 := 14
  deriving DecidableEq, Repr

namespace Settings

def path : String := "config/logging.json"

def draftPath : String := path ++ ".tmp"

/-- The directory of the file and its draft, below the root directory. -/
def configDirectory : String := "config"

def directory : String := "logs"

def members (s : Settings) : List (String × Json) :=
  [("enabled", .bool s.enabled), ("level", .text s.level), ("keep_days", .integer s.keepDays.toNat)]

def render (s : Settings) : String :=
  Json.renderRecord s.members

def bool? : Json → Option Bool
  | .bool b => some b
  | _ => none

def text? : Json → Option String
  | .text s => some s
  | _ => none

def count? : Json → Option UInt64
  | .integer n => if 0 ≤ n && n < UInt64.size then some (UInt64.ofNat n.toNat) else none
  | _ => none

/-- The value of a member, the default if there is none; a key that is given twice has no value. -/
def field? {α : Type} (members : List (String × Json)) (key : String) (default : α)
    (read : Json → Option α) : Option α :=
  match members.filter (·.1 == key) with
  | [] => some default
  | [(_, j)] => read j
  | _ => none

/-- The value at a place of a list, the default if the list ends before. -/
def place? {α : Type} (items : List Json) (n : Nat) (default : α) (read : Json → Option α) :
    Option α :=
  match items[n]? with
  | none => some default
  | some j => read j

/-- Settings from an object, whose other members do not matter, or from a list of at most three
values in order. -/
def ofJson? : Json → Option Settings
  | .object members => do
    let base : Settings := {}
    return {
      enabled := ← field? members "enabled" base.enabled bool?
      level := ← field? members "level" base.level text?
      keepDays := ← field? members "keep_days" base.keepDays count? }
  | .array items => do
    let base : Settings := {}
    guard (items.length ≤ 3)
    return {
      enabled := ← place? items 0 base.enabled bool?
      level := ← place? items 1 base.level text?
      keepDays := ← place? items 2 base.keepDays count? }
  | _ => none

def keys : List String := ["enabled", "level", "keep_days"]

/-- The settings in the text of a file, the defaults if it holds none. -/
def ofText (text : String) : Settings :=
  ((Json.readWanted? keys text).bind ofJson?).getD {}

end Settings

inductive File
  | missing
  | unreadable
  | holding (contents : String)
  deriving DecidableEq, Repr

namespace File

/-- Reads the settings. A missing file is written with the defaults. -/
def read : File → Settings × File
  | .missing => ({}, .holding (Settings.render {}))
  | .unreadable => ({}, .unreadable)
  | .holding contents => (.ofText contents, .holding contents)

def write (_ : File) (s : Settings) : File :=
  .holding s.render

end File

/-- The step at which settings could not be saved. A draft that was not written to its end is left
behind. -/
inductive Fault
  | directory
  | opening
  | writing (left : File)
  | syncing
  | renaming
  deriving DecidableEq, Repr

namespace Fault

def draft (before : File) (s : Settings) : Fault → File
  | .directory | .opening => before
  | .writing left => left
  | .syncing | .renaming => before.write s

def below (root path : String) : String :=
  if root.isEmpty || root.endsWith "/" then root ++ path else root ++ "/" ++ path

def message (root : String) : Fault → String
  | .directory => "creating logging config dir " ++ below root Settings.configDirectory
  | .opening => "opening " ++ below root Settings.draftPath
  | .writing _ => "writing " ++ below root Settings.draftPath
  | .syncing => "syncing " ++ below root Settings.draftPath
  | .renaming =>
    "renaming " ++ below root Settings.draftPath ++ " -> " ++ below root Settings.path

end Fault

structure Folder where
  file : File
  draft : File
  deriving DecidableEq, Repr

namespace Folder

/-- Writes the settings to the draft and puts it in place of the file, unless a step fails. -/
def save (f : Folder) (s : Settings) : Option Fault → Folder × Except Fault Unit
  | none => (⟨f.draft.write s, .missing⟩, .ok ())
  | some fault => ({ f with draft := fault.draft f.draft s }, .error fault)

/-- Reads the settings. A missing file is saved with the defaults, which may fail without notice. -/
def load (f : Folder) (fault : Option Fault) : Settings × Folder :=
  match f.file with
  | .missing => ({}, (f.save {} fault).1)
  | file => (file.read.1, f)

end Folder

end Hotspot.Log
