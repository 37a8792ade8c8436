import Hotspot.Log.Settings
import Hotspot.Log.Targets

/-!
Where records go. Each record that passes the filter is shown on the console and offered to a layer
for each file, which takes it or leaves it by its target: the layer of a subsystem takes the targets
that begin with its own, that of the component the others. The first start decides on the layers,
and the filter can be replaced later; further starts only create their files. How a level is read as
a filter is left open.
-/

set_option autoImplicit false
set_option relaxedAutoImplicit false

namespace Hotspot.Log

structure Record where
  target : String
  severity : Severity
  id : Nat
  deriving DecidableEq, Repr

abbrev Filter := Record → Bool

/-- How filters are read from texts: `read?` refuses what is not well formed, `readAny` makes a
filter of any text. -/
structure FilterReader where
  read? : String → Option Filter
  readAny : String → Filter

/-- The filter that settings ask for; a level that is refused stands for the usual one. -/
def Settings.filter (reader : FilterReader) (s : Settings) : Filter :=
  if s.enabled then (reader.read? s.level).getD (reader.readAny "info") else reader.readAny "off"

/-- The targets of the subsystems, each with the name of its file. -/
def subsystems : List (String × String) :=
  [("sap", "sap.log"), ("dfs", "dfs.log"), ("acs", "acs.log"), ("csr", "csr.log")]

/-- What writes the records with certain targets to a file. -/
structure Layer where
  file : String
  targets : Targets
  deriving DecidableEq, Repr

namespace Layer

def fileOf (target : String) : String :=
  ((subsystems.find? (·.1 == target)).map (·.2)).getD "other.log"

def subsystem (target : String) : Layer :=
  ⟨fileOf target, [⟨target, some .trace⟩]⟩

/-- The layer of the component: whatever the subsystems do not take. -/
def component (name : String) : Layer :=
  ⟨name ++ ".log",
    .general (some .trace) :: subsystems.map fun owner => ⟨owner.1, none⟩⟩

def all (name : String) : List Layer :=
  component name :: subsystems.map fun owner => subsystem owner.1

def takes (layer : Layer) (record : Record) : Bool :=
  layer.targets.admits record.target record.severity

end Layer

inductive Place
  | empty
  | directory
  | taken
  deriving DecidableEq, Repr

/-- A log directory: which records are in which file, by number. -/
structure Logs where
  place : Place
  files : List (String × List Nat)
  deriving DecidableEq, Repr

namespace Logs

def create (logs : Logs) (name : String) : Logs :=
  if logs.files.any (·.1 == name) then logs else { logs with files := logs.files ++ [(name, [])] }

def append (logs : Logs) (name : String) (id : Nat) : Logs :=
  { logs with
    files := logs.files.map fun f => if f.1 == name then (f.1, f.2 ++ [id]) else f }

def prepare (layers : List Layer) (logs : Logs) : Logs :=
  (layers.map Layer.file).foldl create { logs with place := .directory }

def offer (record : Record) (logs : Logs) (layer : Layer) : Logs :=
  if layer.takes record then logs.append layer.file record.id else logs

end Logs

/-- What a start installed: the filter in force, and the layers of the directory below a root. -/
structure Route where
  filter : Filter
  root : String
  layers : List Layer

/-- The log of a process: what was installed, which records are on the console, and the log
directories by their roots. -/
structure Router where
  route : Option Route
  console : List Nat
  logs : String → Logs

inductive ApplyError
  | notStarted
  deriving DecidableEq, Repr

def ApplyError.message : ApplyError → String
  | .notStarted => "logging not initialized"

namespace Router

/-- A process that has not started to log, with no log directories. -/
def fresh : Router := ⟨none, [], fun _ => ⟨.empty, []⟩⟩

def onLogs (r : Router) (root : String) (change : Logs → Logs) : Router :=
  { r with logs := fun other => if other = root then change (r.logs root) else r.logs other }

/-- The files below a root, the working directory unless it is named. -/
def files (r : Router) (root : String := "") : List (String × List Nat) :=
  (r.logs root).files

def emit (r : Router) (record : Record) : Router :=
  match r.route with
  | none => r
  | some route =>
    if route.filter record then
      { r with console := r.console ++ [record.id] }.onLogs route.root fun logs =>
        route.layers.foldl (Logs.offer record) logs
    else r

/-- Something that is not a directory takes the place of a log directory. -/
def block (r : Router) (root : String := "") : Router :=
  r.onLogs root fun logs => if logs.place = .empty then { logs with place := .taken } else logs

/-- Starts to log for a component. Without a directory there are no files, of which a warning
tells. -/
def start (reader : FilterReader) (r : Router) (component : String) (s : Settings)
    (warning : Record) (root : String := "") : Router :=
  if (r.logs root).place = .taken then
    { r with route := r.route.or (some ⟨s.filter reader, root, []⟩) }.emit warning
  else
    let layers := Layer.all component
    { r with route := r.route.or (some ⟨s.filter reader, root, layers⟩) }.onLogs root
      (.prepare layers)

def apply (reader : FilterReader) (r : Router) (s : Settings) : Except ApplyError Router :=
  match r.route with
  | none => .error .notStarted
  | some route => .ok { r with route := some { route with filter := s.filter reader } }

end Router

end Hotspot.Log
