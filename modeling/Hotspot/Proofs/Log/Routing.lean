import Hotspot.Proofs.Log.Layers

/-!
Where the records of a process go, over any order of its steps. Before it starts to log nothing is
recorded, and no filter can be replaced. Of the starts only the first one counts: the records that
pass the filter in force are shown on the console, and each is added to one of the files of the
first start. Main statement: what a whole run adds to the console and to each file.
-/

set_option autoImplicit false
set_option relaxedAutoImplicit false

namespace Hotspot.Log

/-- A step of a process, or something that takes the place of a log directory. -/
inductive Step
  | start (root component : String) (s : Settings) (warning : Record)
  | apply (s : Settings)
  | emit (record : Record)
  | block (root : String)
  deriving DecidableEq, Repr

namespace Step

def isStart : Step → Bool
  | .start .. => true
  | _ => false

/-- The records that a step logs. A start logs its warning if there is no directory. -/
def records (r : Router) : Step → List Record
  | .start root _ _ warning => if (r.logs root).place = .taken then [warning] else []
  | .emit record => [record]
  | _ => []

def filter (reader : FilterReader) (f : Filter) : Step → Filter
  | .apply s => s.filter reader
  | _ => f

end Step

namespace Router

/-- What a step makes of the log, and what it answers. -/
def step (reader : FilterReader) (r : Router) : Step → Router × Except ApplyError Unit
  | .start root component s warning => (r.start reader component s warning root, .ok ())
  | .apply s =>
    match r.apply reader s with
    | .ok r => (r, .ok ())
    | .error e => (r, .error e)
  | .emit record => (r.emit record, .ok ())
  | .block root => (r.block root, .ok ())

def run (reader : FilterReader) (r : Router) : List Step → Router
  | [] => r
  | step :: rest => (r.step reader step).1.run reader rest

/-- The records that pass, each by the filter in force when it is logged. -/
def passed (reader : FilterReader) (r : Router) (f : Filter) : List Step → List Record
  | [] => []
  | step :: rest =>
    (step.records r).filter f ++ (r.step reader step).1.passed reader (step.filter reader f) rest

def contents (r : Router) (root file : String) : List Nat :=
  (r.logs root).contents file

/-- Records are delivered: they are added to the console, and each to the file below the root that
its target belongs to. All other files are what they were. -/
structure Delivered (root component : String) (records : List Record) (r r' : Router) : Prop where
  console : r'.console = r.console ++ records.map (·.id)
  file : ∀ file, r'.contents root file = r.contents root file ++
    (records.filter (fun record => home component record.target = file)).map (·.id)
  elsewhere : ∀ other ≠ root, ∀ file, r'.contents other file = r.contents other file

section Delivering

variable {r r' r'' : Router} {root component : String} {records records' : List Record}
  {change : Logs → Logs}

private theorem onLogs_self (r : Router) (root : String) (change : Logs → Logs) :
    (r.onLogs root change).logs root = change (r.logs root) :=
  if_pos rfl

private theorem onLogs_of_ne {other : String} (h : other ≠ root) (r : Router)
    (change : Logs → Logs) : (r.onLogs root change).logs other = r.logs other :=
  if_neg h

def Still (r r' : Router) : Prop :=
  r'.console = r.console ∧ ∀ root file, r'.contents root file = r.contents root file

private theorem Still.refl (r : Router) : Still r r := ⟨rfl, fun _ _ => rfl⟩

private theorem Still.trans (h : Still r r') (h' : Still r' r'') : Still r r'' :=
  ⟨h'.1.trans h.1, fun root file => (h'.2 root file).trans (h.2 root file)⟩

private theorem Still.delivered (h : Still r r') : Delivered root component [] r r' :=
  ⟨h.1.trans (List.append_nil _).symm, fun file => (h.2 root file).trans (List.append_nil _).symm,
    fun other _ file => h.2 other file⟩

private theorem Delivered.trans (h : Delivered root component records r r')
    (h' : Delivered root component records' r' r'') :
    Delivered root component (records ++ records') r r'' := by
  refine ⟨?_, fun file => ?_, fun other hother file => ?_⟩
  · rw [h'.console, h.console, List.map_append, List.append_assoc]
  · rw [h'.file, h.file, List.filter_append, List.map_append, List.append_assoc]
  · rw [h'.elsewhere other hother, h.elsewhere other hother]

private theorem still_onLogs
    (h : ∀ file, (change (r.logs root)).contents file = (r.logs root).contents file) :
    Still r (r.onLogs root change) := by
  refine ⟨rfl, fun other file => ?_⟩
  unfold contents
  by_cases hother : other = root
  · rw [hother, onLogs_self, h]
  · rw [onLogs_of_ne hother]

private theorem still_prepare (r : Router) (root : String) (layers : List Layer) :
    Still r (r.onLogs root (.prepare layers)) :=
  still_onLogs fun file => Logs.contents_prepare layers _ file

private theorem still_block (r : Router) (root : String) : Still r (r.block root) := by
  refine still_onLogs fun file => ?_
  split <;> rfl

end Delivering

section Cases

variable {reader : FilterReader} {r : Router} {route : Route} {record : Record}

private theorem emit_of_admits (h : r.route = some route)
    (hadmits : route.filter record = true) :
    r.emit record = { r with console := r.console ++ [record.id] }.onLogs route.root fun logs =>
      route.layers.foldl (Logs.offer record) logs := by
  rw [emit, h]
  exact if_pos hadmits

private theorem emit_of_not_admits (h : r.route = some route)
    (hadmits : ¬ route.filter record = true) :
    r.emit record = r := by
  rw [emit, h]
  exact if_neg hadmits

private theorem start_first (h : r.route = none) {root : String}
    (hplace : (r.logs root).place ≠ .taken) (component : String) (s : Settings) (warning : Record) :
    r.start reader component s warning root =
      { r with route := some ⟨s.filter reader, root, Layer.all component⟩ }.onLogs root
        (.prepare (Layer.all component)) := by
  obtain ⟨_, console, logs⟩ := r
  cases h
  exact if_neg hplace

private theorem start_again (h : r.route = some route) (component : String) (s : Settings)
    (warning : Record) (root : String) :
    r.start reader component s warning root =
      if (r.logs root).place = .taken then r.emit warning
      else r.onLogs root (.prepare (Layer.all component)) := by
  obtain ⟨_, console, logs⟩ := r
  cases h
  rfl

end Cases

section Idle

variable {reader : FilterReader} {r : Router} {step : Step} {steps : List Step}

private theorem apply_idle (h : r.route = none) (s : Settings) :
    r.apply reader s = .error .notStarted := by
  rw [apply, h]

private theorem step_idle (h : r.route = none) (hstep : step.isStart = false) :
    (r.step reader step).1.route = none ∧ Still r (r.step reader step).1 := by
  cases step with
  | start => cases hstep
  | apply s =>
    rw [Router.step, apply_idle h]
    exact ⟨h, .refl r⟩
  | emit record =>
    rw [Router.step, emit, h]
    exact ⟨h, .refl r⟩
  | block root => exact ⟨h, still_block r root⟩

private theorem run_idle (h : r.route = none) (hsteps : ∀ step ∈ steps, step.isStart = false) :
    (r.run reader steps).route = none ∧ Still r (r.run reader steps) := by
  induction steps generalizing r with
  | nil => exact ⟨h, .refl r⟩
  | cons step steps ih =>
    obtain ⟨hstep, hsteps⟩ := List.forall_mem_cons.mp hsteps
    obtain ⟨hroute, hstill⟩ := step_idle h hstep
    obtain ⟨hroute', hstill'⟩ := ih hroute hsteps
    exact ⟨hroute', hstill.trans hstill'⟩

end Idle

/-- The first start of the process installed the layers of its component and their files, and this
filter is in force. -/
structure Installed (root component : String) (f : Filter) (r : Router) : Prop where
  route : r.route = some ⟨f, root, Layer.all component⟩
  holds : ∀ layer ∈ Layer.all component, (r.logs root).Holds layer.file

section Installed

variable {reader : FilterReader} {r : Router} {root component : String} {f : Filter} {step : Step}
  {steps : List Step}

private theorem Installed.onLogs (h : Installed root component f r) {other : String}
    {change : Logs → Logs}
    (hholds : ∀ file, (r.logs other).Holds file → (change (r.logs other)).Holds file) :
    Installed root component f (r.onLogs other change) := by
  refine ⟨h.route, fun layer hlayer => ?_⟩
  by_cases hother : root = other
  · subst hother
    rw [onLogs_self]
    exact hholds _ (h.holds layer hlayer)
  · rw [onLogs_of_ne hother]
    exact h.holds layer hlayer

private theorem emit_installed (h : Installed root component f r)
    (hname : component ∉ subsystems.map (·.1)) (record : Record) :
    Installed root component f (r.emit record) ∧
      Delivered root component
        ([record].filter f) r
        (r.emit record) := by
  rw [List.filter_cons, List.filter_nil]
  by_cases hadmits : f record = true
  · rw [emit_of_admits h.route hadmits, if_pos hadmits]
    have hshown : Installed root component f { r with console := r.console ++ [record.id] } :=
      ⟨h.route, h.holds⟩
    refine ⟨hshown.onLogs fun file hfile => hfile.foldl_offer record _, rfl, fun file => ?_,
      fun other hother file => ?_⟩
    · unfold contents
      rw [onLogs_self, Logs.contents_offer_all hname h.holds, List.filter_cons, List.filter_nil]
      by_cases hhome : home component record.target = file
      · rw [if_pos hhome, if_pos (decide_eq_true hhome)]
        rfl
      · rw [if_neg hhome, if_neg (by rwa [decide_eq_true_eq])]
        rfl
    · unfold contents
      rw [onLogs_of_ne hother]
  · rw [emit_of_not_admits h.route hadmits, if_neg hadmits]
    exact ⟨h, (Still.refl r).delivered⟩

/-- One step keeps the installation, replaces the filter only by applying another, and delivers what
passes. -/
private theorem step_installed (h : Installed root component f r)
    (hname : component ∉ subsystems.map (·.1)) (step : Step) :
    Installed root component (step.filter reader f) (r.step reader step).1 ∧
      Delivered root component
        ((step.records r).filter f) r
        (r.step reader step).1 := by
  cases step with
  | start other component' s warning =>
    rw [Router.step, Step.records, start_again h.route]
    split
    · exact emit_installed h hname warning
    · exact ⟨h.onLogs fun file hfile => hfile.prepare _, (still_prepare r other _).delivered⟩
  | apply s =>
    have happly : r.apply reader s =
      .ok { r with route := some ⟨s.filter reader, root, Layer.all component⟩ } := by
      rw [apply, h.route]
    rw [Router.step, happly]
    exact ⟨⟨rfl, h.holds⟩, Still.delivered ⟨rfl, fun _ _ => rfl⟩⟩
  | emit record => exact emit_installed h hname record
  | block other =>
    refine ⟨h.onLogs fun file hfile => ?_, (still_block r other).delivered⟩
    split <;> exact hfile

private theorem run_installed (reader : FilterReader) (h : Installed root component f r)
    (hname : component ∉ subsystems.map (·.1)) (steps : List Step) :
    Delivered root component (r.passed reader f steps) r (r.run reader steps) := by
  induction steps generalizing r f with
  | nil => exact (Still.refl r).delivered
  | cons step steps ih =>
    obtain ⟨hinstalled, hdelivered⟩ := step_installed h hname step
    exact hdelivered.trans (ih hinstalled)

private theorem start_installs (reader : FilterReader) (h : r.route = none)
    (hplace : (r.logs root).place ≠ .taken) (s : Settings) (warning : Record) :
    Installed root component (s.filter reader) (r.start reader component s warning root) ∧
      Still r (r.start reader component s warning root) := by
  rw [start_first h hplace component s warning]
  refine ⟨⟨rfl, fun layer hlayer => ?_⟩, still_prepare _ root _⟩
  rw [onLogs_self]
  exact Logs.holds_prepare hlayer _

end Installed

private theorem run_append (reader : FilterReader) (r : Router) (steps others : List Step) :
    r.run reader (steps ++ others) = (r.run reader steps).run reader others := by
  induction steps generalizing r with
  | nil => rfl
  | cons step steps ih => exact ih (r.step reader step).1

/-- Until the first start a filter cannot be replaced, and trying to changes nothing. If the first
start can create its directory and its component is no subsystem, the run delivers the records that
pass: those logged after it that the filter in force admits, which is that of the first start until
settings are applied. Each target has one home among the five files. -/
theorem run_first_start (reader : FilterReader) (r : Router) (hidle : r.route = none)
    (before : List Step) (hbefore : ∀ step ∈ before, step.isStart = false) :
    (∀ s, (r.run reader before).step reader (.apply s) = (r.run reader before, .error .notStarted))
      ∧ ∀ (root component : String) (s : Settings) (warning : Record) (after : List Step),
        ((r.run reader before).logs root).place ≠ .taken → component ∉ subsystems.map (·.1) →
          Delivered root component
            ((r.run reader (before ++ [.start root component s warning])).passed reader
              (s.filter reader) after) r
            (r.run reader (before ++ .start root component s warning :: after)) ∧
          ((Layer.all component).map (·.file)).Nodup ∧
          ∀ target, home component target ∈ (Layer.all component).map (·.file) ∧
            ∀ file, IsHome component target file ↔ file = home component target := by
  obtain ⟨hroute, hstill⟩ := run_idle hidle hbefore
  refine ⟨fun s => ?_, fun root component s warning after hplace hname => ?_⟩
  · rw [Router.step, apply_idle hroute]
  · -- Nothing is added up to the first start, so what is delivered counts from the beginning.
    obtain ⟨hinstalled, hstarted⟩ := start_installs reader hroute hplace s warning
    have hdelivered := run_installed reader hinstalled hname after
    refine ⟨?_, nodup_files hname, fun target => ⟨home_mem component target, fun _ => isHome_iff⟩⟩
    rw [run_append, run_append]
    exact (hstill.trans hstarted).delivered.trans hdelivered

end Router

namespace TwoStarts

def settings : Settings := { level := "info,dfs=debug" }

def warning : Record := ⟨"sirius_logging::init", .warn, 0⟩

def levels : String → Targets
  | "info,dfs=debug" => [.general (some .info), ⟨"dfs", some .debug⟩]
  | "info" => [.general (some .info)]
  | "warn" => [.general (some .warn)]
  | _ => [.general none]

def reader : FilterReader where
  read? text := some fun record => (levels text).admits record.target record.severity
  readAny text := fun record => (levels text).admits record.target record.severity

/-- A filter is applied and a record is logged too early, and a directory is taken. -/
def before : List Step :=
  [.apply {}, .emit ⟨"sap", .error, 1⟩, .block "elsewhere"]

/-- A second start has no directory, and filters are applied between records. -/
def after : List Step :=
  [.emit ⟨"dfs::nol", .debug, 2⟩, .emit ⟨"sapling", .info, 3⟩, .emit ⟨"hostapd", .debug, 4⟩,
    .start "elsewhere" "csr" { enabled := false } warning, .apply { level := "warn" },
    .emit ⟨"acs", .info, 5⟩, .emit ⟨"dfs", .error, 6⟩, .apply { enabled := false },
    .emit ⟨"hostapd", .error, 7⟩]

theorem run_first_start_delivered :
    Router.Delivered "" "hotspot"
      [⟨"dfs::nol", .debug, 2⟩, ⟨"sapling", .info, 3⟩, warning, ⟨"dfs", .error, 6⟩] .fresh
      (Router.fresh.run reader (before ++ .start "" "hotspot" settings warning :: after)) := by
  have hbefore : ∀ step ∈ before, step.isStart = false := by decide
  have hplace : ((Router.fresh.run reader before).logs "").place ≠ .taken := by decide
  have hname : "hotspot" ∉ subsystems.map (·.1) := by decide
  have hpassed :
      (Router.fresh.run reader (before ++ [.start "" "hotspot" settings warning])).passed reader
        (settings.filter reader) after =
          [⟨"dfs::nol", .debug, 2⟩, ⟨"sapling", .info, 3⟩, warning, ⟨"dfs", .error, 6⟩] := by
    decide +kernel
  rw [← hpassed]
  exact ((Router.run_first_start reader .fresh rfl before hbefore).2 "" "hotspot" settings warning
    after hplace hname).1

end TwoStarts

end Hotspot.Log
