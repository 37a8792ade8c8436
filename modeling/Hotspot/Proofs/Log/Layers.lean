import Hotspot.Log.Router

/-!
Which layer takes a record. The layers of the subsystems and that of the component are set up apart
from each other, and yet each target belongs to just one of their files. Main statement: a record
that is offered to all layers is added to that file and to no other.
-/

set_option autoImplicit false
set_option relaxedAutoImplicit false

namespace Hotspot.Log

namespace Targets

variable {ts : Targets} {d : Directive} {target : String}

private theorem concerns_iff : d.concerns target = true ↔ d.target.toList <+: target.toList :=
  List.isPrefixOf_iff_prefix

private theorem concerns_general (threshold : Threshold) (target : String) :
    (Directive.general threshold).concerns target = true :=
  concerns_iff.mpr List.nil_prefix

private theorem trace_admits (s : Severity) : Threshold.admits (some .trace) s = true := by
  cases s <;> rfl

private theorem prefer_of_le {b : Directive} (h : b.target.length ≤ d.target.length) :
    prefer (some b) d = some d :=
  if_pos h

private theorem prefer_of_not_le {b : Directive} (h : ¬ b.target.length ≤ d.target.length) :
    prefer (some b) d = some b :=
  if_neg h

private theorem foldl_prefer_closed (hts : ∀ d ∈ ts, d.threshold = none) (hd : d.threshold = none) :
    ∃ b, ts.foldl prefer (some d) = some b ∧ b.threshold = none := by
  induction ts generalizing d with
  | nil => exact ⟨d, rfl, hd⟩
  | cons d' ts ih =>
    obtain ⟨hd', hts⟩ := List.forall_mem_cons.mp hts
    rw [List.foldl_cons]
    by_cases hle : d.target.length ≤ d'.target.length
    · rw [prefer_of_le hle]
      exact ih hts hd'
    · rw [prefer_of_not_le hle]
      exact ih hts hd

private theorem admits_singleton {owner : String} {s : Severity} :
    Targets.admits [⟨owner, some .trace⟩] target s = true ↔ owner.toList <+: target.toList := by
  have hconcerns : (Directive.mk owner (some .trace)).concerns target = true ↔
      owner.toList <+: target.toList := concerns_iff
  rw [admits, choose, List.filter_cons, ← hconcerns]
  by_cases h : (Directive.mk owner (some .trace)).concerns target = true
  · rw [if_pos h]
    exact iff_of_true (trace_admits s) h
  · rw [if_neg h]
    exact iff_of_false Bool.false_ne_true h

private theorem admits_general_cons (hts : ∀ d ∈ ts, d.threshold = none) {s : Severity} :
    Targets.admits (.general (some .trace) :: ts) target s = true ↔
      ∀ d ∈ ts, ¬ d.target.toList <+: target.toList := by
  have hchoose : choose (.general (some .trace) :: ts) target =
      (ts.filter (·.concerns target)).foldl prefer (some (.general (some .trace))) := by
    rw [choose, List.filter_cons, if_pos (concerns_general _ _)]
    rfl
  rw [admits, hchoose]
  cases hconcern : ts.filter (·.concerns target) with
  | nil =>
    refine iff_of_true (trace_admits s) fun d hd hprefix => ?_
    have hmem : d ∈ ts.filter (·.concerns target) :=
      List.mem_filter.mpr ⟨hd, concerns_iff.mpr hprefix⟩
    rw [hconcern] at hmem
    cases hmem
  | cons d others =>
    have hclosed : ∀ d' ∈ d :: others, d'.threshold = none := by
      intro d' hd'
      rw [← hconcern] at hd'
      exact hts d' (List.mem_filter.mp hd').1
    have hmem : d ∈ ts.filter (·.concerns target) := by
      rw [hconcern]
      exact List.mem_cons_self
    obtain ⟨hd, hothers⟩ := List.forall_mem_cons.mp hclosed
    obtain ⟨b, hb, hbclosed⟩ := foldl_prefer_closed hothers hd
    -- The general item has the shortest target there is, so the first closed one replaces it.
    have hbetter : prefer (some (.general (some .trace))) d = some d :=
      prefer_of_le (Nat.zero_le d.target.length)
    rw [List.foldl_cons, hbetter, hb]
    refine iff_of_false ?_ fun hnone => ?_
    · rw [Option.any_some, hbclosed]
      exact Bool.false_ne_true
    · exact hnone d (List.mem_filter.mp hmem).1 (concerns_iff.mp (List.mem_filter.mp hmem).2)

end Targets

/-- The file that a target belongs to: that of the subsystem whose own target it begins with, or
that of the component if it begins with none. -/
inductive IsHome (name target : String) : String → Prop
  | subsystem {owner : String × String} (known : owner ∈ subsystems)
      (begins : owner.1.toList <+: target.toList) : IsHome name target owner.2
  | component (free : ∀ owner ∈ subsystems, ¬ owner.1.toList <+: target.toList) :
      IsHome name target (Layer.component name).file

def home (name target : String) : String :=
  ((subsystems.find? fun owner => owner.1.toList.isPrefixOf target.toList).map (·.2)).getD
    (Layer.component name).file

section Homes

variable {name target file : String} {record : Record}

private theorem owner_unique {o o' : String × String} (ho : o ∈ subsystems) (ho' : o' ∈ subsystems)
    (h : o.1.toList <+: target.toList) (h' : o'.1.toList <+: target.toList) : o = o' := by
  have hlength : ∀ o ∈ subsystems, o.1.toList.length = 3 := by decide
  have hdistinct : ∀ o ∈ subsystems, ∀ o' ∈ subsystems, o.1 = o'.1 → o = o' := by decide
  have hprefix : o.1.toList <+: o'.1.toList :=
    List.prefix_of_prefix_length_le h h' (Nat.le_of_eq ((hlength o ho).trans (hlength o' ho').symm))
  have heq : o.1.toList = o'.1.toList :=
    hprefix.eq_of_length ((hlength o ho).trans (hlength o' ho').symm)
  exact hdistinct o ho o' ho' (String.toList_inj.mp heq)

theorem isHome_iff : IsHome name target file ↔ file = home name target := by
  unfold home
  cases hfind : subsystems.find? fun owner => owner.1.toList.isPrefixOf target.toList with
  | none =>
    have hfree : ∀ owner ∈ subsystems, ¬ owner.1.toList <+: target.toList := by
      intro owner hmem hprefix
      exact List.find?_eq_none.mp hfind owner hmem (List.isPrefixOf_iff_prefix.mpr hprefix)
    constructor
    · rintro (⟨hmem, hprefix⟩ | -)
      · exact absurd hprefix (hfree _ hmem)
      · rfl
    · rintro rfl
      exact .component hfree
  | some owner =>
    have hmem : owner ∈ subsystems := List.mem_of_find?_eq_some hfind
    have hfound := List.find?_some hfind
    have hprefix : owner.1.toList <+: target.toList := List.isPrefixOf_iff_prefix.mp hfound
    constructor
    · rintro (⟨hmem', hprefix'⟩ | hfree)
      · rw [owner_unique hmem' hmem hprefix' hprefix]
        rfl
      · exact absurd hprefix (hfree owner hmem)
    · rintro rfl
      exact .subsystem hmem hprefix

private theorem takes_subsystem_iff {owner : String} :
    (Layer.subsystem owner).takes record = true ↔ owner.toList <+: record.target.toList :=
  Targets.admits_singleton

private theorem takes_component_iff : (Layer.component name).takes record = true ↔
    ∀ owner ∈ subsystems, ¬ owner.1.toList <+: record.target.toList := by
  have hclosed : ∀ d ∈ subsystems.map fun owner => (⟨owner.1, none⟩ : Directive),
      d.threshold = none := by
    intro d hd
    obtain ⟨owner, -, rfl⟩ := List.mem_map.mp hd
    rfl
  unfold Layer.takes Layer.component
  rw [Targets.admits_general_cons hclosed, List.forall_mem_map]

private theorem isHome_iff_takes : IsHome name record.target file ↔
    ∃ layer ∈ Layer.all name, layer.file = file ∧ layer.takes record = true := by
  have hfile : ∀ owner ∈ subsystems, Layer.fileOf owner.1 = owner.2 := by decide
  constructor
  · rintro (⟨hmem, hprefix⟩ | hfree)
    · exact ⟨_, .tail _ (List.mem_map.mpr ⟨_, hmem, rfl⟩), hfile _ hmem,
        takes_subsystem_iff.mpr hprefix⟩
    · exact ⟨_, List.mem_cons_self, rfl, takes_component_iff.mpr hfree⟩
  · rintro ⟨layer, hlayer, rfl, htakes⟩
    rcases List.mem_cons.mp hlayer with rfl | hlayer
    · exact .component (takes_component_iff.mp htakes)
    · obtain ⟨owner, hmem, rfl⟩ := List.mem_map.mp hlayer
      show IsHome name record.target (Layer.fileOf owner.1)
      rw [hfile owner hmem]
      exact .subsystem hmem (takes_subsystem_iff.mp htakes)

theorem home_mem (name target : String) : home name target ∈ (Layer.all name).map (·.file) := by
  have hhome : IsHome name (Record.mk target .info 0).target (home name target) :=
    isHome_iff.mpr rfl
  obtain ⟨layer, hlayer, hfile, -⟩ := isHome_iff_takes.mp hhome
  exact List.mem_map.mpr ⟨layer, hlayer, hfile⟩

theorem nodup_files (h : name ∉ subsystems.map (·.1)) :
    ((Layer.all name).map (·.file)).Nodup := by
  have hrest : ((subsystems.map fun owner => Layer.subsystem owner.1).map (·.file)).Nodup := by
    decide
  have hnames : (subsystems.map fun owner => Layer.subsystem owner.1).map (·.file) =
      (subsystems.map (·.1)).map (· ++ ".log") := by decide
  refine List.nodup_cons.mpr ⟨?_, hrest⟩
  rw [hnames]
  intro hmem
  obtain ⟨owner, howner, heq⟩ := List.mem_map.mp hmem
  exact h ((String.append_left_inj ".log").mp heq ▸ howner)

end Homes

namespace Logs

variable {logs : Logs} {name other : String} {record : Record} {layers : List Layer}

def contents (logs : Logs) (name : String) : List Nat :=
  ((logs.files.find? (·.1 == name)).map (·.2)).getD []

def Holds (logs : Logs) (name : String) : Prop :=
  ∃ file ∈ logs.files, file.1 = name

private theorem find?_append (files : List (String × List Nat)) (id : Nat) :
    (files.map fun f => if f.1 == name then (f.1, f.2 ++ [id]) else f).find? (·.1 == other) =
      (files.find? (·.1 == other)).map fun f => if f.1 == name then (f.1, f.2 ++ [id]) else f := by
  have hname : ((fun f : String × List Nat => f.1 == other) ∘ fun f =>
      if f.1 == name then (f.1, f.2 ++ [id]) else f) = fun f => f.1 == other := by
    funext f
    simp only [Function.comp_apply]
    split <;> rfl
  rw [List.find?_map, hname]

private theorem contents_append_self (h : logs.Holds name) (id : Nat) :
    (logs.append name id).contents name = logs.contents name ++ [id] := by
  unfold contents append
  rw [find?_append]
  cases hfind : logs.files.find? (·.1 == name) with
  | none =>
    obtain ⟨file, hmem, hfile⟩ := h
    exact absurd (beq_iff_eq.mpr hfile) (List.find?_eq_none.mp hfind file hmem)
  | some file =>
    have hfile := List.find?_some hfind
    rw [Option.map_some, Option.map_some, if_pos hfile]
    rfl

private theorem contents_append_of_ne (h : other ≠ name) (id : Nat) :
    (logs.append name id).contents other = logs.contents other := by
  unfold contents append
  rw [find?_append]
  cases hfind : logs.files.find? (·.1 == other) with
  | none => rfl
  | some file =>
    have hfound := List.find?_some hfind
    have hfile : ¬ (file.1 == name) = true := by
      rw [beq_iff_eq.mp hfound, beq_iff_eq]
      exact h
    rw [Option.map_some, Option.map_some, if_neg hfile]
    rfl

private theorem Holds.append (h : logs.Holds other) (name : String) (id : Nat) :
    (logs.append name id).Holds other := by
  obtain ⟨file, hmem, hfile⟩ := h
  refine ⟨_, List.mem_map.mpr ⟨file, hmem, rfl⟩, ?_⟩
  split <;> exact hfile

private theorem Holds.offer (h : logs.Holds other) (record : Record) (layer : Layer) :
    (offer record logs layer).Holds other := by
  unfold Logs.offer
  split
  · exact h.append layer.file record.id
  · exact h

theorem Holds.foldl_offer (h : logs.Holds other) (record : Record) (layers : List Layer) :
    (layers.foldl (Logs.offer record) logs).Holds other := by
  induction layers generalizing logs with
  | nil => exact h
  | cons layer layers ih => exact ih (h.offer record layer)

private theorem contents_offer_of_ne {layer : Layer}
    (h : layer.takes record = true → layer.file ≠ other) :
    (offer record logs layer).contents other = logs.contents other := by
  unfold offer
  split
  · rename_i htakes
    exact contents_append_of_ne (h htakes).symm record.id
  · rfl

private theorem contents_foldl_offer_of_ne
    (h : ∀ layer ∈ layers, layer.takes record = true → layer.file ≠ other) :
    (layers.foldl (offer record) logs).contents other = logs.contents other := by
  induction layers generalizing logs with
  | nil => rfl
  | cons layer layers ih =>
    obtain ⟨hlayer, hlayers⟩ := List.forall_mem_cons.mp h
    rw [List.foldl_cons, ih hlayers, contents_offer_of_ne hlayer]

private theorem contents_foldl_offer_of_mem {layer : Layer} (hnodup : (layers.map (·.file)).Nodup)
    (hmem : layer ∈ layers) (htakes : layer.takes record = true) (hholds : logs.Holds layer.file) :
    (layers.foldl (offer record) logs).contents layer.file =
      logs.contents layer.file ++ [record.id] := by
  -- By induction on the layers; the files are told apart by their names.
  induction layers generalizing logs with
  | nil => cases hmem
  | cons first layers ih =>
    rw [List.map_cons, List.nodup_cons] at hnodup
    obtain ⟨hfirst, hnodup⟩ := hnodup
    rw [List.foldl_cons]
    rcases List.mem_cons.mp hmem with rfl | hmem
    · -- No later layer writes to this file.
      have hothers : ∀ other ∈ layers, other.takes record = true → other.file ≠ layer.file := by
        intro other hother _ heq
        exact hfirst (heq ▸ List.mem_map_of_mem hother)
      rw [contents_foldl_offer_of_ne hothers, offer, if_pos htakes, contents_append_self hholds]
    · have hne : first.file ≠ layer.file := by
        intro heq
        exact hfirst (heq ▸ List.mem_map_of_mem hmem)
      rw [ih hnodup hmem (hholds.offer record first), contents_offer_of_ne fun _ => hne]

/-- A record that is offered to all layers is added to the file its target belongs to and to no
other. -/
theorem contents_offer_all {component : String} (hname : component ∉ subsystems.map (·.1))
    (hholds : ∀ layer ∈ Layer.all component, logs.Holds layer.file) (record : Record)
    (file : String) :
    ((Layer.all component).foldl (offer record) logs).contents file =
      logs.contents file ++ if home component record.target = file then [record.id] else [] := by
  by_cases hhome : home component record.target = file
  · rw [if_pos hhome]
    obtain ⟨layer, hlayer, rfl, htakes⟩ := isHome_iff_takes.mp (isHome_iff.mpr hhome.symm)
    exact contents_foldl_offer_of_mem (nodup_files hname) hlayer htakes (hholds layer hlayer)
  · rw [if_neg hhome, List.append_nil]
    refine contents_foldl_offer_of_ne fun layer hlayer htakes hfile => hhome ?_
    exact (isHome_iff.mp (isHome_iff_takes.mpr ⟨layer, hlayer, hfile, htakes⟩)).symm

private theorem contents_create (logs : Logs) (name other : String) :
    (logs.create name).contents other = logs.contents other := by
  unfold create
  split
  · rfl
  · rename_i hnone
    unfold contents
    rw [List.find?_append]
    cases hfind : logs.files.find? (·.1 == other) with
    | some file => rfl
    | none =>
      cases hother : name == other <;> simp only [Option.none_or, List.find?_cons, hother] <;> rfl

private theorem holds_create (logs : Logs) (name : String) : (logs.create name).Holds name := by
  unfold create
  split
  · rename_i hany
    obtain ⟨file, hmem, hfile⟩ := List.any_eq_true.mp hany
    exact ⟨file, hmem, beq_iff_eq.mp hfile⟩
  · exact ⟨_, List.mem_append_right _ List.mem_cons_self, rfl⟩

private theorem Holds.create (h : logs.Holds other) (name : String) :
    (logs.create name).Holds other := by
  obtain ⟨file, hmem, hfile⟩ := h
  unfold Logs.create
  split
  · exact ⟨file, hmem, hfile⟩
  · exact ⟨file, List.mem_append_left _ hmem, hfile⟩

private theorem contents_foldl_create (names : List String) (logs : Logs) (other : String) :
    (names.foldl create logs).contents other = logs.contents other := by
  induction names generalizing logs with
  | nil => rfl
  | cons name names ih => rw [List.foldl_cons, ih, contents_create]

private theorem Holds.foldl_create (h : logs.Holds other) (names : List String) :
    (names.foldl Logs.create logs).Holds other := by
  induction names generalizing logs with
  | nil => exact h
  | cons name names ih => exact ih (h.create name)

private theorem holds_foldl_create {names : List String} (h : name ∈ names) (logs : Logs) :
    (names.foldl create logs).Holds name := by
  induction names generalizing logs with
  | nil => cases h
  | cons first names ih =>
    rw [List.foldl_cons]
    rcases List.mem_cons.mp h with rfl | h
    · -- Files that are created later leave it there.
      exact (holds_create logs name).foldl_create names
    · exact ih h (logs.create first)

theorem contents_prepare (layers : List Layer) (logs : Logs) (name : String) :
    (logs.prepare layers).contents name = logs.contents name :=
  contents_foldl_create _ _ name

theorem Holds.prepare (h : logs.Holds name) (layers : List Layer) :
    (logs.prepare layers).Holds name := by
  have hopened : Holds { logs with place := .directory } name := h
  exact hopened.foldl_create _

theorem holds_prepare {layer : Layer} (h : layer ∈ layers) (logs : Logs) :
    (logs.prepare layers).Holds layer.file :=
  holds_foldl_create (List.mem_map_of_mem h) _

end Logs

end Hotspot.Log
