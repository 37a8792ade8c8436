import Hotspot.Log.Settings
import Hotspot.Proofs.Json.Record

/-!
The file of the log settings. Its text stands for the settings it was written for, whatever
characters their filter has and up to the largest number of days. What was saved is loaded again,
without a draft left beside the file. Where saving fails, the file is what it was.
-/

set_option autoImplicit false
set_option relaxedAutoImplicit false

namespace Hotspot.Log

namespace Settings

private theorem plain_members (s : Settings) :
    ∀ m ∈ s.members, m.1 ∈ keys ∧ Json.Reader.Plain m.2 := by
  intro m hm
  simp only [members, List.mem_cons, List.not_mem_nil, or_false] at hm
  rcases hm with rfl | rfl | rfl
  · exact ⟨List.mem_cons_self, .bool s.enabled⟩
  · exact ⟨.tail _ List.mem_cons_self, .text s.level⟩
  · exact ⟨.tail _ (.tail _ List.mem_cons_self), .natural s.keepDays.toNat⟩

private theorem count?_toNat (n : UInt64) : count? (.integer n.toNat) = some n := by
  have hsize : (n.toNat : Int) < UInt64.size := Int.ofNat_lt.mpr n.toNat_lt_size
  have hfits : (decide (0 ≤ (n.toNat : Int)) && decide ((n.toNat : Int) < UInt64.size)) = true := by
    rw [decide_eq_true (Int.natCast_nonneg _), decide_eq_true hsize, Bool.and_self]
  rw [count?, if_pos hfits, Int.toNat_natCast, UInt64.ofNat_toNat]

private theorem ofJson?_members (s : Settings) : ofJson? (.object s.members) = some s := by
  have henabled : field? s.members "enabled" true bool? = some s.enabled := rfl
  have hlevel : field? s.members "level" "info" text? = some s.level := rfl
  have hdays : field? s.members "keep_days" 14 count? = some s.keepDays := count?_toNat s.keepDays
  simp only [ofJson?, henabled, hlevel, hdays, Option.pure_def, Option.bind_eq_bind,
    Option.bind_some]

private theorem ofText_render (s : Settings) : ofText s.render = s := by
  have hread : Json.readWanted? keys s.render = some (.object s.members) :=
    Json.Reader.readWanted?_renderRecord (List.cons_ne_nil _ _) s.plain_members
  rw [ofText, hread, Option.bind_some, ofJson?_members, Option.getD_some]

end Settings

namespace Folder

variable {f : Folder} {s : Settings} {fault : Option Fault} {e : Fault}

private theorem save_eq_ok (h : (f.save s fault).2 = .ok ()) :
    (f.save s fault).1 = ⟨.holding s.render, .missing⟩ := by
  cases fault with
  | none => rfl
  | some fault => cases h

/-- Where saving fails, the file is what it was. -/
theorem save_eq_error (h : (f.save s fault).2 = .error e) : (f.save s fault).1.file = f.file := by
  cases fault with
  | none => cases h
  | some fault => rfl

private theorem load_of_ne_missing (h : f.file ≠ .missing) (fault : Option Fault) :
    f.load fault = (f.file.read.1, f) := by
  obtain ⟨file, draft⟩ := f
  cases file with
  | missing => exact absurd rfl h
  | unreadable => rfl
  | holding contents => rfl

/-- What was saved is loaded again. The file stays as it is, and no draft is left beside it. -/
theorem load_save (f : Folder) (s : Settings) (fault later : Option Fault)
    (h : (f.save s fault).2 = .ok ()) :
    (f.save s fault).1.load later = (s, (f.save s fault).1) ∧
      (f.save s fault).1.draft = .missing := by
  have hsaved : (f.save s fault).1 = ⟨.holding s.render, .missing⟩ := save_eq_ok h
  have hpresent : (f.save s fault).1.file ≠ .missing := by
    rw [hsaved]
    exact File.noConfusion
  have hread : (f.save s fault).1.file.read.1 = s := by
    rw [hsaved]
    simp only [File.read, Settings.ofText_render]
  refine ⟨?_, by rw [hsaved]⟩
  rw [load_of_ne_missing hpresent, hread]

end Folder

namespace Awkward

/-- A filter with quotes, a backslash and control characters, kept for as many days as there can
be. -/
def settings : Settings :=
  { enabled := false, level := "\"\\\n\x00\x1f/é𝄞", keepDays := 0xFFFFFFFFFFFFFFFF }

def folder : Folder := ⟨.holding "[true, ", .holding "\""⟩

theorem load_save_settings :
    (folder.save settings none).2 = .ok () ∧
      (folder.save settings none).1.load (some .renaming) =
        (settings, (folder.save settings none).1) ∧
      (folder.save settings none).1.draft = .missing :=
  ⟨rfl, Folder.load_save folder settings none (some .renaming) rfl⟩

end Awkward

end Hotspot.Log
