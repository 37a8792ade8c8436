import Hotspot.AccessPoint.Handling

/-!
Which sessions an operation puts on the air, read off its journal: those that are told to send, and
those that come to be on the air.
-/

set_option autoImplicit false
set_option relaxedAutoImplicit false

namespace Hotspot

def Entry.aired? : Entry → Option SessionId
  | .command id .startBeacon _ => some id
  | .moved id _ .started => some id
  | _ => none

def Journal.aired (j : Journal) : Journal :=
  j.filter (·.aired?.isSome)

def Journal.Airs (j : Journal) (id : SessionId) : Prop :=
  ∃ e ∈ j, e.aired? = some id

theorem Journal.mem_aired {j : Journal} {e : Entry} : e ∈ j.aired ↔ e ∈ j ∧ e.aired?.isSome := by
  simp [aired]

theorem Journal.airs_iff {j : Journal} {id : SessionId} :
    j.Airs id ↔ ∃ e ∈ j.aired, e.aired? = some id := by
  constructor
  · rintro ⟨e, he, hid⟩
    exact ⟨e, mem_aired.mpr ⟨he, by simp [hid]⟩, hid⟩
  · rintro ⟨e, he, hid⟩
    exact ⟨e, (mem_aired.mp he).1, hid⟩

namespace Turn

theorem aired_record (t : Turn) (e : Entry) :
    (t.record e).journal.aired = t.journal.aired ++ if e.aired?.isSome then [e] else [] := by
  cases h : e.aired? <;> simp [record, Journal.aired, h]

@[simp] theorem aired_notify (t : Turn) (id : SessionId) (n : Notice) :
    (t.notify id n).journal.aired = t.journal.aired := by
  simp [notify, aired_record, Entry.aired?]

@[simp] theorem aired_enqueue (t : Turn) (id : SessionId) (e : Event) :
    (t.enqueue id e).journal.aired = t.journal.aired := rfl

@[simp] theorem aired_modify (t : Turn) (id : SessionId) (f : Session → Session) :
    (t.modify id f).journal.aired = t.journal.aired := rfl

@[simp] theorem aired_share (t : Turn) (f : Airspace → Airspace) :
    (t.share f).journal.aired = t.journal.aired := rfl

theorem aired_command (env : Surroundings) (t : Turn) (id : SessionId) {c : Command}
    (hc : c ≠ .startBeacon) : (t.command env id c).2.journal.aired = t.journal.aired := by
  cases c <;> simp_all [command, aired_record, Entry.aired?]

theorem aired_enter (t : Turn) (id : SessionId) {p : Phase} (hp : p ≠ .started) :
    (t.enter id p).journal.aired = t.journal.aired := by
  unfold enter
  split
  · rfl
  · split
    · rfl
    · cases p <;> simp_all [aired_record, Entry.aired?, modify]

theorem aired_enter_started (t : Turn) (id : SessionId) :
    ∃ more, (t.enter id .started).journal.aired = t.journal.aired ++ more ∧
      ∀ e ∈ more, ∃ before, e = .moved id before .started := by
  unfold enter
  split
  · exact ⟨[], by simp, by simp⟩
  · rename_i before _
    split
    · exact ⟨[], by simp, by simp⟩
    · exact ⟨[.moved id before .started], aired_record _ _, by simp⟩

end Turn

end Hotspot
