import Hotspot.Element.Basic
import Hotspot.Element.Field

/-!
Fields are read back from what is written for them. A reader reads a value from some octets if it
takes exactly them, whatever follows; fields that are written one after the other are then read one
after the other.
-/

set_option autoImplicit false
set_option relaxedAutoImplicit false

namespace Hotspot.Element.Field

section Reads

variable {α β : Type} {read : Reader α} {a : α} {written rest : List UInt8}

/-- The reader takes the octets for the value and leaves what follows them. -/
def Reads (read : Reader α) (a : α) (written : List UInt8) : Prop :=
  ∀ rest, read (written ++ rest) = .ok (a, rest)

theorem Reads.bind (h : Reads read a written) (next : α × List UInt8 → Except ElementFault β) :
    (read (written ++ rest) >>= next) = next (a, rest) := by
  rw [h rest]
  rfl

theorem Reads.bind_last (h : Reads read a written)
    (next : α × List UInt8 → Except ElementFault β) :
    (read written >>= next) = next (a, []) := by
  have hlast := h []
  rw [List.append_nil] at hlast
  rw [hlast]
  rfl

theorem Reads.orDefault (h : Reads read a written) (hne : written ≠ []) (default : α) :
    Reads (orDefault default read) a written := by
  intro rest
  obtain ⟨first, others, rfl⟩ := List.exists_cons_of_ne_nil hne
  exact h rest

theorem Reads.ifPresent (h : Reads read a written) {size : Nat} (hsize : size ≤ written.length) :
    Reads (ifPresent size read) (some a) written := by
  intro rest
  have hlength : size ≤ (written ++ rest).length := by
    rw [List.length_append]
    omega
  unfold Field.ifPresent
  rw [if_pos hlength, h.bind]
  rfl

theorem Reads.times {write : α → List UInt8} (h : ∀ a, Reads read a (write a)) (values : List α) :
    Reads (times read values.length) values (values.flatMap write) := by
  induction values with
  | nil => exact fun _ => rfl
  | cons value values ih =>
    intro rest
    rw [List.flatMap_cons, List.append_assoc, List.length_cons]
    unfold Field.times
    rw [(h value).bind]
    dsimp only
    rw [ih.bind]
    rfl

end Reads

@[simp]
theorem length_encodeWord (w : UInt16) : (encodeWord w).length = 2 := rfl

@[simp]
theorem length_octets (s : Suite) : s.octets.length = 4 := rfl

theorem length_flatMap_octets (list : List Suite) :
    (list.flatMap Suite.octets).length = 4 * list.length := by
  induction list with
  | nil => rfl
  | cons s list ih =>
    rw [List.flatMap_cons, List.length_append, ih, length_octets, List.length_cons]
    omega

theorem reads_word (field : String) (w : UInt16) : Reads (word field) w (encodeWord w) := by
  have hjoin : w.toUInt8.toUInt16 + (w / 256).toUInt8.toUInt16 * 256 = w := by
    apply UInt16.toNat_inj.mp
    have hlt := w.toNat_lt
    simp only [UInt16.toUInt16_toUInt8, UInt16.toNat_add, UInt16.toNat_mul, UInt16.toNat_mod,
      UInt16.toNat_div, UInt16.reduceToNat, Nat.reducePow]
    omega
  intro rest
  show Except.ok (w.toUInt8.toUInt16 + (w / 256).toUInt8.toUInt16 * 256, rest) = _
  rw [hjoin]

theorem reads_suite (field : String) (s : Suite) : Reads (suite field) s s.octets :=
  fun _ => rfl

theorem reads_octets {n : Nat} (field : String) (b : { bytes : List UInt8 // bytes.length = n }) :
    Reads (octets n field) b b.val := by
  obtain ⟨bytes, rfl⟩ := b
  intro rest
  have hlength : bytes.length ≤ (bytes ++ rest).length := by
    rw [List.length_append]
    omega
  unfold octets
  rw [dif_pos hlength]
  simp only [List.take_left', List.drop_left']

theorem reads_suites (field : String) {list : List Suite} (hcount : list.length < UInt16.size) :
    Reads (suites field) list (encodeSuites list) := by
  have htoNat : (UInt16.ofNat list.length).toNat = list.length := UInt16.toNat_ofNat_of_lt' hcount
  intro rest
  unfold suites encodeSuites
  rw [List.append_assoc, (reads_word field _).bind]
  dsimp only
  rw [htoNat, if_neg (by rw [List.length_append, length_flatMap_octets]; omega)]
  exact Reads.times (reads_suite field) list rest

end Hotspot.Element.Field
