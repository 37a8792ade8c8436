import Hotspot.Element.Basic

/-!
Walking along a row of elements and writing one down undo each other. Main statement: a row that is
followed by part of one more element is walked back exactly; and whatever octets are walked, the
elements found are written in front of them, up to a place from which no element can be taken.
-/

set_option autoImplicit false
set_option relaxedAutoImplicit false

namespace Hotspot.Element

/-- Octets from which no element can be taken: too few for a header, or fewer than it announces. -/
inductive Stops : List UInt8 → Prop
  | short {octets : List UInt8} (hlength : octets.length < 2) : Stops octets
  | overrun {id len : UInt8} {rest : List UInt8} (hlength : rest.length < len.toNat) :
      Stops (id :: len :: rest)

/-- The length of the body fits into the octet that counts it. -/
def Fits (e : Element) : Prop :=
  e.body.length ≤ 255

instance (e : Element) : Decidable e.Fits :=
  inferInstanceAs (Decidable (e.body.length ≤ 255))

variable {e : Element} {row : List Element} {octets tail : List UInt8}

private theorem Fits.toNat_length (h : e.Fits) :
    (UInt8.ofNat e.body.length).toNat = e.body.length :=
  UInt8.toNat_ofNat_of_lt' (Nat.lt_succ_of_le h)

private theorem fits_of_mem_walk (h : e ∈ walk octets) : e.Fits := by
  fun_induction walk octets with
  | case1 id len rest hfits ih =>
    rcases List.mem_cons.mp h with rfl | hrest
    · show (rest.take len.toNat).length ≤ 255
      have hlt := len.toNat_lt
      rw [List.length_take]
      omega
    · exact ih hrest
  | case2 => cases h
  | case3 => cases h

private theorem walk_of_stops (h : Stops octets) : walk octets = [] := by
  cases h with
  | short hlength =>
    rw [walk]
    rintro id len rest rfl
    exact absurd hlength (Nat.not_lt_of_le (Nat.le_add_left 2 rest.length))
  | overrun hlength =>
    rw [walk, if_neg (Nat.not_le_of_lt hlength)]

private theorem walk_encode_append (h : e.Fits) (tail : List UInt8) :
    walk (e.encode ++ tail) = e :: walk tail := by
  have hroom : e.body.length ≤ (e.body ++ tail).length := by
    rw [List.length_append]
    omega
  show walk (e.id :: UInt8.ofNat e.body.length :: (e.body ++ tail)) = _
  rw [walk, h.toNat_length, if_pos hroom, List.take_left, List.drop_left]

private theorem walk_flatMap_append (h : ∀ e ∈ row, e.Fits) (tail : List UInt8) :
    walk (row.flatMap encode ++ tail) = row ++ walk tail := by
  induction row with
  | nil => rfl
  | cons e row ih =>
    obtain ⟨hfits, hrow⟩ := List.forall_mem_cons.mp h
    rw [List.flatMap_cons, List.append_assoc, walk_encode_append hfits, ih hrow,
      List.cons_append]

theorem walk_flatMap (h : ∀ e ∈ row, e.Fits) : walk (row.flatMap encode) = row := by
  have hnil : walk [] = [] := walk_of_stops (.short Nat.zero_lt_two)
  have hwalk := walk_flatMap_append h []
  rw [hnil, List.append_nil, List.append_nil] at hwalk
  exact hwalk

theorem walk_encode (h : e.Fits) : walk e.encode = [e] := by
  rw [← walk_flatMap (List.forall_mem_singleton.mpr h), List.flatMap_singleton]

private theorem stops_of_part (h : e.Fits) (hpart : tail <+: e.encode) (hne : tail ≠ e.encode) :
    Stops tail := by
  match tail with
  | [] => exact .short Nat.zero_lt_two
  | [_] => exact .short Nat.one_lt_two
  | id :: len :: rest =>
    obtain ⟨rfl, hcounted⟩ := List.cons_prefix_cons.mp hpart
    obtain ⟨rfl, hbody⟩ := List.cons_prefix_cons.mp hcounted
    -- What is left of the body would be all of it if it were as long as announced.
    have hshort : rest.length < e.body.length := by
      refine Nat.lt_of_le_of_ne hbody.length_le fun hlength => hne ?_
      rw [hbody.eq_of_length hlength]
      rfl
    refine .overrun ?_
    rw [h.toNat_length]
    exact hshort

private theorem exists_stops (octets : List UInt8) :
    ∃ rest, octets = (walk octets).flatMap encode ++ rest ∧ Stops rest := by
  fun_induction walk octets with
  | case1 id len rest hfits ih =>
    obtain ⟨last, hrest, hstops⟩ := ih
    have hlength : (rest.take len.toNat).length = len.toNat := List.length_take_of_le hfits
    refine ⟨last, ?_, hstops⟩
    calc id :: len :: rest
        = id :: len :: (rest.take len.toNat ++ rest.drop len.toNat) := by
          rw [List.take_append_drop]
      _ = encode ⟨id, rest.take len.toNat⟩ ++ rest.drop len.toNat := by
          unfold encode
          dsimp only
          rw [hlength, UInt8.ofNat_toNat]
          rfl
      _ = _ := by
          rw [List.flatMap_cons, List.append_assoc, ← hrest]
  | case2 id len rest hover =>
    exact ⟨_, rfl, .overrun (Nat.lt_of_not_le hover)⟩
  | case3 octets hshort =>
    refine ⟨octets, rfl, .short ?_⟩
    match octets, hshort with
    | [], _ => exact Nat.zero_lt_two
    | [_], _ => exact Nat.one_lt_two
    | id :: len :: rest, hshort => exact absurd rfl (hshort id len rest)

/-- Elements are found exactly as they are written, also in front of part of a further one; and any
octets are the written form of what is found in them, followed by octets that stop the walk. -/
theorem walk_inverts_encode :
    (∀ (row : List Element) (last : Element) (tail : List UInt8), (∀ e ∈ row, e.Fits) →
      last.Fits → tail <+: last.encode → tail ≠ last.encode →
        walk (row.flatMap encode ++ tail) = row) ∧
      ∀ octets : List UInt8, (∀ e ∈ walk octets, e.Fits) ∧
        ∃ rest, octets = (walk octets).flatMap encode ++ rest ∧ Stops rest := by
  refine ⟨fun row last tail hrow hlast hpart hne => ?_, fun octets => ⟨?_, exists_stops octets⟩⟩
  · rw [walk_flatMap_append hrow, walk_of_stops (stops_of_part hlast hpart hne),
      List.append_nil]
  · exact fun e he => fits_of_mem_walk he

namespace CutRow

def whole : List Element := [⟨ssidId, [0x61, 0x62, 0x63]⟩, ⟨ratesId, []⟩]

def last : Element := ⟨ratesId, [0x82, 0x84, 0x8B, 0x96]⟩

theorem walk_inverts_encode_whole : (∀ e ∈ whole, e.Fits) ∧ last.Fits ∧
    [1, 4, 0x82, 0x84] <+: last.encode ∧ [1, 4, 0x82, 0x84] ≠ last.encode ∧
      walk (whole.flatMap encode ++ [1, 4, 0x82, 0x84]) = whole := by
  have hwhole : ∀ e ∈ whole, e.Fits := by decide
  have hlast : last.Fits := by decide
  have hpart : [1, 4, 0x82, 0x84] <+: last.encode := by decide
  have hne : [1, 4, 0x82, 0x84] ≠ last.encode := by decide
  exact ⟨hwhole, hlast, hpart, hne,
    walk_inverts_encode.1 whole last _ hwhole hlast hpart hne⟩

end CutRow

end Hotspot.Element
