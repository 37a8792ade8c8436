import Hotspot.HardwareAddress
import Hotspot.Proofs.Text.Hexadecimal

/-!
How hardware addresses are written. A text is read as an address exactly if colons and hyphens cut
it into six numbers in base sixteen, each of one octet. Main statement: a printed address is read
back, also with hyphens in the place of any colons and with letters of either case; and whatever is
read as an address is six such numbers, and printing the address gives a text that reads the same.
-/

set_option autoImplicit false
set_option relaxedAutoImplicit false

namespace Hotspot

open Text.Numeral

private theorem Text.fields_eq_splitOnP (isSeparator : Char → Bool) (cs : List Char) :
    fields isSeparator cs = cs.splitOnP isSeparator := by
  induction cs with
  | nil => rfl
  | cons c rest ih =>
    rw [fields, List.splitOnP_cons_eq_if_modifyHead, ih]
    split
    · rfl
    · cases h : rest.splitOnP isSeparator with
      | nil => exact absurd h (List.splitOnP_ne_nil isSeparator rest)
      | cons field others => rfl

namespace HardwareAddress

variable {a : HardwareAddress} {text : String} {c : Char} {d : Nat} {cs field : List Char}
  {octet : UInt8}

private theorem readOctet_eq_ok_iff : readOctet field = .ok octet ↔ Denotes field octet.toNat := by
  have hread : Denotes field octet.toNat → read? 16 256 field = some octet.toNat :=
    fun h => read?_eq_some_iff.mpr ⟨h, octet.toNat_lt⟩
  unfold readOctet
  cases h : read? 16 256 field with
  | none => exact ⟨nofun, fun hd => nomatch h.symm.trans (hread hd)⟩
  | some n =>
    obtain ⟨hn, hlt⟩ := read?_eq_some_iff.mp h
    constructor
    · intro hok
      cases hok
      rwa [UInt8.toNat_ofNat', Nat.mod_eq_of_lt hlt]
    · intro hd
      obtain rfl : n = octet.toNat := Option.some.inj (h.symm.trans (hread hd))
      exact congrArg Except.ok UInt8.ofNat_toNat

private theorem read_eq_ok_iff_readOctet : read text = .ok a ↔
    List.Forall₂ (fun field octet => readOctet field = .ok octet)
      (Text.fields isSeparator text.toList) a.octets := by
  unfold read
  generalize Text.fields isSeparator text.toList = parts
  split
  · constructor
    · intro h
      obtain ⟨_, h₁, h⟩ := exists_of_bind_eq_ok h
      obtain ⟨_, h₂, h⟩ := exists_of_bind_eq_ok h
      obtain ⟨_, h₃, h⟩ := exists_of_bind_eq_ok h
      obtain ⟨_, h₄, h⟩ := exists_of_bind_eq_ok h
      obtain ⟨_, h₅, h⟩ := exists_of_bind_eq_ok h
      obtain ⟨_, h₆, h⟩ := exists_of_bind_eq_ok h
      cases h
      exact .cons h₁ (.cons h₂ (.cons h₃ (.cons h₄ (.cons h₅ (.cons h₆ .nil)))))
    · obtain ⟨octets, _⟩ := a
      rintro (_ | ⟨h₁, _ | ⟨h₂, _ | ⟨h₃, _ | ⟨h₄, _ | ⟨h₅, _ | ⟨h₆, ⟨⟩⟩⟩⟩⟩⟩⟩)
      rw [h₁, h₂, h₃, h₄, h₅, h₆]
      rfl
  · rename_i hother
    refine ⟨nofun, fun h => ?_⟩
    have hsix : parts.length = 6 := h.length_eq.trans a.length_eq
    match parts, hsix with
    | [f₁, f₂, f₃, f₄, f₅, f₆], _ => exact absurd rfl (hother f₁ f₂ f₃ f₄ f₅ f₆)

private theorem read_eq_ok_iff : read text = .ok a ↔
    List.Forall₂ (fun field octet => Denotes field octet.toNat)
      (text.toList.splitOnP isSeparator) a.octets := by
  rw [read_eq_ok_iff_readOctet, Text.fields_eq_splitOnP]
  simp only [readOctet_eq_ok_iff]

/-- The character may stand for one of a printed address: a letter for itself in the other case, and
a hyphen for a colon. -/
def Varies (c shown : Char) : Prop :=
  c.toLower = shown.toLower ∨ c = '-' ∧ shown = ':'

instance (c shown : Char) : Decidable (Varies c shown) :=
  inferInstanceAs (Decidable (_ ∨ _))

private theorem isSeparator_of_varies (h : Varies c ':') : isSeparator c = true := by
  have hall : ∀ n, n < 128 → Varies (Char.ofNat n) ':' → isSeparator (Char.ofNat n) = true := by
    decide +kernel
  have hlt : c.toNat < 128 := by
    rcases h with hcase | ⟨rfl, -⟩
    · exact toNat_lt_of_toLower (by rw [hcase]; decide)
    · decide
  have hsame := hall c.toNat hlt
  rw [Char.ofNat_toNat] at hsame
  exact hsame h

private theorem isSeparator_of_isHexDigit (h : IsHexDigit c d) : isSeparator c = false := by
  have hmem := List.mem_of_getElem? h
  rw [Bool.eq_false_iff]
  intro hsep
  simp only [isSeparator, Bool.or_eq_true, beq_iff_eq] at hsep
  rcases hsep with rfl | rfl
  · exact absurd hmem (by decide)
  · exact absurd hmem (by decide)

private theorem isHexDigit_of_varies (h : Varies c (upperDigit d)) (hd : d < 16) :
    IsHexDigit c d := by
  have hshown := isHexDigit_upperDigit hd
  rcases h with hcase | ⟨-, hcolon⟩
  · rwa [IsHexDigit, hcase]
  · have hnot := isSeparator_of_isHexDigit hshown
    rw [hcolon] at hnot
    cases hnot

private theorem denotes_of_varies (h : List.Forall₂ Varies cs (upperOctet octet)) :
    Denotes cs octet.toNat ∧ ∀ c ∈ cs, isSeparator c = false := by
  have hhigh : octet.toNat / 16 < 16 := by
    have hlt := octet.toNat_lt
    omega
  have hlow : octet.toNat % 16 < 16 := Nat.mod_lt _ (by decide)
  rcases h with _ | ⟨h₁, _ | ⟨h₂, ⟨⟩⟩⟩
  have hd₁ := isHexDigit_of_varies h₁ hhigh
  have hd₂ := isHexDigit_of_varies h₂ hlow
  constructor
  · refine .inl ⟨List.cons_ne_nil _ _, _, .cons hd₁ (.cons hd₂ .nil), ?_⟩
    simp only [List.reverse_cons, List.reverse_nil, List.nil_append, List.cons_append,
      Nat.ofDigits_cons, Nat.ofDigits_nil]
    omega
  · simp [isSeparator_of_isHexDigit hd₁, isSeparator_of_isHexDigit hd₂]

private theorem denotes_splitOnP {octets : List UInt8} (hne : octets ≠ [])
    (h : List.Forall₂ Varies cs (List.intercalate [':'] (octets.map upperOctet))) :
    List.Forall₂ (fun field octet => Denotes field octet.toNat) (cs.splitOnP isSeparator)
      octets := by
  -- By induction on the octets. The last one has no separator behind it and is taken apart.
  induction octets generalizing cs with
  | nil => exact absurd rfl hne
  | cons octet rest ih =>
    cases rest with
    | nil =>
      have hshown : List.intercalate [':'] ([octet].map upperOctet) = upperOctet octet := by
        simp [List.intercalate]
      rw [hshown] at h
      obtain ⟨hdenotes, hplain⟩ := denotes_of_varies h
      rw [List.splitOnP_eq_singleton hplain]
      exact .cons hdenotes .nil
    | cons next rest =>
      have hshown : List.intercalate [':'] ((octet :: next :: rest).map upperOctet) =
          upperOctet octet ++ ':' :: List.intercalate [':'] ((next :: rest).map upperOctet) := by
        simp [List.intercalate]
      rw [hshown] at h
      have hbehind := List.forall₂_drop_append cs _ _ h
      obtain ⟨hdenotes, hplain⟩ := denotes_of_varies (List.forall₂_take_append cs _ _ h)
      rw [← List.take_append_drop (upperOctet octet).length cs]
      generalize cs.drop (upperOctet octet).length = behind at hbehind ⊢
      cases hbehind with
      | cons hsep hmore =>
        rw [List.splitOnP_append_cons_of_forall_mem hplain _ (isSeparator_of_varies hsep)]
        exact .cons hdenotes (ih (List.cons_ne_nil next rest) hmore)

private theorem read_of_varies (h : List.Forall₂ Varies text.toList a.render.toList) :
    read text = .ok a := by
  have hne : a.octets ≠ [] := List.ne_nil_of_length_pos (by rw [a.length_eq]; decide)
  rw [render, String.toList_ofList] at h
  exact read_eq_ok_iff.mpr (denotes_splitOnP hne h)

private theorem read_render (a : HardwareAddress) : read a.render = .ok a :=
  read_of_varies (List.forall₂_same.mpr fun _ _ => .inl rfl)

/-- A printed address is read back, also with hyphens for any of its colons and with letters of
either case. A text is read as an address exactly if colons and hyphens cut it into six numbers in
base sixteen, of one octet each, and these are its octets; printed, the address reads the same. -/
theorem read_inverts_render :
    (∀ (a : HardwareAddress) (text : String),
      List.Forall₂ Varies text.toList a.render.toList → read text = .ok a) ∧
    ∀ (text : String) (a : HardwareAddress),
      (read text = .ok a ↔ (text.toList.splitOnP isSeparator).length = 6 ∧
        List.Forall₂ (fun field octet => Denotes field octet.toNat ∧ octet.toNat ≤ 255)
          (text.toList.splitOnP isSeparator) a.octets) ∧
      (read text = .ok a → read a.render = .ok a) := by
  refine ⟨fun a text => read_of_varies, fun text a => ⟨?_, fun _ => read_render a⟩⟩
  rw [read_eq_ok_iff]
  constructor
  · intro h
    refine ⟨h.length_eq.trans a.length_eq, h.imp fun field octet hfield => ?_⟩
    exact ⟨hfield, Nat.le_of_lt_succ octet.toNat_lt⟩
  · rintro ⟨-, h⟩
    exact h.imp fun _ _ => And.left

def device : HardwareAddress := ⟨[0x02, 0x0B, 0x00, 0x0C, 0x0D, 0xFF], rfl⟩

theorem read_device :
    List.Forall₂ Varies "02-0b:00-0C:0d-fF".toList device.render.toList ∧
      read "02-0b:00-0C:0d-fF" = .ok device ∧
      read "2:+0b-0-00C-d:FF" = .ok device ∧
      ("2:+0b-0-00C-d:FF".toList.splitOnP isSeparator).length = 6 ∧
      read device.render = .ok device := by
  obtain ⟨hvaried, hread⟩ := read_inverts_render
  have hspelled : List.Forall₂ Varies "02-0b:00-0C:0d-fF".toList device.render.toList := by
    decide +kernel
  have hloose : read "2:+0b-0-00C-d:FF" = .ok device := by decide +kernel
  obtain ⟨hiff, hagain⟩ := hread "2:+0b-0-00C-d:FF" device
  exact ⟨hspelled, hvaried device _ hspelled, hloose, (hiff.mp hloose).1, hagain hloose⟩

end HardwareAddress

end Hotspot
