import Hotspot.Text.Numeral
import Mathlib.Data.List.Forall2
import Mathlib.Data.Nat.Digits.Defs

/-!
What is read as a number in base sixteen. The digits have their values in either case, the first one
counts for the most, and one plus sign may stand in front of any number of leading zeros. Main
statement: a number below a limit is read exactly from the texts that denote it.
-/

set_option autoImplicit false
set_option relaxedAutoImplicit false

namespace Hotspot.Text.Numeral

def hexDigits : List Char :=
  "0123456789abcdef".toList

def IsHexDigit (c : Char) (value : Nat) : Prop :=
  hexDigits[value]? = some c.toLower

instance (c : Char) (value : Nat) : Decidable (IsHexDigit c value) :=
  inferInstanceAs (Decidable (_ = _))

/-- The digits, one at least, stand for a number, the first one for the most of it. -/
def Spells (digits : List Char) (n : Nat) : Prop :=
  digits ≠ [] ∧ ∃ values, List.Forall₂ IsHexDigit digits values ∧
    Nat.ofDigits 16 values.reverse = n

/-- The text is a number in base sixteen, with or without a plus sign. -/
def Denotes (text : List Char) (n : Nat) : Prop :=
  Spells text n ∨ ∃ digits, text = '+' :: digits ∧ Spells digits n

variable {c : Char} {d n limit value : Nat} {cs : List Char}

private theorem lt_of_isHexDigit (h : IsHexDigit c d) : d < 16 :=
  (List.getElem?_eq_some_iff.mp h).1

theorem toNat_lt_of_toLower (h : c.toLower.toNat < 128) : c.toNat < 128 := by
  by_contra hc
  have hsame : c.toLower = c := dif_neg fun hupper => by
    have hle : c.toNat ≤ 90 := UInt32.le_iff_toNat_le.mp hupper.2
    omega
  rw [hsame] at h
  exact hc h

private theorem toNat_lt_of_isHexDigit (h : IsHexDigit c d) : c.toNat < 128 := by
  have hall : hexDigits.all (·.toNat < 128) = true := by decide
  have hlower := List.all_eq_true.mp hall _ (List.mem_of_getElem? h)
  exact toNat_lt_of_toLower (of_decide_eq_true hlower)

private theorem lt_of_digit? {base : Nat} (h : digit? base c = some d) : d < base := by
  simp only [digit?, Option.ite_none_right_eq_some, Option.some.injEq] at h
  obtain ⟨hlt, rfl⟩ := h
  exact hlt

private theorem toNat_lt_of_digit? (h : digit? 16 c = some d) : c.toNat < 128 := by
  by_contra hc
  have hout (x : Char) (hx : x.toNat < 128) : ¬ c ≤ x := fun hle => hc (Nat.lt_of_le_of_lt hle hx)
  simp [digit?, hout '9' (by decide), hout 'f' (by decide), hout 'F' (by decide)] at h

private theorem digit?_eq_some_iff : digit? 16 c = some d ↔ IsHexDigit c d := by
  have hall : ∀ n, n < 128 → ∀ d, d < 16 →
      (digit? 16 (Char.ofNat n) = some d ↔ IsHexDigit (Char.ofNat n) d) := by
    decide +kernel
  constructor
  · intro h
    have hsame := hall c.toNat (toNat_lt_of_digit? h) d (lt_of_digit? h)
    rw [Char.ofNat_toNat] at hsame
    exact hsame.mp h
  · intro h
    have hsame := hall c.toNat (toNat_lt_of_isHexDigit h) d (lt_of_isHexDigit h)
    rw [Char.ofNat_toNat] at hsame
    exact hsame.mpr h

theorem isHexDigit_upperDigit (h : d < 16) : IsHexDigit (upperDigit d) d := by
  have hall : ∀ d, d < 16 → IsHexDigit (upperDigit d) d := by decide
  exact hall d h

private theorem digits?_eq_some_iff : digits? 16 value cs = some n ↔
    ∃ values, List.Forall₂ IsHexDigit cs values ∧
      values.foldl (fun value d => value * 16 + d) value = n := by
  induction cs generalizing value with
  | nil => simp [digits?]
  | cons c cs ih =>
    rw [digits?, Option.bind_eq_some_iff]
    constructor
    · rintro ⟨d, hd, hrest⟩
      obtain ⟨values, hvalues, hn⟩ := ih.mp hrest
      exact ⟨d :: values, .cons (digit?_eq_some_iff.mp hd) hvalues, hn⟩
    · rintro ⟨values, hvalues, hn⟩
      cases hvalues with
      | cons hd hrest => exact ⟨_, digit?_eq_some_iff.mpr hd, ih.mpr ⟨_, hrest, hn⟩⟩

private theorem foldl_eq_ofDigits (values : List Nat) :
    values.foldl (fun value d => value * 16 + d) 0 = Nat.ofDigits 16 values.reverse := by
  rw [Nat.ofDigits_eq_foldr, List.foldr_reverse]
  congr 1
  funext value d
  rw [Nat.cast_id, Nat.mul_comm, Nat.add_comm]

private theorem not_isHexDigit_plus : ¬ IsHexDigit '+' d := by
  intro h
  exact absurd (List.mem_of_getElem? h) (by decide)

private theorem not_spells_plus : ¬ Spells ('+' :: cs) n := by
  rintro ⟨-, values, hvalues, -⟩
  cases hvalues with
  | cons hplus _ => exact not_isHexDigit_plus hplus

private theorem filter_digits?_eq_some_iff (h : cs ≠ []) :
    (digits? 16 0 cs).filter (· < limit) = some n ↔ Spells cs n ∧ n < limit := by
  simp only [Option.filter_eq_some_iff, digits?_eq_some_iff, foldl_eq_ofDigits, decide_eq_true_eq,
    Spells, ne_eq, h, not_false_eq_true, true_and]

private theorem read?_plus : read? 16 limit ('+' :: cs) = some n ↔ Spells cs n ∧ n < limit := by
  cases cs with
  | nil => exact ⟨nofun, fun h => absurd rfl h.1.1⟩
  | cons c rest => exact filter_digits?_eq_some_iff (List.cons_ne_nil c rest)

private theorem read?_of_ne_plus (h : ∀ digits, cs ≠ '+' :: digits) :
    read? 16 limit cs = some n ↔ Spells cs n ∧ n < limit := by
  cases cs with
  | nil => exact ⟨nofun, fun h => absurd rfl h.1.1⟩
  | cons c rest =>
    have hread : read? 16 limit (c :: rest) = (digits? 16 0 (c :: rest)).filter (· < limit) := by
      unfold read?
      split
      · rename_i digits hplus
        exact absurd hplus (h digits)
      · rfl
    rw [hread]
    exact filter_digits?_eq_some_iff (List.cons_ne_nil c rest)

theorem read?_eq_some_iff : read? 16 limit cs = some n ↔ Denotes cs n ∧ n < limit := by
  by_cases hplus : ∃ digits, cs = '+' :: digits
  · obtain ⟨digits, rfl⟩ := hplus
    rw [read?_plus]
    simp [Denotes, not_spells_plus]
  · have hnone : ∀ digits, cs ≠ '+' :: digits := fun digits hcs => hplus ⟨digits, hcs⟩
    rw [read?_of_ne_plus hnone]
    simp [Denotes, hnone]

end Hotspot.Text.Numeral
