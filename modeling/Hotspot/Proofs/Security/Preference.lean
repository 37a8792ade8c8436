import Hotspot.Proofs.Security.Terms

/-!
What it takes for terms to suit a profile, said by the selectors that the terms carry. A cipher is
asked for by name or by way of the group cipher, and of the group ciphers and the ways to
authenticate that the profile accepts, the first one that the terms carry is taken. Main statement:
a profile settles on terms exactly as this rule says.
-/

set_option autoImplicit false
set_option relaxedAutoImplicit false

namespace Hotspot

section Foremost

variable {α : Type} {P Q : α → Prop} {l : List α} {a b : α}

/-- The member of the list has the property, and none before it has. -/
structure Foremost (P : α → Prop) (l : List α) (a : α) : Prop where
  holds : P a
  ahead : ∃ before after, l = before ++ a :: after ∧ ∀ b ∈ before, ¬ P b

namespace Foremost

private theorem mem (h : Foremost P l a) : a ∈ l := by
  obtain ⟨before, after, rfl, -⟩ := h.ahead
  exact List.mem_append_right before List.mem_cons_self

theorem congr (hPQ : ∀ x, P x ↔ Q x) : Foremost P l a ↔ Foremost Q l a := by
  rw [funext fun x => propext (hPQ x)]

theorem idxOf_le [DecidableEq α] (ha : Foremost P l a) (hb : Foremost Q l b)
    (hPQ : ∀ x, P x → Q x) : l.idxOf b ≤ l.idxOf a := by
  obtain ⟨before, after, hl, hnone⟩ := hb.ahead
  have hnotMem : a ∉ before := fun hmem => hnone a hmem (hPQ a ha.holds)
  have hfirst : l.idxOf b ≤ before.length := by
    rw [hl, List.idxOf_append]
    split
    · exact Nat.le_of_lt (List.idxOf_lt_length_of_mem ‹_›)
    · rw [List.idxOf_cons_self]
      omega
  have hbehind : before.length ≤ l.idxOf a := by
    rw [hl, List.idxOf_append, if_neg hnotMem]
    omega
  exact Nat.le_trans hfirst hbehind

end Foremost

theorem find?_eq_some_iff_foremost {q : α → Bool} :
    l.find? q = some a ↔ Foremost (fun x => q x = true) l a := by
  rw [List.find?_eq_some_iff_append]
  constructor
  · rintro ⟨hq, before, after, hl, hnone⟩
    exact ⟨hq, before, after, hl, fun b hb => by simpa using hnone b hb⟩
  · rintro ⟨hq, before, after, hl, hnone⟩
    exact ⟨hq, before, after, hl, fun b hb => by simpa using hnone b hb⟩

theorem exists_foremost_iff : (∃ a, Foremost P l a) ↔ ∃ a ∈ l, P a := by
  classical
  constructor
  · rintro ⟨a, h⟩
    exact ⟨a, h.mem, h.holds⟩
  · rintro ⟨a, hmem, ha⟩
    have hsome : (l.find? fun x => decide (P x)).isSome := by
      rw [List.find?_isSome]
      exact ⟨a, hmem, decide_eq_true ha⟩
    obtain ⟨b, hb⟩ := Option.isSome_iff_exists.mp hsome
    exact ⟨b, (Foremost.congr fun x => decide_eq_true_iff).mp (find?_eq_some_iff_foremost.mp hb)⟩

end Foremost

/-- The selector that a family has for an encryption. Configured and delivered WEP keys share
one. -/
def Encryption.selector? (family : Family) (e : Encryption) : Option Suite :=
  e.cipher.suite? family

def Authentication.selector? (family : Family) (a : Authentication) : Option Suite :=
  (a.method? family).bind (KeyManagement.suite? family)

private theorem Cipher.isSome_offered?_iff {family : Family} {offers : List Suite} {c : Cipher} :
    (c.offered? family offers).isSome = true ↔ ∃ s, c.suite? family = some s ∧ s ∈ offers := by
  unfold Cipher.offered?
  cases Cipher.suite? family c with
  | none => simp
  | some s => simp [Option.filter]

private theorem KeyManagement.isSome_offered?_iff {family : Family} {offers : List Suite}
    {m : KeyManagement} :
    (m.offered? family offers).isSome = true ↔ ∃ s, m.suite? family = some s ∧ s ∈ offers := by
  unfold KeyManagement.offered?
  cases KeyManagement.suite? family m with
  | none => simp
  | some s => simp [Option.filter]

private theorem Cipher.ofSuite_eq_iff {family : Family} {s : Suite} {c : Cipher}
    (hc : c ≠ .reserved) : Cipher.ofSuite family s = c ↔ c.suite? family = some s := by
  constructor
  · intro h
    unfold Cipher.ofSuite at h
    cases hfound : Cipher.all.find? fun c => Cipher.suite? family c == some s with
    | none =>
      rw [hfound] at h
      exact absurd h.symm hc
    | some c' =>
      rw [hfound, Option.getD_some] at h
      subst h
      have hselector := List.find?_some hfound
      exact eq_of_beq hselector
  · intro h
    cases family <;> cases c <;> cases h <;> rfl

private theorem Encryption.ofCipher?_ofSuite_eq_some_iff {family : Family} {s : Suite}
    {e : Encryption} :
    Encryption.ofCipher? (Cipher.ofSuite family s) = some e ↔
      e.isStaticWep = false ∧ e.selector? family = some s := by
  -- The reserved value is what a selector without a cipher is read as. It also stands for no
  -- protection, and is set apart for that reason.
  have hcipher : ∀ c, Encryption.ofCipher? c = some e ↔
      e.isStaticWep = false ∧ e.cipher ≠ .reserved ∧ c = e.cipher := by
    intro c
    cases c <;> cases e <;> decide
  rw [hcipher]
  refine and_congr_right fun _ => ?_
  constructor
  · rintro ⟨hne, hc⟩
    exact (Cipher.ofSuite_eq_iff hne).mp hc
  · intro h
    have hne : e.cipher ≠ .reserved := by
      intro hreserved
      rw [Encryption.selector?, hreserved] at h
      cases family <;> cases h
    exact ⟨hne, (Cipher.ofSuite_eq_iff hne).mpr h⟩

namespace Terms

variable {t : Terms}

def Groups (t : Terms) (e : Encryption) : Prop :=
  e.selector? t.family = some t.group

/-- The encryption may be used for frames to a single station: its selector is in the list, or the
list has the selector for the use of the group cipher, and that is the encryption. -/
def Carries (t : Terms) (e : Encryption) : Prop :=
  (∃ s, e.selector? t.family = some s ∧ s ∈ t.pairwise) ∨
    (∃ s, Cipher.useGroup.suite? t.family = some s ∧ s ∈ t.pairwise) ∧ t.Groups e

def Announces (t : Terms) (a : Authentication) : Prop :=
  ∃ s, a.selector? t.family = some s ∧ s ∈ t.methods

private theorem unicastOffered_iff {e : Encryption} :
    SecurityProfile.unicastOffered t.family e.cipher t.pairwise t.group = true ↔ t.Carries e := by
  unfold SecurityProfile.unicastOffered Carries Groups Encryption.selector?
  simp only [Bool.or_eq_true, Bool.and_eq_true, Cipher.isSome_offered?_iff, List.mem_singleton,
    exists_eq_right]

private theorem announces_iff {a : Authentication} :
    ((a.method? t.family).any fun m => (m.offered? t.family t.methods).isSome) = true ↔
      t.Announces a := by
  unfold Announces Authentication.selector?
  cases a.method? t.family with
  | none => simp
  | some m => exact KeyManagement.isSome_offered?_iff

end Terms

namespace SecurityProfile

variable {p : SecurityProfile} {t : Terms} {a : Authentication} {m : Encryption}

/-- The profile accepts the group cipher of the terms as a certain encryption: the first of those it
names that have the selector, or any with delivered keys if it names none. -/
def Receives (p : SecurityProfile) (t : Terms) (m : Encryption) : Prop :=
  if p.multicast = [] then m.isStaticWep = false ∧ t.Groups m else Foremost t.Groups p.multicast m

/-- What a profile chooses from terms that suit it: a group cipher and a way to authenticate, each
the first of its own list. -/
structure Chooses (p : SecurityProfile) (t : Terms) (authentication : Authentication)
    (multicast : Encryption) : Prop where
  unicast : t.Carries p.unicast
  multicast : p.Receives t multicast
  authentication : Foremost t.Announces p.authentications authentication

/-- The terms fit the profile: they carry its cipher, the group cipher is accepted or any is, and
they announce one of its ways to authenticate. -/
structure Fits (p : SecurityProfile) (t : Terms) : Prop where
  unicast : t.Carries p.unicast
  multicast : (p.multicast = [] ∧ ∃ m, m.isStaticWep = false ∧ t.Groups m) ∨
    ∃ m ∈ p.multicast, t.Groups m
  authentication : ∃ a ∈ p.authentications, t.Announces a

private theorem multicastAgreed?_eq_some_iff :
    multicastAgreed? t.family p.multicast t.group = some m ↔ p.Receives t m := by
  unfold multicastAgreed? Receives
  cases p.multicast with
  | nil => exact Encryption.ofCipher?_ofSuite_eq_some_iff
  | cons e others =>
    rw [if_neg (List.cons_ne_nil e others)]
    refine find?_eq_some_iff_foremost.trans (Foremost.congr fun x => ?_)
    rw [Cipher.isSome_offered?_iff]
    simp [Terms.Groups, Encryption.selector?]

private theorem authenticationAgreed?_eq_some_iff :
    authenticationAgreed? t.family p.authentications t.methods = some a ↔
      Foremost t.Announces p.authentications a :=
  find?_eq_some_iff_foremost.trans (Foremost.congr fun _ => Terms.announces_iff)

theorem settles_iff : p.Settles t a m ↔ p.Chooses t a m := by
  constructor
  · rintro ⟨hu, hm, ha⟩
    exact ⟨Terms.unicastOffered_iff.mp hu, multicastAgreed?_eq_some_iff.mp hm,
      authenticationAgreed?_eq_some_iff.mp ha⟩
  · rintro ⟨hu, hm, ha⟩
    exact ⟨Terms.unicastOffered_iff.mpr hu, multicastAgreed?_eq_some_iff.mpr hm,
      authenticationAgreed?_eq_some_iff.mpr ha⟩

private theorem exists_receives_iff : (∃ m, p.Receives t m) ↔
    (p.multicast = [] ∧ ∃ m, m.isStaticWep = false ∧ t.Groups m) ∨
      ∃ m ∈ p.multicast, t.Groups m := by
  unfold Receives
  cases p.multicast with
  | nil => simp
  | cons e others =>
    simp only [List.cons_ne_nil, if_false, false_and, false_or]
    exact exists_foremost_iff

theorem exists_chooses_iff : (∃ a m, p.Chooses t a m) ↔ p.Fits t := by
  constructor
  · rintro ⟨a, m, hu, hm, ha⟩
    exact ⟨hu, exists_receives_iff.mp ⟨m, hm⟩, exists_foremost_iff.mp ⟨a, ha⟩⟩
  · rintro ⟨hu, hm, ha⟩
    obtain ⟨m, hm⟩ := exists_receives_iff.mpr hm
    obtain ⟨a, ha⟩ := exists_foremost_iff.mpr ha
    exact ⟨a, m, hu, hm, ha⟩

theorem suits_iff_fits : p.Suits t ↔ p.Fits t :=
  (exists_congr fun _ => exists_congr fun _ => settles_iff).trans exists_chooses_iff

end SecurityProfile

end Hotspot
