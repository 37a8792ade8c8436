import Hotspot.Proofs.Element.Security

/-!
Elements that were cut short. A reader needs all octets of its field if it refuses any part of them;
a body cut inside such a field is refused, whatever stands before. Main statement: of RSN and WAPI
elements exactly those cuts are not refused that leave too little of an optional field at the end
for it to be looked for, and then the field is taken for missing together with all that would
follow.
-/

set_option autoImplicit false
set_option relaxedAutoImplicit false

namespace Hotspot

namespace Element.Field

section Needs

variable {α β : Type} {read : Reader α} {a : α} {written piece before : List UInt8}

def Refused (outcome : Except ElementFault α) : Prop :=
  ∃ fault, outcome = .error fault

private theorem Refused.bind {outcome : Except ElementFault α} (h : Refused outcome)
    (next : α → Except ElementFault β) : Refused (outcome >>= next) := by
  obtain ⟨fault, rfl⟩ := h
  exact ⟨fault, rfl⟩

def Needs (read : Reader α) (written : List UInt8) : Prop :=
  ∀ piece, piece <+: written → piece ≠ written → Refused (read piece)

private theorem length_lt_of_part (h : piece <+: written) (hne : piece ≠ written) :
    piece.length < written.length :=
  Nat.lt_of_le_of_ne h.length_le fun hlength => hne (h.eq_of_length hlength)

private theorem part_append_cases (h : piece <+: before ++ written)
    (hne : piece ≠ before ++ written) :
    (piece <+: before ∧ piece ≠ before) ∨
      ∃ rest, piece = before ++ rest ∧ rest <+: written ∧ rest ≠ written := by
  obtain ⟨missing, hmissing⟩ := h
  rcases List.append_eq_append_iff.mp hmissing with ⟨end₁, rfl, rfl⟩ | ⟨rest, rfl, rfl⟩
  · cases end₁ with
    | nil =>
      refine .inr ⟨[], ?_, List.nil_prefix, fun hnil => hne ?_⟩
      · rw [List.append_nil, List.append_nil]
      · rw [List.append_nil, ← hnil, List.append_nil]
    | cons b end₁ =>
      refine .inl ⟨List.prefix_append piece _, fun hall => ?_⟩
      have hlength := congrArg List.length hall
      rw [List.length_append, List.length_cons] at hlength
      omega
  · refine .inr ⟨rest, rfl, List.prefix_append rest missing, fun hall => hne ?_⟩
    rw [← hall]

private theorem Needs.of_length (h : ∀ piece : List UInt8, piece.length < written.length →
    Refused (read piece)) : Needs read written :=
  fun piece hpart hne => h piece (length_lt_of_part hpart hne)

private theorem Needs.times {write : α → List UInt8} (hreads : ∀ a, Reads read a (write a))
    (hneeds : ∀ a, Needs read (write a)) (values : List α) :
    Needs (times read values.length) (values.flatMap write) := by
  -- By induction on the values: the cut is in the first one, or behind it.
  induction values with
  | nil => exact fun piece hpart hne => absurd (List.prefix_nil.mp hpart) hne
  | cons value values ih =>
    intro piece hpart hne
    rw [List.flatMap_cons] at hpart hne
    rw [List.length_cons]
    unfold Field.times
    rcases part_append_cases hpart hne with ⟨hfirst, hcut⟩ | ⟨rest, rfl, hrest, hcut⟩
    · exact (hneeds value piece hfirst hcut).bind _
    · rw [(hreads value).bind]
      exact (ih rest hrest hcut).bind _

/-- The reader takes the octets for what they say, and refuses what is left of them if anything is.
-/
structure Strict (read : Reader α) (a : α) (written : List UInt8) : Prop where
  reads : Reads read a written
  notices : ∀ piece, piece <+: written → piece ≠ [] → piece ≠ written → Refused (read piece)

private theorem Needs.strict (h : Needs read written) (hreads : Reads read a written) :
    Strict read a written where
  reads := hreads
  notices piece hpart _ hcut := h piece hpart hcut

private theorem Strict.orDefault (h : Strict read a written) (hne : written ≠ []) (default : α) :
    Strict (orDefault default read) a written where
  reads := h.reads.orDefault hne default
  notices := by
    intro piece hpart hbegun hcut
    obtain ⟨first, others, rfl⟩ := List.exists_cons_of_ne_nil hbegun
    exact h.notices _ hpart hbegun hcut

private theorem ifPresent_of_short {size : Nat} (h : piece.length < size) :
    ifPresent size read piece = .ok (none, piece) := by
  unfold ifPresent
  rw [if_neg (Nat.not_le_of_lt h)]
  rfl

end Needs

private theorem refused_word (field : String) {bytes : List UInt8} (h : bytes.length < 2) :
    Refused (word field bytes) := by
  match bytes, h with
  | [], _ => exact ⟨_, rfl⟩
  | [_], _ => exact ⟨_, rfl⟩

private theorem eq_singleton_of_part {w : UInt16} {piece : List UInt8} (h : piece <+: encodeWord w)
    (hne : piece ≠ []) (hcut : piece ≠ encodeWord w) : ∃ b, piece = [b] := by
  have hlength := length_lt_of_part h hcut
  have hpos := List.length_pos_iff.mpr hne
  rw [length_encodeWord] at hlength
  exact List.length_eq_one_iff.mp (by omega)

private theorem strict_suite (field : String) (s : Suite) : Strict (suite field) s s.octets := by
  refine Needs.strict (.of_length fun piece hlength => ?_) (reads_suite field s)
  match piece, hlength with
  | [], _ => exact ⟨_, rfl⟩
  | [_], _ => exact ⟨_, rfl⟩
  | [_, _], _ => exact ⟨_, rfl⟩
  | [_, _, _], _ => exact ⟨_, rfl⟩

private theorem needs_octets {n : Nat} (field : String)
    (b : { bytes : List UInt8 // bytes.length = n }) : Needs (octets n field) b.val := by
  refine .of_length fun piece hlength => ?_
  rw [b.property] at hlength
  unfold octets
  rw [dif_neg (Nat.not_le_of_lt hlength)]
  exact ⟨_, rfl⟩

private theorem strict_suites (field : String) {list : List Suite}
    (hcount : list.length < UInt16.size) : Strict (suites field) list (encodeSuites list) := by
  have htoNat : (UInt16.ofNat list.length).toNat = list.length := UInt16.toNat_ofNat_of_lt' hcount
  refine Needs.strict (fun piece hpart hne => ?_) (reads_suites field hcount)
  unfold suites
  rcases part_append_cases hpart hne with ⟨hword, hcut⟩ | ⟨rest, rfl, hrest, hcut⟩
  · exact (refused_word field (length_lt_of_part hword hcut)).bind _
  · have hshort : rest.length < 4 * list.length := by
      rw [← length_flatMap_octets]
      exact length_lt_of_part hrest hcut
    rw [(reads_word field _).bind]
    dsimp only
    rw [htoNat, if_pos hshort]
    exact ⟨_, rfl⟩

end Element.Field

open Element.Field

private theorem strict_version (protocol : String) :
    Strict (readVersion protocol) 1 (encodeWord 1) :=
  Needs.strict (.of_length fun _ hlength => (refused_word "version" hlength).bind _)
    (reads_version protocol)

/-- A row of named fields is cut inside one of them: `piece` is what is left of that field, and
`cut` what is left of the row. -/
inductive CutIn {ι : Type} : List (ι × List UInt8) → ι → List UInt8 → List UInt8 → Prop
  | here {name : ι} {field piece : List UInt8} {row : List (ι × List UInt8)}
      (hpart : piece <+: field) (hne : piece ≠ []) (hcut : piece ≠ field) :
      CutIn ((name, field) :: row) name piece piece
  | later {other name : ι} {field piece cut : List UInt8} {row : List (ι × List UInt8)}
      (h : CutIn row name piece cut) : CutIn ((other, field) :: row) name piece (field ++ cut)

namespace CutIn

variable {ι : Type} {row : List (ι × List UInt8)} {name : ι} {piece cut : List UInt8}

private theorem part (h : CutIn row name piece cut) : cut <+: row.flatMap (·.2) := by
  induction h with
  | here hpart =>
    rw [List.flatMap_cons]
    exact hpart.trans (List.prefix_append _ _)
  | later h ih =>
    rw [List.flatMap_cons]
    exact (List.prefix_append_right_inj _).mpr ih

private theorem ne_nil (h : CutIn row name piece cut) : cut ≠ [] := by
  induction h with
  | here hpart hne => exact hne
  | later h ih => exact List.append_ne_nil_of_right_ne_nil _ ih

private theorem refused_or_later {α β : Type} {read : Reader α} {a : α} {first : ι}
    {field : List UInt8}
    (h : CutIn ((first, field) :: row) name piece cut) (hstrict : Strict read a field)
    (next : α × List UInt8 → Except ElementFault β) :
    name = first ∧ Refused (read cut >>= next) ∨
      ∃ rest, CutIn row name piece rest ∧ (read cut >>= next) = next (a, rest) := by
  cases h with
  | here hpart hne hcut => exact .inl ⟨rfl, (hstrict.notices piece hpart hne hcut).bind next⟩
  | later h => exact .inr ⟨_, h, hstrict.reads.bind next⟩

private theorem head?_eq (h : CutIn row name piece cut) :
    cut.head? = (row.flatMap (·.2)).head? := by
  obtain ⟨missing, hmissing⟩ := h.part
  obtain ⟨first, others, rfl⟩ := List.exists_cons_of_ne_nil h.ne_nil
  rw [← hmissing]
  rfl

private theorem exists_of_part (h : cut <+: row.flatMap (·.2))
    (hends : ∀ k, cut ≠ (row.take k).flatMap (·.2)) : ∃ name piece, CutIn row name piece cut := by
  -- By induction on the fields. A cut at the end of a field is none, which both cases pass on.
  induction row generalizing cut with
  | nil => exact absurd (List.prefix_nil.mp h) (hends 0)
  | cons field row ih =>
    obtain ⟨name, field⟩ := field
    have hproper : cut ≠ field ++ row.flatMap (·.2) := by
      intro hall
      refine hends (row.length + 1) ?_
      rw [List.take_succ_cons, List.take_length, List.flatMap_cons]
      exact hall
    rcases part_append_cases h hproper with ⟨hpart, hcut⟩ | ⟨rest, rfl, hrest, -⟩
    · exact ⟨name, cut, .here hpart (hends 0) hcut⟩
    · have hlater : ∀ k, rest ≠ (row.take k).flatMap (·.2) := by
        intro k hk
        refine hends (k + 1) ?_
        rw [List.take_succ_cons, List.flatMap_cons, hk]
      obtain ⟨name, piece, hinside⟩ := ih hrest hlater
      exact ⟨name, piece, .later hinside⟩

private theorem ends_of_le (h : ∀ k ≤ row.length, cut ≠ (row.take k).flatMap (·.2)) (k : Nat) :
    cut ≠ (row.take k).flatMap (·.2) := by
  rcases Nat.le_total k row.length with hle | hge
  · exact h k hle
  · rw [List.take_of_length_le hge]
    have hall := h row.length (Nat.le_refl _)
    rwa [List.take_length] at hall

end CutIn

/-- How a reader takes a cut: it gives a parse error, or reads `e` where `overlooked` holds. -/
structure TakesCut {α : Type} (read : List UInt8 → Except DecodeError α) (what : String)
    (cut : List UInt8) (overlooked : Prop) (e : α) : Prop where
  refused_iff : (∃ fault, read cut = .error (.element what fault)) ↔ ¬ overlooked
  read_of_overlooked : overlooked → read cut = .ok e

private theorem takesCut_of_readBody {α : Type} {id : UInt8} {least : Nat} {what : String}
    {cut : List UInt8} {readBody : List UInt8 → Except ElementFault α} {overlooked : Prop} {e : α}
    (hhead : cut.head? ≠ some id) (hrefused : ¬ overlooked → Refused (readBody cut))
    (hread : overlooked → readBody cut = .ok e) :
    TakesCut (fun bytes => (unwrap id least bytes >>= readBody).mapError (.element what)) what cut
      overlooked e where
  refused_iff := by
    rw [unwrap_bare hhead]
    constructor
    · rintro ⟨fault, hfault⟩ hover
      have hok : (readBody cut).mapError (DecodeError.element what) =
        .error (.element what fault) :=
        hfault
      rw [hread hover] at hok
      cases hok
    · intro hover
      obtain ⟨fault, hfault⟩ := hrefused hover
      exact ⟨fault, congrArg (Except.mapError (DecodeError.element what)) hfault⟩
  read_of_overlooked hover := by
    rw [unwrap_bare hhead]
    exact congrArg (Except.mapError (DecodeError.element what)) (hread hover)

namespace RsnElement

inductive Part
  | version
  | groupCipher
  | pairwiseCiphers
  | methods
  | capabilities
  | keyNames
  | managementCipher
  deriving DecidableEq, Repr

/-- The fields as they are written, each list behind its count. -/
def parts (e : RsnElement) : List (Part × List UInt8) :=
  [(.version, encodeWord e.version), (.groupCipher, e.groupCipher.octets),
    (.pairwiseCiphers, encodeSuites e.pairwiseCiphers), (.methods, encodeSuites e.methods),
    (.capabilities, encodeWord e.capabilities.bits),
    (.keyNames, encodeWord (UInt16.ofNat e.keyNames.length) ++ e.keyNames.flatMap (·.val)),
    (.managementCipher, (e.managementCipher.map Suite.octets).getD [])]

variable {e : RsnElement} {part : Part} {piece cut : List UInt8}

private theorem flatMap_parts (e : RsnElement) : e.parts.flatMap (·.2) = e.encodeBody := by
  simp [parts, encodeBody]

/-- What is left of a field is too little for it to be looked for. Only fields that may be missing
are looked for at all; the others are read. -/
def Part.Overlooked : Part → List UInt8 → Prop
  | .capabilities, _ => True
  | .keyNames, piece => piece.length = 1
  | .managementCipher, _ => True
  | _, _ => False

/-- The element without an optional field and what follows it. -/
def upTo (e : RsnElement) : Part → RsnElement
  | .capabilities => { e with capabilities := ⟨0⟩, keyNames := [], managementCipher := none }
  | .keyNames => { e with keyNames := [], managementCipher := none }
  | _ => { e with managementCipher := none }

private theorem readBody_cut (h : e.Standard) (hcut : CutIn e.parts part piece cut) :
    (¬ part.Overlooked piece → Refused (readBody cut)) ∧
      (part.Overlooked piece → readBody cut = .ok (e.upTo part)) := by
  obtain ⟨version, group, pairwise, methods, capabilities, keyNames, management⟩ := e
  obtain ⟨hversion, hpairwise, hmethods, hkeyNames⟩ := h
  dsimp only at hversion hpairwise hmethods hkeyNames
  subst hversion
  have hcount : ((some (UInt16.ofNat keyNames.length)).getD 0).toNat = keyNames.length :=
    UInt16.toNat_ofNat_of_lt' hkeyNames
  unfold readBody
  rcases hcut.refused_or_later (strict_version "RSN") _
    with ⟨rfl, hrefused⟩ | ⟨cut, hcut, hnext⟩
  · exact ⟨fun _ => hrefused, nofun⟩
  rw [hnext]
  dsimp only
  rcases hcut.refused_or_later
      ((strict_suite "group cipher" group).orDefault (List.cons_ne_nil _ _) _) _
    with ⟨rfl, hrefused⟩ | ⟨cut, hcut, hnext⟩
  · exact ⟨fun _ => hrefused, nofun⟩
  rw [hnext]
  dsimp only
  rcases hcut.refused_or_later
      ((strict_suites "pairwise" hpairwise).orDefault (List.cons_ne_nil _ _) _) _
    with ⟨rfl, hrefused⟩ | ⟨cut, hcut, hnext⟩
  · exact ⟨fun _ => hrefused, nofun⟩
  rw [hnext]
  dsimp only
  rcases hcut.refused_or_later
      ((strict_suites "AKM" hmethods).orDefault (List.cons_ne_nil _ _) _) _
    with ⟨rfl, hrefused⟩ | ⟨cut, hcut, hnext⟩
  · exact ⟨fun _ => hrefused, nofun⟩
  rw [hnext]
  dsimp only
  -- The fields from here on are only looked for if enough octets are left.
  cases hcut with
  | here hpart hne hcut =>
    obtain ⟨b, rfl⟩ := eq_singleton_of_part hpart hne hcut
    exact ⟨fun h => absurd trivial h, fun _ => rfl⟩
  | later hcut =>
  rw [((reads_word "capabilities" capabilities.bits).ifPresent (Nat.le_refl 2)).bind]
  dsimp only
  cases hcut with
  | here hpart hne hcut =>
    rcases part_append_cases hpart hcut with ⟨hword, hcut⟩ | ⟨rest, rfl, hrest, hcut⟩
    · obtain ⟨b, rfl⟩ := eq_singleton_of_part hword hne hcut
      exact ⟨fun h => absurd rfl h, fun _ => rfl⟩
    · rw [((reads_word "PMKID count" _).ifPresent (Nat.le_refl 2)).bind]
      dsimp only
      rw [hcount]
      refine ⟨fun _ => ?_, fun hone => ?_⟩
      · exact ((Needs.times (reads_octets "PMKID") (needs_octets "PMKID") keyNames) rest hrest
          hcut).bind _
      · have hlength : (encodeWord (UInt16.ofNat keyNames.length) ++ rest).length = 1 := hone
        rw [List.length_append, length_encodeWord] at hlength
        omega
  | later hcut =>
  rw [List.append_assoc, ((reads_word "PMKID count" _).ifPresent (Nat.le_refl 2)).bind]
  dsimp only
  rw [hcount, (Reads.times (reads_octets "PMKID") keyNames).bind]
  dsimp only
  cases hcut with
  | here hpart hne hcut =>
    have hshort : piece.length < 4 := by
      cases management with
      | none => exact absurd (List.prefix_nil.mp hpart) hne
      | some s => exact length_lt_of_part hpart hcut
    rw [ifPresent_of_short hshort]
    exact ⟨fun h => absurd trivial h, fun _ => rfl⟩
  | later hcut => cases hcut

end RsnElement

namespace WapiElement

inductive Part
  | version
  | methods
  | pairwiseCiphers
  | groupCipher
  | capabilities
  deriving DecidableEq, Repr

/-- The fields as they are written, each list behind its count. -/
def parts (e : WapiElement) : List (Part × List UInt8) :=
  [(.version, encodeWord e.version), (.methods, encodeSuites e.methods),
    (.pairwiseCiphers, encodeSuites e.pairwiseCiphers), (.groupCipher, e.groupCipher.octets),
    (.capabilities, encodeWord e.capabilities)]

variable {e : WapiElement} {part : Part} {piece cut : List UInt8}

private theorem flatMap_parts (e : WapiElement) : e.parts.flatMap (·.2) = e.encodeBody := by
  simp [parts, encodeBody]

private theorem readBody_cut (h : e.Standard) (hcut : CutIn e.parts part piece cut) :
    (part ≠ .capabilities → Refused (readBody cut)) ∧
      (part = .capabilities → readBody cut = .ok { e with capabilities := 0 }) := by
  obtain ⟨version, methods, pairwise, group, capabilities⟩ := e
  obtain ⟨hversion, hmethods, hpairwise⟩ := h
  dsimp only at hversion hpairwise hmethods
  subst hversion
  unfold readBody
  rcases hcut.refused_or_later (strict_version "WAPI") _
    with ⟨rfl, hrefused⟩ | ⟨cut, hcut, hnext⟩
  · exact ⟨fun _ => hrefused, nofun⟩
  rw [hnext]
  dsimp only
  rcases hcut.refused_or_later (strict_suites "AKM" hmethods) _
    with ⟨rfl, hrefused⟩ | ⟨cut, hcut, hnext⟩
  · exact ⟨fun _ => hrefused, nofun⟩
  rw [hnext]
  dsimp only
  rcases hcut.refused_or_later (strict_suites "unicast" hpairwise) _
    with ⟨rfl, hrefused⟩ | ⟨cut, hcut, hnext⟩
  · exact ⟨fun _ => hrefused, nofun⟩
  rw [hnext]
  dsimp only
  rcases hcut.refused_or_later (strict_suite "multicast cipher" group) _
    with ⟨rfl, hrefused⟩ | ⟨cut, hcut, hnext⟩
  · exact ⟨fun _ => hrefused, nofun⟩
  rw [hnext]
  dsimp only
  cases hcut with
  | here hpart hne hcut =>
    obtain ⟨b, rfl⟩ := eq_singleton_of_part hpart hne hcut
    exact ⟨fun h => absurd rfl h, fun _ => rfl⟩
  | later hcut => cases hcut

end WapiElement

/-- An element that ends inside a field is refused, unless too little is left of an optional field
at its end for that to be looked for. Then the element is read as if the field had been left out. -/
theorem cut_refused_iff (cut : List UInt8) :
    (∀ e : RsnElement, e.Standard → cut <+: e.encodeBody →
      (∀ k, cut ≠ (e.parts.take k).flatMap (·.2)) →
        ∃ part piece, CutIn e.parts part piece cut ∧
          TakesCut RsnElement.read "RSN IE" cut (part.Overlooked piece) (e.upTo part)) ∧
      ∀ e : WapiElement, e.Standard → cut <+: e.encodeBody →
        (∀ k, cut ≠ (e.parts.take k).flatMap (·.2)) →
          ∃ part piece, CutIn e.parts part piece cut ∧
            TakesCut WapiElement.read "WAPI IE" cut (part = .capabilities)
              { e with capabilities := 0 } := by
  constructor
  · intro e h hpart hends
    rw [← RsnElement.flatMap_parts] at hpart
    obtain ⟨part, piece, hcut⟩ := CutIn.exists_of_part hpart hends
    have hhead : cut.head? ≠ some Element.rsnId := by
      rw [hcut.head?_eq, RsnElement.flatMap_parts, RsnElement.head?_encodeBody h]
      decide
    obtain ⟨hrefused, hread⟩ := RsnElement.readBody_cut h hcut
    exact ⟨part, piece, hcut, takesCut_of_readBody hhead hrefused hread⟩
  · intro e h hpart hends
    rw [← WapiElement.flatMap_parts] at hpart
    obtain ⟨part, piece, hcut⟩ := CutIn.exists_of_part hpart hends
    have hhead : cut.head? ≠ some Element.wapiId := by
      rw [hcut.head?_eq, WapiElement.flatMap_parts, WapiElement.head?_encodeBody h]
      decide
    obtain ⟨hrefused, hread⟩ := WapiElement.readBody_cut h hcut
    exact ⟨part, piece, hcut, takesCut_of_readBody hhead hrefused hread⟩

namespace CutElement

def rsn : RsnElement := ⟨1, ⟨.rsn, 4⟩, [⟨.rsn, 4⟩], [⟨.rsn, 2⟩, ⟨.rsn, 6⟩], ⟨0x00C0⟩, [], none⟩

def wapi : WapiElement := ⟨1, [⟨.wapi, 2⟩], [⟨.wapi, 1⟩], ⟨.wapi, 1⟩, 0x0101⟩

private theorem rsn_standard : rsn.Standard := ⟨rfl, by decide, by decide, by decide⟩

private theorem wapi_standard : wapi.Standard := ⟨rfl, by decide, by decide⟩

theorem cut_refused_iff_lists :
    (rsn.Standard ∧ rsn.encodeBody.take 18 <+: rsn.encodeBody ∧
      (∀ k, rsn.encodeBody.take 18 ≠ (rsn.parts.take k).flatMap (·.2)) ∧
      ∃ part piece, CutIn rsn.parts part piece (rsn.encodeBody.take 18) ∧
        TakesCut RsnElement.read "RSN IE" (rsn.encodeBody.take 18) (part.Overlooked piece)
          (rsn.upTo part)) ∧
      wapi.Standard ∧ wapi.encodeBody.take 17 <+: wapi.encodeBody ∧
        (∀ k, wapi.encodeBody.take 17 ≠ (wapi.parts.take k).flatMap (·.2)) ∧
        ∃ part piece, CutIn wapi.parts part piece (wapi.encodeBody.take 17) ∧
          TakesCut WapiElement.read "WAPI IE" (wapi.encodeBody.take 17) (part = .capabilities)
            { wapi with capabilities := 0 } := by
  have hrsn : ∀ k, rsn.encodeBody.take 18 ≠ (rsn.parts.take k).flatMap (·.2) :=
    CutIn.ends_of_le (by decide)
  have hwapi : ∀ k, wapi.encodeBody.take 17 ≠ (wapi.parts.take k).flatMap (·.2) :=
    CutIn.ends_of_le (by decide)
  exact ⟨⟨rsn_standard, List.take_prefix _ _, hrsn,
    (cut_refused_iff _).1 rsn rsn_standard (List.take_prefix _ _) hrsn⟩,
    wapi_standard, List.take_prefix _ _, hwapi,
    (cut_refused_iff _).2 wapi wapi_standard (List.take_prefix _ _) hwapi⟩

/-- In the middle of the capabilities it is not refused: it does not demand anything then. -/
theorem not_cut_refused_capabilities :
    rsn.Standard ∧ rsn.encodeBody.take 23 <+: rsn.encodeBody ∧
      (∀ k, rsn.encodeBody.take 23 ≠ (rsn.parts.take k).flatMap (·.2)) ∧
      RsnElement.read (rsn.encodeBody.take 23) = .ok { rsn with capabilities := ⟨0⟩ } ∧
      ¬ ∃ fault, RsnElement.read (rsn.encodeBody.take 23) = .error (.element "RSN IE" fault) := by
  have hends : ∀ k, rsn.encodeBody.take 23 ≠ (rsn.parts.take k).flatMap (·.2) :=
    CutIn.ends_of_le (by decide)
  have hread : RsnElement.read (rsn.encodeBody.take 23) = .ok { rsn with capabilities := ⟨0⟩ } :=
    rfl
  refine ⟨rsn_standard, List.take_prefix _ _, hends, hread, ?_⟩
  rintro ⟨fault, hfault⟩
  rw [hread] at hfault
  cases hfault

end CutElement

end Hotspot
