import Hotspot.Proofs.Security.Preference

/-!
The rule by which a profile and a network come to an agreement, said without the search for it. It
has a case for each kind of encryption that a profile can ask for, and for a negotiated one a case
for each of the two elements. Main statement: networks are joined exactly if the rule admits them,
and what is agreed on is what the rule concludes.
-/

set_option autoImplicit false
set_option relaxedAutoImplicit false

namespace Hotspot

/-- What a network announces about management frames is allowed: protection that is required can be
had, protection that is demanded can be given, and between two capable sides it is enabled. -/
structure ProtectionPolicy.Allows (policy : ProtectionPolicy) (c : RsnCapabilities) : Prop where
  had : policy.enabled = true → policy.required = true → c.protectionCapable = true
  given : c.protectionRequired = true → policy.capable = true
  enabled : policy.capable = true → c.protectionCapable = true → policy.enabled = true

private theorem ProtectionPolicy.agrees_iff {policy : ProtectionPolicy} {c : RsnCapabilities} :
    policy.agrees c.protectionCapable c.protectionRequired = true ↔ policy.Allows c := by
  obtain ⟨enabled, required, capable⟩ := policy
  constructor
  · intro h
    constructor <;> revert h <;>
      cases enabled <;> cases required <;> cases capable <;>
      cases c.protectionCapable <;> cases c.protectionRequired <;> decide
  · rintro ⟨hhad, hgiven, henabled⟩
    revert hhad hgiven henabled
    cases enabled <;> cases required <;> cases capable <;>
      cases c.protectionCapable <;> cases c.protectionRequired <;> decide

private theorem Encryption.kind_cases (e : Encryption) :
    e = .none ∨ e.isStaticWep = true ∨ e = .wpi ∨ e.isNegotiated = true := by
  cases e <;> decide

namespace SecurityProfile

variable {p : SecurityProfile} {offer : SecurityOffer} {g : Agreement} {a : Authentication}

/-- The policy on management frames, if there is one, allows the capabilities. -/
def Permits (p : SecurityProfile) (c : RsnCapabilities) : Prop :=
  ∀ policy, p.protection = some policy → policy.Allows c

/-- The way to authenticate that is used without an element: the first in the list that needs none,
and the open system if the list is empty. -/
def Opens (p : SecurityProfile) (a : Authentication) : Prop :=
  if p.authentications = [] then a = .openSystem
  else Foremost (fun a => a.isLegacy = true) p.authentications a

inductive Admits (p : SecurityProfile) (offer : SecurityOffer) : Prop
  | unprotected (hcipher : p.unicast = .none) (hprivacy : offer.privacy = false)
      (hlegacy : p.authentications = [] ∨ ∃ a ∈ p.authentications, a.isLegacy = true)
  | staticWep (hcipher : p.unicast.isStaticWep = true) (hprivacy : offer.privacy = true)
      (hrsn : offer.rsn = none) (hwpa : offer.wpa = none)
      (hgroup : p.multicast = [] ∨ p.unicast ∈ p.multicast)
      (hlegacy : p.authentications = [] ∨ ∃ a ∈ p.authentications, a.isLegacy = true)
  | wapi (e : WapiElement) (hcipher : p.unicast = .wpi) (he : offer.wapi = some e)
      (hterms : p.Fits e.terms)
  | rsn (e : RsnElement) (hcipher : p.unicast.isNegotiated = true)
      (hprivacy : p.unicast.isDynamicWep = true → offer.privacy = true)
      (he : offer.rsn = some e) (hterms : p.Fits e.terms) (hpolicy : p.Permits e.capabilities)
  | wpa (e : WpaElement) (hcipher : p.unicast.isNegotiated = true)
      (hprivacy : p.unicast.isDynamicWep = true → offer.privacy = true)
      (he : offer.wpa = some e) (hterms : p.Fits e.terms)

/-- What a profile and an offer agree on, with the family of the element it is taken from, if any.
The WPA element counts only where there is no RSN element or the one there is does not do. -/
inductive Concludes (p : SecurityProfile) (offer : SecurityOffer) :
    Option Family → Agreement → Prop
  | unprotected (a : Authentication) (hcipher : p.unicast = .none)
      (hprivacy : offer.privacy = false) (ha : p.Opens a) :
      Concludes p offer none ⟨a, .none, .none, false, false, none⟩
  | staticWep (a : Authentication) (hcipher : p.unicast.isStaticWep = true)
      (hprivacy : offer.privacy = true) (hrsn : offer.rsn = none) (hwpa : offer.wpa = none)
      (hgroup : p.multicast = [] ∨ p.unicast ∈ p.multicast) (ha : p.Opens a) :
      Concludes p offer none ⟨a, p.unicast, p.unicast, false, false, none⟩
  | wapi (e : WapiElement) (a : Authentication) (m : Encryption) (hcipher : p.unicast = .wpi)
      (he : offer.wapi = some e) (hterms : p.Chooses e.terms a m) :
      Concludes p offer (some .wapi) ⟨a, p.unicast, m, false, false, none⟩
  | rsn (e : RsnElement) (a : Authentication) (m : Encryption)
      (hcipher : p.unicast.isNegotiated = true)
      (hprivacy : p.unicast.isDynamicWep = true → offer.privacy = true)
      (he : offer.rsn = some e) (hterms : p.Chooses e.terms a m)
      (hpolicy : p.Permits e.capabilities) :
      Concludes p offer (some .rsn) ⟨a, p.unicast, m, e.capabilities.protectionCapable,
        e.capabilities.protectionRequired, some e.capabilities⟩
  | wpa (e : WpaElement) (a : Authentication) (m : Encryption)
      (hcipher : p.unicast.isNegotiated = true)
      (hprivacy : p.unicast.isDynamicWep = true → offer.privacy = true)
      (hrsn : ∀ e, offer.rsn = some e → ¬ (p.Fits e.terms ∧ p.Permits e.capabilities))
      (he : offer.wpa = some e) (hterms : p.Chooses e.terms a m) :
      Concludes p offer (some .wpa) ⟨a, p.unicast, m, false, false, none⟩

private theorem tolerates_iff_permits {c : RsnCapabilities} : p.Tolerates c ↔ p.Permits c :=
  forall₂_congr fun _ _ => ProtectionPolicy.agrees_iff

private theorem negotiate?_of_none (h : p.unicast = .none) :
    p.negotiate? offer = p.agreeUnprotected? offer := by
  unfold negotiate?
  rw [h]

private theorem negotiate?_of_isStaticWep (h : p.unicast.isStaticWep = true) :
    p.negotiate? offer = p.agreeStaticWep? offer := by
  unfold negotiate?
  cases hu : p.unicast <;> first | rfl | (rw [hu] at h; cases h)

private theorem negotiate?_of_wpi (h : p.unicast = .wpi) :
    p.negotiate? offer = offer.wapi.bind p.agreeWapi? := by
  unfold negotiate?
  rw [h]

private theorem legacyAuthentication?_eq_some_iff :
    p.legacyAuthentication? = some a ↔ p.Opens a := by
  unfold legacyAuthentication? Opens
  cases p.authentications with
  | nil => exact Option.some_inj.trans eq_comm
  | cons b others =>
    rw [if_neg (List.cons_ne_nil b others)]
    exact find?_eq_some_iff_foremost

private theorem exists_opens_iff : (∃ a, p.Opens a) ↔
    p.authentications = [] ∨ ∃ a ∈ p.authentications, a.isLegacy = true := by
  unfold Opens
  cases p.authentications with
  | nil => simp
  | cons b others =>
    simp only [List.cons_ne_nil, if_false, false_or]
    exact exists_foremost_iff

private theorem agreeUnprotected?_eq_some_iff : p.agreeUnprotected? offer = some g ↔
    offer.privacy = false ∧ ∃ a, p.Opens a ∧ g = ⟨a, .none, .none, false, false, none⟩ := by
  unfold agreeUnprotected?
  cases offer.privacy with
  | true => exact ⟨nofun, fun h => nomatch h.1⟩
  | false =>
    refine Option.map_eq_some_iff.trans (Iff.trans ?_ (and_iff_right rfl).symm)
    exact exists_congr fun a => and_congr legacyAuthentication?_eq_some_iff eq_comm

private theorem agreeStaticWep?_eq_some_iff : p.agreeStaticWep? offer = some g ↔
    (offer.privacy = true ∧ offer.rsn = none ∧ offer.wpa = none) ∧
      (p.multicast = [] ∨ p.unicast ∈ p.multicast) ∧
        ∃ a, p.Opens a ∧ g = ⟨a, p.unicast, p.unicast, false, false, none⟩ := by
  have hnetwork : (!offer.privacy || offer.rsn.isSome || offer.wpa.isSome) = true ↔
      ¬ (offer.privacy = true ∧ offer.rsn = none ∧ offer.wpa = none) := by
    cases offer.privacy <;> cases offer.rsn <;> cases offer.wpa <;> simp
  have hgroup : (!p.multicast.isEmpty && !p.multicast.contains p.unicast) = true ↔
      ¬ (p.multicast = [] ∨ p.unicast ∈ p.multicast) := by
    simp
  unfold agreeStaticWep?
  rw [Option.ite_none_left_eq_some, Option.ite_none_left_eq_some, hnetwork, hgroup,
    Decidable.not_not, Decidable.not_not, Option.map_eq_some_iff]
  refine and_congr_right fun _ => and_congr_right fun _ => exists_congr fun a => ?_
  exact and_congr legacyAuthentication?_eq_some_iff eq_comm

private theorem bind_agreeRsn?_eq_none_iff_fits : offer.rsn.bind p.agreeRsn? = none ↔
    ∀ e, offer.rsn = some e → ¬ (p.Fits e.terms ∧ p.Permits e.capabilities) := by
  rw [bind_agreeRsn?_eq_none_iff]
  exact forall₂_congr fun e _ => not_congr (and_congr suits_iff_fits tolerates_iff_permits)

private theorem negotiate?_eq_some_iff_of_isNegotiated (hcipher : p.unicast.isNegotiated = true) :
    p.negotiate? offer = some g ↔ (p.unicast.isDynamicWep = true → offer.privacy = true) ∧
      (offer.rsn.bind p.agreeRsn? = some g ∨
        offer.rsn.bind p.agreeRsn? = none ∧ offer.wpa.bind p.agreeWpa? = some g) := by
  rw [negotiate?_of_isNegotiated hcipher, Option.ite_none_left_eq_some, Option.or_eq_some_iff]
  refine and_congr_left fun _ => ?_
  cases p.unicast.isDynamicWep <;> simp

theorem negotiate?_eq_some_iff_concludes :
    p.negotiate? offer = some g ↔ ∃ source, p.Concludes offer source g := by
  constructor
  · intro h
    rcases p.unicast.kind_cases with hcipher | hcipher | hcipher | hcipher
    · rw [negotiate?_of_none hcipher] at h
      obtain ⟨hprivacy, a, ha, rfl⟩ := agreeUnprotected?_eq_some_iff.mp h
      exact ⟨none, .unprotected a hcipher hprivacy ha⟩
    · rw [negotiate?_of_isStaticWep hcipher] at h
      obtain ⟨⟨hprivacy, hrsn, hwpa⟩, hgroup, a, ha, rfl⟩ := agreeStaticWep?_eq_some_iff.mp h
      exact ⟨none, .staticWep a hcipher hprivacy hrsn hwpa hgroup ha⟩
    · rw [negotiate?_of_wpi hcipher] at h
      obtain ⟨e, he, hg⟩ := Option.bind_eq_some_iff.mp h
      obtain ⟨a, m, hs, rfl⟩ := (agreeWapi?_eq_some_iff hcipher).mp hg
      exact ⟨some .wapi, .wapi e a m hcipher he (settles_iff.mp hs)⟩
    · obtain ⟨hprivacy, hrsn | ⟨hnone, hwpa⟩⟩ :=
        (negotiate?_eq_some_iff_of_isNegotiated hcipher).mp h
      · obtain ⟨e, he, hg⟩ := Option.bind_eq_some_iff.mp hrsn
        obtain ⟨hp, a, m, hs, rfl⟩ := agreeRsn?_eq_some_iff.mp hg
        exact ⟨some .rsn, .rsn e a m hcipher hprivacy he (settles_iff.mp hs)
          (tolerates_iff_permits.mp hp)⟩
      · obtain ⟨e, he, hg⟩ := Option.bind_eq_some_iff.mp hwpa
        obtain ⟨a, m, hs, rfl⟩ := agreeWpa?_eq_some_iff.mp hg
        exact ⟨some .wpa, .wpa e a m hcipher hprivacy
          (bind_agreeRsn?_eq_none_iff_fits.mp hnone) he (settles_iff.mp hs)⟩
  · rintro ⟨source, h⟩
    cases h with
    | unprotected a hcipher hprivacy ha =>
      rw [negotiate?_of_none hcipher]
      exact agreeUnprotected?_eq_some_iff.mpr ⟨hprivacy, a, ha, rfl⟩
    | staticWep a hcipher hprivacy hrsn hwpa hgroup ha =>
      rw [negotiate?_of_isStaticWep hcipher]
      exact agreeStaticWep?_eq_some_iff.mpr ⟨⟨hprivacy, hrsn, hwpa⟩, hgroup, a, ha, rfl⟩
    | wapi e a m hcipher he hterms =>
      rw [negotiate?_of_wpi hcipher, he]
      exact (agreeWapi?_eq_some_iff hcipher).mpr ⟨a, m, settles_iff.mpr hterms, rfl⟩
    | rsn e a m hcipher hprivacy he hterms hpolicy =>
      refine (negotiate?_eq_some_iff_of_isNegotiated hcipher).mpr ⟨hprivacy, .inl ?_⟩
      rw [he]
      exact agreeRsn?_eq_some_iff.mpr
        ⟨tolerates_iff_permits.mpr hpolicy, a, m, settles_iff.mpr hterms, rfl⟩
    | wpa e a m hcipher hprivacy hrsn he hterms =>
      refine (negotiate?_eq_some_iff_of_isNegotiated hcipher).mpr ⟨hprivacy, .inr ⟨?_, ?_⟩⟩
      · exact bind_agreeRsn?_eq_none_iff_fits.mpr hrsn
      · rw [he]
        exact agreeWpa?_eq_some_iff.mpr ⟨a, m, settles_iff.mpr hterms, rfl⟩

/-- The rule comes to a conclusion exactly for the networks that it admits: the element that does
not do leaves room for the other, and where a list has one that will do it has a first. -/
private theorem exists_concludes_iff :
    (∃ g source, p.Concludes offer source g) ↔ p.Admits offer := by
  constructor
  · rintro ⟨g, source, h⟩
    cases h with
    | unprotected a hcipher hprivacy ha =>
      exact .unprotected hcipher hprivacy (exists_opens_iff.mp ⟨a, ha⟩)
    | staticWep a hcipher hprivacy hrsn hwpa hgroup ha =>
      exact .staticWep hcipher hprivacy hrsn hwpa hgroup (exists_opens_iff.mp ⟨a, ha⟩)
    | wapi e a m hcipher he hterms =>
      exact .wapi e hcipher he (exists_chooses_iff.mp ⟨a, m, hterms⟩)
    | rsn e a m hcipher hprivacy he hterms hpolicy =>
      exact .rsn e hcipher hprivacy he (exists_chooses_iff.mp ⟨a, m, hterms⟩) hpolicy
    | wpa e a m hcipher hprivacy _ he hterms =>
      exact .wpa e hcipher hprivacy he (exists_chooses_iff.mp ⟨a, m, hterms⟩)
  · intro h
    cases h with
    | unprotected hcipher hprivacy hlegacy =>
      obtain ⟨a, ha⟩ := exists_opens_iff.mpr hlegacy
      exact ⟨_, _, .unprotected a hcipher hprivacy ha⟩
    | staticWep hcipher hprivacy hrsn hwpa hgroup hlegacy =>
      obtain ⟨a, ha⟩ := exists_opens_iff.mpr hlegacy
      exact ⟨_, _, .staticWep a hcipher hprivacy hrsn hwpa hgroup ha⟩
    | wapi e hcipher he hterms =>
      obtain ⟨a, m, hchosen⟩ := exists_chooses_iff.mpr hterms
      exact ⟨_, _, .wapi e a m hcipher he hchosen⟩
    | rsn e hcipher hprivacy he hterms hpolicy =>
      obtain ⟨a, m, hchosen⟩ := exists_chooses_iff.mpr hterms
      exact ⟨_, _, .rsn e a m hcipher hprivacy he hchosen hpolicy⟩
    | wpa e hcipher hprivacy he hterms =>
      obtain ⟨a, m, hchosen⟩ := exists_chooses_iff.mpr hterms
      -- The network may have an RSN element that does as well. Then that one is concluded from.
      by_cases hrsn : ∃ e, offer.rsn = some e ∧ p.Fits e.terms ∧ p.Permits e.capabilities
      · obtain ⟨e', he', hterms', hpolicy⟩ := hrsn
        obtain ⟨a', m', hchosen'⟩ := exists_chooses_iff.mpr hterms'
        exact ⟨_, _, .rsn e' a' m' hcipher hprivacy he' hchosen' hpolicy⟩
      · have hrefused : ∀ e, offer.rsn = some e →
            ¬ (p.Fits e.terms ∧ p.Permits e.capabilities) :=
          fun e he hfits => hrsn ⟨e, he, hfits⟩
        exact ⟨_, _, .wpa e a m hcipher hprivacy hrefused he hchosen⟩

theorem isSome_negotiate?_iff : (p.negotiate? offer).isSome = true ↔ p.Admits offer := by
  rw [Option.isSome_iff_exists, ← exists_concludes_iff]
  exact exists_congr fun g => negotiate?_eq_some_iff_concludes

/-- A profile and an offer come to an agreement exactly if the rule admits the network, and what
they agree on is what the rule concludes. -/
theorem negotiated_by_rule : ((p.negotiate? offer).isSome = true ↔ p.Admits offer) ∧
    ∀ g, p.negotiate? offer = some g ↔ ∃ source, p.Concludes offer source g :=
  ⟨isSome_negotiate?_iff, fun _ => negotiate?_eq_some_iff_concludes⟩

end SecurityProfile

end Hotspot
