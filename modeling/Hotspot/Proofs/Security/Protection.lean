import Hotspot.Proofs.Security.Terms

/-!
Protected management frames. A policy that demands them is asked about an RSN element only, and a
network that is turned down on its RSN element may still be joined on its WPA element, where
management frames stay unprotected. The demand is met exactly where this way back is closed.
-/

set_option autoImplicit false
set_option relaxedAutoImplicit false

namespace Hotspot

namespace SecurityProfile

variable {p : SecurityProfile} {offer : SecurityOffer} {g : Agreement}

/-- The profile has a policy that demands protected management frames. -/
def Demands (p : SecurityProfile) : Prop :=
  ∃ policy, p.protection = some policy ∧ policy.enabled = true ∧ policy.required = true

/-- The network is joined on its WPA element: there is no RSN element, or it is turned down. -/
structure FallsBack (p : SecurityProfile) (offer : SecurityOffer) : Prop where
  privacy : p.unicast.isDynamicWep = true → offer.privacy = true
  refused : ∀ e, offer.rsn = some e → ¬ (p.Suits e.terms ∧ p.Tolerates e.capabilities)
  suited : ∃ e, offer.wpa = some e ∧ p.Suits e.terms

private theorem Demands.capable (h : p.Demands) {c : RsnCapabilities} (hc : p.Tolerates c) :
    c.protectionCapable = true := by
  obtain ⟨policy, hp, henabled, hrequired⟩ := h
  have hagrees := hc policy hp
  cases hcapable : c.protectionCapable with
  | true => rfl
  | false => simp [ProtectionPolicy.agrees, henabled, hrequired, hcapable] at hagrees

private theorem Demands.of_rsn (h : p.Demands) (hg : offer.rsn.bind p.agreeRsn? = some g) :
    g.protectionCapable = true := by
  obtain ⟨e, -, he⟩ := Option.bind_eq_some_iff.mp hg
  obtain ⟨htolerates, a, m, -, rfl⟩ := agreeRsn?_eq_some_iff.mp he
  exact h.capable htolerates

private theorem not_protectionCapable_of_wpa (hg : offer.wpa.bind p.agreeWpa? = some g) :
    g.protectionCapable = false := by
  obtain ⟨e, -, he⟩ := Option.bind_eq_some_iff.mp hg
  obtain ⟨a, m, -, rfl⟩ := agreeWpa?_eq_some_iff.mp he
  rfl

private theorem isSome_bind_agreeWpa?_iff : (offer.wpa.bind p.agreeWpa?).isSome ↔
    ∃ e, offer.wpa = some e ∧ p.Suits e.terms := by
  cases offer.wpa with
  | none => simp
  | some e => simp [isSome_agreeWpa?_iff]

/-- Who demands protected management frames, with an encryption that is negotiated, joins no network
without them exactly if the network is not joined on its WPA element. -/
theorem protection_met_iff (hcipher : p.unicast.isNegotiated = true) (hdemands : p.Demands) :
    (∀ g, p.negotiate? offer = some g → g.protectionCapable = true) ↔ ¬ p.FallsBack offer := by
  rw [negotiate?_of_isNegotiated hcipher]
  constructor
  · rintro h ⟨hprivacy, hrefused, hsuited⟩
    obtain ⟨g, hg⟩ := Option.isSome_iff_exists.mp (isSome_bind_agreeWpa?_iff.mpr hsuited)
    -- The fallback agrees on something, and no agreement on WPA is capable of protection.
    have hwep : (p.unicast.isDynamicWep && !offer.privacy) = false := by
      cases hdynamic : p.unicast.isDynamicWep with
      | false => rfl
      | true => simp [hprivacy hdynamic]
    rw [hwep, bind_agreeRsn?_eq_none_iff.mpr hrefused] at h
    have hcapable := h g hg
    rw [not_protectionCapable_of_wpa hg] at hcapable
    cases hcapable
  · intro h g hg
    split at hg
    · cases hg
    · rename_i hwep
      cases hrsn : offer.rsn.bind p.agreeRsn? with
      | some g' =>
        rw [hrsn, Option.some_or] at hg
        cases hg
        exact hdemands.of_rsn hrsn
      | none =>
        rw [hrsn, Option.none_or] at hg
        refine absurd ⟨fun hdynamic => ?_, bind_agreeRsn?_eq_none_iff.mp hrsn, ?_⟩ h
        · simpa [hdynamic] using hwep
        · exact isSome_bind_agreeWpa?_iff.mp (Option.isSome_of_eq_some hg)

end SecurityProfile

namespace MixedNetwork

def profile : SecurityProfile :=
  ⟨[.rsnPsk, .wpaPsk], .tkip, [.tkip], some ⟨true, true, true⟩⟩

def rsn (capabilities : UInt16) : RsnElement :=
  ⟨1, ⟨.rsn, 2⟩, [⟨.rsn, 2⟩], [⟨.rsn, 2⟩], ⟨capabilities⟩, [], none⟩

def offer (capabilities : UInt16) : SecurityOffer where
  privacy := true
  rsn := some (rsn capabilities)
  wpa := some ⟨1, ⟨.wpa, 2⟩, [⟨.wpa, 2⟩], [⟨.wpa, 2⟩]⟩
  wapi := none

private theorem demands : profile.Demands := ⟨⟨true, true, true⟩, rfl, rfl, rfl⟩

theorem protection_met_rsn : profile.unicast.isNegotiated = true ∧ profile.Demands ∧
    profile.negotiate? (offer 0x80) =
      some ⟨.rsnPsk, .tkip, .tkip, true, false, some ⟨0x80⟩⟩ ∧
    ¬ profile.FallsBack (offer 0x80) := by
  have hagreed : profile.negotiate? (offer 0x80) =
      some ⟨.rsnPsk, .tkip, .tkip, true, false, some ⟨0x80⟩⟩ := by decide
  refine ⟨rfl, demands, hagreed, (SecurityProfile.protection_met_iff rfl demands).mp ?_⟩
  intro g hg
  rw [hagreed] at hg
  cases hg
  rfl

/-- Where it does not, it is turned down for that, and the network is joined on its WPA element. -/
theorem not_protection_met_wpa : profile.unicast.isNegotiated = true ∧ profile.Demands ∧
    profile.agreeRsn? (rsn 0) = none ∧
    ¬ ∀ g, profile.negotiate? (offer 0) = some g → g.protectionCapable = true := by
  refine ⟨rfl, demands, by decide, fun h => ?_⟩
  have hcapable := h ⟨.wpaPsk, .tkip, .tkip, false, false, none⟩ (by decide)
  cases hcapable

end MixedNetwork

end Hotspot
