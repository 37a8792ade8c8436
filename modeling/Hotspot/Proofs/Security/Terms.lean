import Hotspot.Security.Negotiation

/-!
The terms on which an element offers protection. RSN and WPA are negotiated alike: a profile settles
on terms if it finds in them a cipher for unicast frames, one for the group and a way to
authenticate. RSN asks the policy on management frames as well, WPA does not know of one.
-/

set_option autoImplicit false
set_option relaxedAutoImplicit false

namespace Hotspot

structure Terms where
  family : Family
  pairwise : List Suite
  group : Suite
  methods : List Suite
  deriving DecidableEq

def RsnElement.terms (e : RsnElement) : Terms :=
  ⟨.rsn, e.pairwiseCiphers, e.groupCipher, e.methods⟩

def WpaElement.terms (e : WpaElement) : Terms :=
  ⟨.wpa, e.pairwiseCiphers, e.groupCipher, e.methods⟩

def WapiElement.terms (e : WapiElement) : Terms :=
  ⟨.wapi, e.pairwiseCiphers, e.groupCipher, e.methods⟩

/-- The encryption is agreed on by way of RSN or WPA: it is not for networks without protection, its
keys are delivered, and it is not that of WAPI. -/
def Encryption.isNegotiated (e : Encryption) : Bool :=
  e != .none && !e.isStaticWep && e != .wpi

namespace SecurityProfile

variable {p : SecurityProfile} {offer : SecurityOffer} {g : Agreement}

structure Settles (p : SecurityProfile) (t : Terms) (authentication : Authentication)
    (multicast : Encryption) : Prop where
  unicast : unicastOffered t.family p.unicast.cipher t.pairwise t.group = true
  multicast : multicastAgreed? t.family p.multicast t.group = some multicast
  authentication : authenticationAgreed? t.family p.authentications t.methods = some authentication

def Suits (p : SecurityProfile) (t : Terms) : Prop :=
  ∃ authentication multicast, p.Settles t authentication multicast

/-- The policy on management frames, if there is one, agrees with the capabilities. -/
def Tolerates (p : SecurityProfile) (c : RsnCapabilities) : Prop :=
  ∀ policy ∈ p.protection, policy.agrees c.protectionCapable c.protectionRequired = true

private theorem guard_bind_eq_some {α : Type} {c : Prop} [Decidable c] {f : Unit → Option α}
    {a : α} : (guard c >>= f) = some a ↔ c ∧ f () = some a := by
  unfold guard
  by_cases hc : c
  · rw [if_pos hc]
    exact (and_iff_right hc).symm
  · rw [if_neg hc]
    exact ⟨nofun, fun h => absurd h.1 hc⟩

private theorem search_eq_some_iff {t : Terms}
    {f : Encryption → Authentication → Option Agreement} : (do
      guard (unicastOffered t.family p.unicast.cipher t.pairwise t.group)
      let multicast ← multicastAgreed? t.family p.multicast t.group
      let authentication ← authenticationAgreed? t.family p.authentications t.methods
      f multicast authentication) = some g ↔
      ∃ authentication multicast, p.Settles t authentication multicast ∧
        f multicast authentication = some g := by
  constructor
  · intro h
    obtain ⟨hu, h⟩ := guard_bind_eq_some.mp h
    obtain ⟨m, hm, h⟩ := Option.bind_eq_some_iff.mp h
    obtain ⟨a, ha, h⟩ := Option.bind_eq_some_iff.mp h
    exact ⟨a, m, ⟨hu, hm, ha⟩, h⟩
  · rintro ⟨a, m, ⟨hu, hm, ha⟩, h⟩
    refine guard_bind_eq_some.mpr ⟨hu, ?_⟩
    exact Option.bind_eq_some_iff.mpr ⟨m, hm, Option.bind_eq_some_iff.mpr ⟨a, ha, h⟩⟩

theorem agreeRsn?_eq_some_iff {e : RsnElement} : p.agreeRsn? e = some g ↔
    p.Tolerates e.capabilities ∧ ∃ authentication multicast,
      p.Settles e.terms authentication multicast ∧
        g = ⟨authentication, p.unicast, multicast, e.capabilities.protectionCapable,
          e.capabilities.protectionRequired, some e.capabilities⟩ := by
  refine (search_eq_some_iff (t := e.terms)).trans ?_
  constructor
  · rintro ⟨a, m, hs, h⟩
    obtain ⟨hp, h⟩ := guard_bind_eq_some.mp h
    exact ⟨(Option.all_eq_true _ _).mp hp, a, m, hs, (Option.some.inj h).symm⟩
  · rintro ⟨hp, a, m, hs, rfl⟩
    exact ⟨a, m, hs, guard_bind_eq_some.mpr ⟨(Option.all_eq_true _ _).mpr hp, rfl⟩⟩

theorem agreeWpa?_eq_some_iff {e : WpaElement} : p.agreeWpa? e = some g ↔
    ∃ authentication multicast, p.Settles e.terms authentication multicast ∧
      g = ⟨authentication, p.unicast, multicast, false, false, none⟩ := by
  refine (search_eq_some_iff (t := e.terms)).trans ?_
  exact exists₂_congr fun a m => and_congr_right fun _ => Option.some_inj.trans eq_comm

private theorem unicastOffered_wapi (hcipher : p.unicast = .wpi) (pairwise : List Suite)
    (group : Suite) :
    unicastOffered .wapi p.unicast.cipher pairwise group =
      (Cipher.wpi.offered? .wapi pairwise).isSome := by
  rw [hcipher]
  exact Bool.or_false _

theorem agreeWapi?_eq_some_iff (hcipher : p.unicast = .wpi) {e : WapiElement} :
    p.agreeWapi? e = some g ↔
      ∃ authentication multicast, p.Settles e.terms authentication multicast ∧
        g = ⟨authentication, p.unicast, multicast, false, false, none⟩ := by
  unfold agreeWapi?
  rw [← unicastOffered_wapi hcipher e.pairwiseCiphers e.groupCipher, ← hcipher]
  refine (search_eq_some_iff (t := e.terms)).trans ?_
  exact exists₂_congr fun a m => and_congr_right fun _ => Option.some_inj.trans eq_comm

private theorem agreeRsn?_eq_none_iff {e : RsnElement} :
    p.agreeRsn? e = none ↔ ¬ (p.Suits e.terms ∧ p.Tolerates e.capabilities) := by
  rw [Option.eq_none_iff_forall_ne_some]
  constructor
  · rintro h ⟨⟨a, m, hs⟩, hp⟩
    exact h _ (agreeRsn?_eq_some_iff.mpr ⟨hp, a, m, hs, rfl⟩)
  · rintro h g hg
    obtain ⟨hp, a, m, hs, -⟩ := agreeRsn?_eq_some_iff.mp hg
    exact h ⟨⟨a, m, hs⟩, hp⟩

theorem bind_agreeRsn?_eq_none_iff : offer.rsn.bind p.agreeRsn? = none ↔
    ∀ e, offer.rsn = some e → ¬ (p.Suits e.terms ∧ p.Tolerates e.capabilities) := by
  rw [Option.bind_eq_none_iff]
  exact forall₂_congr fun e _ => agreeRsn?_eq_none_iff

theorem isSome_agreeWpa?_iff {e : WpaElement} : (p.agreeWpa? e).isSome ↔ p.Suits e.terms := by
  rw [Option.isSome_iff_exists]
  constructor
  · rintro ⟨g, hg⟩
    obtain ⟨a, m, hs, -⟩ := agreeWpa?_eq_some_iff.mp hg
    exact ⟨a, m, hs⟩
  · rintro ⟨a, m, hs⟩
    exact ⟨_, agreeWpa?_eq_some_iff.mpr ⟨a, m, hs, rfl⟩⟩

/-- A negotiated encryption is looked for in the RSN element first and in the WPA element if there
is no agreement on RSN; delivered WEP keys are for networks that ask for privacy. -/
theorem negotiate?_of_isNegotiated (h : p.unicast.isNegotiated = true) : p.negotiate? offer =
    if p.unicast.isDynamicWep && !offer.privacy then none
    else (offer.rsn.bind p.agreeRsn?).or (offer.wpa.bind p.agreeWpa?) := by
  unfold negotiate?
  cases hu : p.unicast <;> first | rfl | (rw [hu] at h; cases h)

end SecurityProfile

end Hotspot
