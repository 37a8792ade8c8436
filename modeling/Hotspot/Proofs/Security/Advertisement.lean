import Hotspot.Proofs.Security.Agreement

/-!
What becomes of an agreement when a network announces other lists of selectors. Only which selectors
a list has counts, neither their order nor how often they are repeated. Main statement: a network
that announces more stays joinable, and as long as the same element decides, the way to authenticate
comes no later in the profile's order.
-/

set_option autoImplicit false
set_option relaxedAutoImplicit false

namespace Hotspot

section Rel

variable {α : Type} {R : α → α → Prop} {o o' : Option α} {a b : α}

private theorem exists_of_rel (h : Option.Rel R o o') (ha : o = some a) :
    ∃ b, o' = some b ∧ R a b := by
  subst ha
  cases h with
  | some hr => exact ⟨_, rfl, hr⟩

private theorem rel_of_eq_some (h : Option.Rel R o o') (ha : o = some a) (hb : o' = some b) :
    R a b := by
  subst ha hb
  cases h with
  | some hr => exact hr

private theorem exists_of_rel_of_rel (h : Option.Rel R o o') (h' : Option.Rel R o' o)
    (ha : o = some a) : ∃ b, o' = some b ∧ R a b ∧ R b a := by
  subst ha
  cases h with
  | some hr =>
    cases h' with
    | some hr' => exact ⟨_, rfl, hr, hr'⟩

private theorem eq_none_of_rel (h : Option.Rel R o o') (ho : o = none) : o' = none := by
  subst ho
  cases h with
  | none => rfl

end Rel

/-- The other terms have the same group cipher and leave out no selector. -/
structure Terms.Within (t t' : Terms) : Prop where
  family : t'.family = t.family
  group : t'.group = t.group
  pairwise : t.pairwise ⊆ t'.pairwise
  methods : t.methods ⊆ t'.methods

/-- The other offer has the same elements, except that their lists of selectors may have more. -/
structure SecurityOffer.Within (offer wider : SecurityOffer) : Prop where
  privacy : wider.privacy = offer.privacy
  rsn : Option.Rel (fun e e' => e.terms.Within e'.terms ∧ e'.capabilities = e.capabilities)
    offer.rsn wider.rsn
  wpa : Option.Rel (fun e e' => e.terms.Within e'.terms) offer.wpa wider.wpa
  wapi : Option.Rel (fun e e' => e.terms.Within e'.terms) offer.wapi wider.wapi

namespace Terms.Within

variable {t t' : Terms}

private theorem groups_iff (h : t.Within t') (e : Encryption) : t'.Groups e ↔ t.Groups e := by
  unfold Groups
  rw [h.family, h.group]

private theorem carries (h : t.Within t') {e : Encryption} (he : t.Carries e) : t'.Carries e := by
  rcases he with ⟨s, hs, hmem⟩ | ⟨⟨s, hs, hmem⟩, hgroup⟩
  · exact .inl ⟨s, h.family ▸ hs, h.pairwise hmem⟩
  · exact .inr ⟨⟨s, h.family ▸ hs, h.pairwise hmem⟩, (h.groups_iff e).mpr hgroup⟩

private theorem announces (h : t.Within t') {a : Authentication} (ha : t.Announces a) :
    t'.Announces a := by
  obtain ⟨s, hs, hmem⟩ := ha
  exact ⟨s, h.family ▸ hs, h.methods hmem⟩

end Terms.Within

namespace SecurityProfile

variable {p : SecurityProfile} {t t' : Terms} {offer wider : SecurityOffer} {source : Option Family}
  {g g' : Agreement} {a a' : Authentication} {m m' : Encryption}

private theorem receives_iff_of_within (h : t.Within t') : p.Receives t' m ↔ p.Receives t m := by
  unfold Receives
  rw [h.groups_iff, Foremost.congr h.groups_iff]

private theorem Fits.mono (hfits : p.Fits t) (h : t.Within t') : p.Fits t' := by
  have hgroups : ∀ e, t.Groups e → t'.Groups e := fun e => (h.groups_iff e).mpr
  obtain ⟨a, hmem, ha⟩ := hfits.authentication
  refine ⟨h.carries hfits.unicast, ?_, a, hmem, h.announces ha⟩
  rcases hfits.multicast with ⟨hany, m, hkeys, hm⟩ | ⟨m, hmem, hm⟩
  · exact .inl ⟨hany, m, hkeys, hgroups m hm⟩
  · exact .inr ⟨m, hmem, hgroups m hm⟩

private theorem Chooses.of_within (hchooses : p.Chooses t a m) (h : t.Within t')
    (h' : t'.Within t) : p.Chooses t' a m where
  unicast := h.carries hchooses.unicast
  multicast := (receives_iff_of_within h).mpr hchooses.multicast
  authentication :=
    (Foremost.congr fun _ => ⟨h'.announces, h.announces⟩).mpr hchooses.authentication

private theorem Chooses.idxOf_le (hchooses : p.Chooses t a m) (hchooses' : p.Chooses t' a' m')
    (h : t.Within t') : p.authentications.idxOf a' ≤ p.authentications.idxOf a :=
  hchooses.authentication.idxOf_le hchooses'.authentication fun _ => h.announces

private theorem Opens.idxOf_le (ha : p.Opens a) (ha' : p.Opens a') :
    p.authentications.idxOf a' ≤ p.authentications.idxOf a := by
  unfold Opens at ha ha'
  split at ha
  · rename_i hempty
    rw [hempty]
    exact Nat.le_refl 0
  · rename_i hnonempty
    rw [if_neg hnonempty] at ha'
    exact ha.idxOf_le ha' fun _ h => h

private theorem Admits.mono (hadmits : p.Admits offer) (h : offer.Within wider) :
    p.Admits wider := by
  cases hadmits with
  | unprotected hcipher hprivacy hlegacy =>
    exact .unprotected hcipher (h.privacy.trans hprivacy) hlegacy
  | staticWep hcipher hprivacy hrsn hwpa hgroup hlegacy =>
    exact .staticWep hcipher (h.privacy.trans hprivacy) (eq_none_of_rel h.rsn hrsn)
      (eq_none_of_rel h.wpa hwpa) hgroup hlegacy
  | wapi e hcipher he hterms =>
    obtain ⟨e', he', hwithin⟩ := exists_of_rel h.wapi he
    exact .wapi e' hcipher he' (hterms.mono hwithin)
  | rsn e hcipher hprivacy he hterms hpolicy =>
    obtain ⟨e', he', hwithin, hcapabilities⟩ := exists_of_rel h.rsn he
    exact .rsn e' hcipher (fun hwep => h.privacy.trans (hprivacy hwep)) he' (hterms.mono hwithin)
      (hcapabilities ▸ hpolicy)
  | wpa e hcipher hprivacy he hterms =>
    obtain ⟨e', he', hwithin⟩ := exists_of_rel h.wpa he
    exact .wpa e' hcipher (fun hwep => h.privacy.trans (hprivacy hwep)) he' (hterms.mono hwithin)

private theorem Concludes.of_within (hg : p.Concludes offer source g) (h : offer.Within wider)
    (h' : wider.Within offer) : p.Concludes wider source g := by
  cases hg with
  | unprotected a hcipher hprivacy ha =>
    exact .unprotected a hcipher (h.privacy.trans hprivacy) ha
  | staticWep a hcipher hprivacy hrsn hwpa hgroup ha =>
    exact .staticWep a hcipher (h.privacy.trans hprivacy) (eq_none_of_rel h.rsn hrsn)
      (eq_none_of_rel h.wpa hwpa) hgroup ha
  | wapi e a m hcipher he hterms =>
    obtain ⟨e', he', hwithin, hwithin'⟩ := exists_of_rel_of_rel h.wapi h'.wapi he
    exact .wapi e' a m hcipher he' (hterms.of_within hwithin hwithin')
  | rsn e a m hcipher hprivacy he hterms hpolicy =>
    obtain ⟨e', he', ⟨hwithin, hcapabilities⟩, hwithin', -⟩ := exists_of_rel_of_rel h.rsn h'.rsn he
    rw [← hcapabilities] at hpolicy ⊢
    exact .rsn e' a m hcipher (fun hwep => h.privacy.trans (hprivacy hwep)) he'
      (hterms.of_within hwithin hwithin') hpolicy
  | wpa e a m hcipher hprivacy hrsn he hterms =>
    obtain ⟨e', he', hwithin, hwithin'⟩ := exists_of_rel_of_rel h.wpa h'.wpa he
    -- An RSN element that does would have done with the selectors of the first network too. This is
    -- where the other direction is needed: more selectors could turn the refusal around.
    have hrefused : ∀ e, wider.rsn = some e → ¬ (p.Fits e.terms ∧ p.Permits e.capabilities) := by
      rintro e hwider ⟨hfits, hpermits⟩
      obtain ⟨e₀, hoffer, hwithin, hcapabilities⟩ := exists_of_rel h'.rsn hwider
      exact hrsn e₀ hoffer ⟨hfits.mono hwithin, hcapabilities ▸ hpermits⟩
    exact .wpa e' a m hcipher (fun hwep => h.privacy.trans (hprivacy hwep)) hrefused he'
      (hterms.of_within hwithin hwithin')

private theorem Concludes.opens (hg : p.Concludes offer none g) : p.Opens g.authentication := by
  cases hg with
  | unprotected a _ _ ha => exact ha
  | staticWep a _ _ _ _ _ ha => exact ha

/-- Of two conclusions from the same element, or from none, the one for the network that announces
more has a way to authenticate that comes no later in the profile's order. -/
private theorem Concludes.idxOf_le (hg : p.Concludes offer source g)
    (hg' : p.Concludes wider source g') (h : offer.Within wider) :
    p.authentications.idxOf g'.authentication ≤ p.authentications.idxOf g.authentication := by
  cases source with
  | none => exact hg.opens.idxOf_le hg'.opens
  | some family =>
    cases hg with
    | wapi e a m _ he hterms =>
      cases hg' with
      | wapi e' a' m' _ he' hterms' =>
        have hwithin := rel_of_eq_some h.wapi he he'
        exact hterms.idxOf_le hterms' hwithin
    | rsn e a m _ _ he hterms _ =>
      cases hg' with
      | rsn e' a' m' _ _ he' hterms' _ =>
        have hwithin := rel_of_eq_some h.rsn he he'
        exact hterms.idxOf_le hterms' hwithin.1
    | wpa e a m _ _ _ he hterms =>
      cases hg' with
      | wpa e' a' m' _ _ _ he' hterms' =>
        have hwithin := rel_of_eq_some h.wpa he he'
        exact hterms.idxOf_le hterms' hwithin

/-- A network that has the same selectors, in another order or repeated, is joined on the same
terms. One that announces more is joined as well, and from the same element no later way to
authenticate is taken. -/
theorem joinable_of_within (h : offer.Within wider) :
    (wider.Within offer → p.negotiate? wider = p.negotiate? offer) ∧
      ∀ g, p.negotiate? offer = some g → ∃ g', p.negotiate? wider = some g' ∧
        ∀ source, p.Concludes offer source g → p.Concludes wider source g' →
          p.authentications.idxOf g'.authentication ≤
            p.authentications.idxOf g.authentication := by
  constructor
  · intro h'
    refine Option.ext fun g => ?_
    rw [negotiate?_eq_some_iff_concludes, negotiate?_eq_some_iff_concludes]
    exact exists_congr fun source => ⟨fun hg => hg.of_within h' h, fun hg => hg.of_within h h'⟩
  · intro g hg
    -- Only that there is an agreement carries over. Which element it comes from may change.
    have hadmits : p.Admits wider :=
      (isSome_negotiate?_iff.mp (Option.isSome_of_eq_some hg)).mono h
    obtain ⟨g', hg'⟩ := Option.isSome_iff_exists.mp (isSome_negotiate?_iff.mpr hadmits)
    exact ⟨g', hg', fun source hs hs' => hs.idxOf_le hs' h⟩

end SecurityProfile

namespace GrowingNetwork

def profile : SecurityProfile :=
  ⟨[.ftRsnPsk, .rsnPsk], .ccmp, [], none⟩

def rsn (methods : List Suite) : RsnElement :=
  ⟨1, ⟨.rsn, 4⟩, [⟨.rsn, 4⟩], methods, ⟨0⟩, [], none⟩

def offer (methods : List Suite) : SecurityOffer where
  privacy := true
  rsn := some (rsn methods)
  wpa := none
  wapi := none

private theorem within_of_subset {methods methods' : List Suite} (h : methods ⊆ methods') :
    (offer methods).Within (offer methods') where
  privacy := rfl
  rsn := .some ⟨⟨rfl, rfl, List.Subset.refl _, h⟩, rfl⟩
  wpa := .none
  wapi := .none

private theorem concludes {methods : List Suite} {a : Authentication}
    (ha : SecurityProfile.authenticationAgreed? .rsn profile.authentications methods = some a) :
    profile.Concludes (offer methods) (some .rsn) ⟨a, .ccmp, .ccmp, false, false, some ⟨0⟩⟩ := by
  have hcapable : RsnCapabilities.protectionCapable ⟨0⟩ = false := by decide
  have hrequired : RsnCapabilities.protectionRequired ⟨0⟩ = false := by decide
  have hchooses : profile.Chooses (rsn methods).terms a .ccmp :=
    SecurityProfile.settles_iff.mp ⟨rfl, rfl, ha⟩
  have hconcludes : profile.Concludes (offer methods) (some .rsn)
      ⟨a, .ccmp, .ccmp, RsnCapabilities.protectionCapable ⟨0⟩,
        RsnCapabilities.protectionRequired ⟨0⟩, some ⟨0⟩⟩ :=
    .rsn (rsn methods) a .ccmp rfl (fun _ => rfl) rfl hchooses nofun
  rwa [hcapable, hrequired] at hconcludes

theorem joinable_growing :
    (offer [⟨.rsn, 2⟩]).Within (offer [⟨.rsn, 2⟩, ⟨.rsn, 4⟩]) ∧
      profile.negotiate? (offer [⟨.rsn, 2⟩]) =
        some ⟨.rsnPsk, .ccmp, .ccmp, false, false, some ⟨0⟩⟩ ∧
      (∃ g, profile.negotiate? (offer [⟨.rsn, 2⟩, ⟨.rsn, 4⟩]) = some g ∧
        profile.Concludes (offer [⟨.rsn, 2⟩, ⟨.rsn, 4⟩]) (some .rsn) g ∧
        profile.authentications.idxOf g.authentication ≤
          profile.authentications.idxOf .rsnPsk) ∧
      profile.negotiate? (offer [⟨.rsn, 4⟩, ⟨.rsn, 2⟩, ⟨.rsn, 4⟩]) =
        profile.negotiate? (offer [⟨.rsn, 2⟩, ⟨.rsn, 4⟩]) := by
  have hwithin : (offer [⟨.rsn, 2⟩]).Within (offer [⟨.rsn, 2⟩, ⟨.rsn, 4⟩]) :=
    within_of_subset (by decide)
  have hagreed : profile.negotiate? (offer [⟨.rsn, 2⟩]) =
      some ⟨.rsnPsk, .ccmp, .ccmp, false, false, some ⟨0⟩⟩ := by decide
  refine ⟨hwithin, hagreed, ?_, ?_⟩
  · obtain ⟨g, hg, hle⟩ := (SecurityProfile.joinable_of_within hwithin).2 _ hagreed
    have hwider : profile.negotiate? (offer [⟨.rsn, 2⟩, ⟨.rsn, 4⟩]) =
        some ⟨.ftRsnPsk, .ccmp, .ccmp, false, false, some ⟨0⟩⟩ := by decide
    cases hg.symm.trans hwider
    have hsource : profile.Concludes (offer [⟨.rsn, 2⟩, ⟨.rsn, 4⟩]) (some .rsn)
        ⟨.ftRsnPsk, .ccmp, .ccmp, false, false, some ⟨0⟩⟩ := concludes (by decide)
    exact ⟨_, hg, hsource, hle (some .rsn) (concludes (by decide)) hsource⟩
  · refine (SecurityProfile.joinable_of_within ?_).1 ?_ <;>
      exact within_of_subset (by decide)

end GrowingNetwork

end Hotspot
