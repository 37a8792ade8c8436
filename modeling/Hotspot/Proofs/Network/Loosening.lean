import Hotspot.Network.Criteria
import Hotspot.Proofs.Security.Agreement

/-!
Criteria that ask for less. To name one more alternative, to drop a demand or to support one more
feature keeps every network that matched, with one exception: the first fast transition that a
profile names ties the attempt to the mobility domain it asks for. Main statement: a network that
matched is lost exactly if it is outside that domain.
-/

set_option autoImplicit false
set_option relaxedAutoImplicit false

namespace Hotspot

/-- The other list keeps every alternative. One without any stands for all and is not added to. -/
structure Broadens {α : Type} (l l' : List α) : Prop where
  kept : l ⊆ l'
  any : l = [] → l' = []

/-- The other set keeps every mode. The empty set stands for all and is not added to. -/
structure RadioModes.Broadens (s s' : RadioModes) : Prop where
  kept : s.bits &&& s'.bits = s.bits
  any : s.bits = 0 → s'.bits = 0

structure SecurityProfile.Loosens (p p' : SecurityProfile) : Prop where
  authentications : Broadens p.authentications p'.authentications
  unicast : p'.unicast = p.unicast
  multicast : Broadens p.multicast p'.multicast
  protection : p'.protection = p.protection

/-- The other criteria name more alternatives or ask for less, and are the same in all else. -/
structure Criteria.Loosens (c c' : Criteria) : Prop where
  names : Broadens c.names c'.names
  nameRequired : c'.nameRequired = true → c.nameRequired = true
  addresses : Broadens c.addresses c'.addresses
  channels : Broadens c.channels c'.channels
  radioModes : c.radioModes.Broadens c'.radioModes
  kind : c'.kind = c.kind
  security : c.security.Loosens c'.security
  country : c'.country = c.country
  peerToPeerOnly : c'.peerToPeerOnly = c.peerToPeerOnly
  protectedSetup : c'.protectedSetup = c.protectedSetup
  osen : c'.osen = c.osen
  mobilityDomain : c'.mobilityDomain = c.mobilityDomain

/-- The other preferences ask for less, support more and avoid fewer networks. -/
structure Preferences.Loosens (p p' : Preferences) : Prop where
  heedCountry : p'.heedCountry = true → p.heedCountry = true
  qualityOfServiceOnly : p'.qualityOfServiceOnly = true → p.qualityOfServiceOnly = true
  rateFeatures : p'.rateFeatures.covers p.rateFeatures = true
  avoided : p'.avoided ⊆ p.avoided

namespace Broadens

variable {α : Type} {l l' : List α}

private theorem append (hl : l ≠ []) (more : List α) : Broadens l (l ++ more) :=
  ⟨List.subset_append_left l more, fun h => absurd h hl⟩

private theorem refl (l : List α) : Broadens l l :=
  ⟨List.Subset.refl l, id⟩

private theorem exists_mem (h : Broadens l l') {P : α → Prop} (hl : ∃ a ∈ l, P a) : ∃ a ∈ l',
    P a := by
  obtain ⟨a, hmem, ha⟩ := hl
  exact ⟨a, h.kept hmem, ha⟩

private theorem any_or_exists_mem (h : Broadens l l') {P : α → Prop} (hl : l = [] ∨ ∃ a ∈ l, P a) :
    l' = [] ∨ ∃ a ∈ l', P a :=
  hl.imp h.any h.exists_mem

end Broadens

namespace SecurityProfile

variable {p p' : SecurityProfile} {t : Terms} {offer : SecurityOffer}

private theorem Fits.loosen (hfits : p.Fits t) (h : p.Loosens p') : p'.Fits t where
  unicast := h.unicast ▸ hfits.unicast
  multicast := by
    rcases hfits.multicast with ⟨hany, hknown⟩ | hnamed
    · exact .inl ⟨h.multicast.any hany, hknown⟩
    · exact .inr (h.multicast.exists_mem hnamed)
  authentication := h.authentications.exists_mem hfits.authentication

private theorem Permits.loosen {c : RsnCapabilities} (hc : p.Permits c) (h : p.Loosens p') :
    p'.Permits c := by
  intro policy hpolicy
  exact hc policy (h.protection.symm.trans hpolicy)

private theorem Admits.loosen (hadmits : p.Admits offer) (h : p.Loosens p') : p'.Admits offer := by
  cases hadmits with
  | unprotected hcipher hprivacy hlegacy =>
    exact .unprotected (h.unicast.trans hcipher) hprivacy
      (h.authentications.any_or_exists_mem hlegacy)
  | staticWep hcipher hprivacy hrsn hwpa hgroup hlegacy =>
    rw [← h.unicast] at hcipher hgroup
    exact .staticWep hcipher hprivacy hrsn hwpa
      (hgroup.imp h.multicast.any fun hmem => h.multicast.kept hmem)
      (h.authentications.any_or_exists_mem hlegacy)
  | wapi e hcipher he hterms =>
    exact .wapi e (h.unicast.trans hcipher) he (hterms.loosen h)
  | rsn e hcipher hprivacy he hterms hpolicy =>
    rw [← h.unicast] at hcipher hprivacy
    exact .rsn e hcipher hprivacy he (hterms.loosen h) (hpolicy.loosen h)
  | wpa e hcipher hprivacy he hterms =>
    rw [← h.unicast] at hcipher hprivacy
    exact .wpa e hcipher hprivacy he (hterms.loosen h)

end SecurityProfile

private theorem RateFeatures.covers_iff {present needed : RateFeatures} :
    present.covers needed = true ↔
      (needed.extendedSelectors = true → present.extendedSelectors = true) ∧
        (needed.channelBonding = true → present.channelBonding = true) ∧
          (needed.multiStream = true → present.multiStream = true) := by
  obtain ⟨e, b, s⟩ := needed
  cases e <;> cases b <;> cases s <;> simp [RateFeatures.covers, and_assoc]

private theorem RateFeatures.covers_trans {f g needed : RateFeatures} (hfg : f.covers g = true)
    (hg : g.covers needed = true) : f.covers needed = true := by
  rw [covers_iff] at *
  exact ⟨hfg.1 ∘ hg.1, hfg.2.1 ∘ hg.2.1, hfg.2.2 ∘ hg.2.2⟩

private theorem Rate.isSupported_of_covers {f g : RateFeatures} (hfg : f.covers g = true)
    {rate : UInt8} (h : Rate.isSupported g rate = true) : Rate.isSupported f rate = true := by
  obtain ⟨needed, hneeds, hg⟩ := (Option.any_eq_true _ _).mp h
  exact (Option.any_eq_true _ _).mpr ⟨needed, hneeds, RateFeatures.covers_trans hfg hg⟩

private theorem Rate.basicSupported_of_covers {f g : RateFeatures} (hfg : f.covers g = true)
    {rates : List UInt8} (h : Rate.basicSupported g rates = true) :
    Rate.basicSupported f rates = true := by
  unfold basicSupported at *
  rw [List.all_eq_true] at *
  exact fun rate hmem => isSupported_of_covers hfg (h rate hmem)

private theorem RadioModes.Broadens.intersects {s s' modes : RadioModes} (h : s.Broadens s')
    (hs : s.intersects modes = true) : s'.intersects modes = true := by
  unfold RadioModes.intersects at *
  rw [bne_iff_ne] at *
  intro hnone
  apply hs
  calc s.bits &&& modes.bits = (s.bits &&& s'.bits) &&& modes.bits := by rw [h.kept]
    _ = s.bits &&& (s'.bits &&& modes.bits) := UInt8.and_assoc ..
    _ = 0 := by rw [hnone, UInt8.and_zero]

namespace Criteria

variable {c c' : Criteria} {p p' : Preferences} {n : Network}

private theorem acceptsName_iff {name : NetworkName} : c.acceptsName name = true ↔
    (c.names = [] ∨ ∃ wild ∈ c.names, wild.isWildcard = true) ∨
      if name.isHidden then c.nameRequired = false else name ∈ c.names := by
  have hany : (c.names.isEmpty || c.names.any NetworkName.isWildcard) = true ↔
      (c.names = [] ∨ ∃ wild ∈ c.names, wild.isWildcard = true) := by
    simp
  unfold acceptsName
  split
  · rename_i h
    exact iff_of_true rfl (.inl (hany.mp h))
  · rename_i h
    rw [or_iff_right (mt hany.mpr h)]
    split <;> simp

private theorem acceptsName_loosen (h : c.Loosens c') {name : NetworkName}
    (hname : c.acceptsName name = true) : c'.acceptsName name = true := by
  rw [acceptsName_iff] at *
  rcases hname with hany | hname
  · exact .inl (h.names.any_or_exists_mem hany)
  · right
    split
    · rw [if_pos ‹_›] at hname
      exact Bool.eq_false_iff.mpr fun hrequired =>
        Bool.eq_false_iff.mp hname (h.nameRequired hrequired)
    · rw [if_neg ‹_›] at hname
      exact h.names.kept hname

private theorem acceptsAddress_iff : c.acceptsAddress n = true ↔
    (c.addresses = [] ∨ ∃ wild ∈ c.addresses, wild.isWildcard = true) ∨
      ∃ a ∈ c.addresses, a = n.address ∨ c.peerToPeerOnly = true ∧ n.peerAddress = some a := by
  simp [acceptsAddress]

private theorem acceptsAddress_loosen (h : c.Loosens c') (haddress : c.acceptsAddress n = true) :
    c'.acceptsAddress n = true := by
  rw [acceptsAddress_iff] at *
  rw [h.peerToPeerOnly]
  exact haddress.imp h.addresses.any_or_exists_mem h.addresses.exists_mem

private theorem acceptsChannel_loosen (h : c.Loosens c') {channel : Channel}
    (hchannel : c.acceptsChannel channel = true) : c'.acceptsChannel channel = true := by
  have haccepts : ∀ c : Criteria,
      c.acceptsChannel channel = true ↔ c.channels = [] ∨ channel ∈ c.channels := by
    simp [acceptsChannel]
  rw [haccepts] at *
  exact hchannel.imp h.channels.any fun hmem => h.channels.kept hmem

private theorem acceptsModes_loosen (h : c.Loosens c') {modes : RadioModes}
    (hmodes : c.acceptsModes modes = true) : c'.acceptsModes modes = true := by
  have haccepts : ∀ c : Criteria, c.acceptsModes modes = true ↔
      c.radioModes.bits = 0 ∨ c.radioModes.intersects modes = true := by
    simp [acceptsModes, RadioModes.isAny]
  rw [haccepts] at *
  exact hmodes.imp h.radioModes.any h.radioModes.intersects

private theorem acceptsCountry_loosen (hc : c.Loosens c') (hp : p.Loosens p')
    {found : Option CountryLetters} (hcountry : c.acceptsCountry p found = true) :
    c'.acceptsCountry p' found = true := by
  unfold acceptsCountry at *
  rw [hc.country]
  cases husable : p'.heedCountry with
  | false => rfl
  | true =>
    rw [hp.heedCountry husable] at hcountry
    exact hcountry

/-- The checks that look neither at security nor at the mobility domain. -/
structure Passes (c : Criteria) (p : Preferences) (n : Network) : Prop where
  peerToPeer : c.peerToPeerOnly = true → n.peerToPeer = true
  avoided : n.address ∉ p.avoided
  name : c.acceptsName n.name = true
  address : c.acceptsAddress n = true
  channel : c.acceptsChannel n.channel = true
  modes : c.acceptsModes n.radioModes = true
  kind : c.kind.accepts n.capability = true
  rates : Rate.basicSupported p.rateFeatures n.rates = true
  quality : p.qualityOfServiceOnly = true →
    n.multimedia = true ∨ n.capability.qualityOfService = true
  country : c.acceptsCountry p n.country = true

private theorem Passes.loosen (h : c.Passes p n) (hc : c.Loosens c') (hp : p.Loosens p') :
    c'.Passes p' n where
  peerToPeer honly := h.peerToPeer (hc.peerToPeerOnly.symm.trans honly)
  avoided hmem := h.avoided (hp.avoided hmem)
  name := acceptsName_loosen hc h.name
  address := acceptsAddress_loosen hc h.address
  channel := acceptsChannel_loosen hc h.channel
  modes := acceptsModes_loosen hc h.modes
  kind := hc.kind ▸ h.kind
  rates := Rate.basicSupported_of_covers hp.rateFeatures h.rates
  quality honly := h.quality (hp.qualityOfServiceOnly honly)
  country := acceptsCountry_loosen hc hp h.country

/-- The network is outside the mobility domain that the criteria ask for, and a fast transition is
among the ways to authenticate. -/
def OutsideMobility (c : Criteria) (n : Network) : Prop :=
  ∃ id, c.mobilityDomain = some id ∧
    (∃ a ∈ c.security.authentications, a.isFastTransition = true) ∧
      ∀ domain, n.mobilityDomain = some domain → domain.id ≠ id

private theorem acceptsDomain_iff :
    c.acceptsDomain n.mobilityDomain = true ↔ ¬ c.OutsideMobility n := by
  unfold acceptsDomain OutsideMobility
  cases c.mobilityDomain with
  | none => simp
  | some id =>
    cases n.mobilityDomain with
    | none => simp
    | some domain => by_cases hdomain : domain.id = id <;> simp [hdomain]

private theorem accepts_iff : c.accepts p n = true ↔ c.Passes p n ∧ ¬ c.OutsideMobility n := by
  have hpeer : (!c.peerToPeerOnly || n.peerToPeer) = true ↔
      (c.peerToPeerOnly = true → n.peerToPeer = true) := by
    cases c.peerToPeerOnly <;> simp
  have havoided : (!p.avoided.contains n.address) = true ↔ n.address ∉ p.avoided := by
    simp
  have hquality :
      (!p.qualityOfServiceOnly || n.multimedia || n.capability.qualityOfService) = true ↔
        (p.qualityOfServiceOnly = true →
          n.multimedia = true ∨ n.capability.qualityOfService = true) := by
    cases p.qualityOfServiceOnly <;> simp
  rw [← acceptsDomain_iff]
  unfold accepts
  simp only [Bool.and_eq_true, hpeer, havoided, hquality]
  constructor
  · rintro ⟨⟨⟨⟨⟨⟨⟨⟨⟨⟨hpeer, havoided⟩, hname⟩, haddress⟩, hchannel⟩, hmodes⟩, hkind⟩, hrates⟩,
      hquality⟩, hcountry⟩, hdomain⟩
    exact ⟨⟨hpeer, havoided, hname, haddress, hchannel, hmodes, hkind, hrates, hquality, hcountry⟩,
      hdomain⟩
  · rintro ⟨⟨hpeer, havoided, hname, haddress, hchannel, hmodes, hkind, hrates, hquality, hcountry⟩,
      hdomain⟩
    exact ⟨⟨⟨⟨⟨⟨⟨⟨⟨⟨hpeer, havoided⟩, hname⟩, haddress⟩, hchannel⟩, hmodes⟩, hkind⟩, hrates⟩,
      hquality⟩, hcountry⟩, hdomain⟩

private theorem isMatch_iff : c.isMatch p n = true ↔ (c.Passes p n ∧ ¬ c.OutsideMobility n) ∧
    (c.skipsAgreement = true ∨ c.security.Admits n.security) := by
  rw [← accepts_iff, ← SecurityProfile.isSome_negotiate?_iff]
  unfold isMatch match?
  cases c.accepts p n <;> cases c.skipsAgreement <;> simp

/-- A network that matched is lost under looser criteria and preferences exactly if it is outside
the mobility domain. -/
theorem isMatch_loosened_iff (hc : c.Loosens c') (hp : p.Loosens p')
    (hmatch : c.isMatch p n = true) : c'.isMatch p' n = true ↔ ¬ c'.OutsideMobility n := by
  rw [isMatch_iff] at hmatch ⊢
  obtain ⟨⟨hresponds, -⟩, hsecurity⟩ := hmatch
  have hsecurity' : c'.skipsAgreement = true ∨ c'.security.Admits n.security := by
    refine hsecurity.imp (fun hskips => ?_) fun hadmits => hadmits.loosen hc.security
    unfold skipsAgreement at *
    rw [hc.protectedSetup, hc.osen, hskips]
  rw [and_iff_left hsecurity', and_iff_right (hresponds.loosen hc hp)]

end Criteria

namespace OfficeNetwork

def address : HardwareAddress := ⟨[0x00, 0x11, 0x22, 0x33, 0x44, 0x55], rfl⟩

/-- It announces a pass phrase in an RSN element and belongs to no mobility domain. -/
def network : Network where
  address
  name := ⟨[0x63, 0x6F, 0x72, 0x70]⟩
  channel := 36
  capability := ⟨0x0011⟩
  beaconInterval := 100
  rates := [0x8C, 0x12]
  highThroughput := false
  veryHighThroughput := false
  multimedia := true
  protectedSetup := false
  peerToPeer := false
  peerAddress := none
  security := ⟨true, some ⟨1, ⟨.rsn, 4⟩, [⟨.rsn, 4⟩], [⟨.rsn, 2⟩], ⟨0⟩, [], none⟩, none, none⟩
  country := some ⟨0x44, 0x45⟩
  mobilityDomain := none
  elements := []

def criteria : Criteria where
  names := [network.name]
  nameRequired := true
  addresses := [address]
  channels := [36]
  radioModes := .a
  kind := .infrastructure
  security := .passphrase
  country := some ⟨0x64, 0x65⟩
  peerToPeerOnly := false
  protectedSetup := false
  osen := false
  mobilityDomain := some 0x1234

/-- Another name, address, channel, mode, way to authenticate and group cipher is accepted, and a
hidden name as well. -/
def wider : Criteria :=
  { criteria with
    names := criteria.names ++ [⟨[0x6C, 0x61, 0x62]⟩]
    nameRequired := false
    addresses := criteria.addresses ++ [.broadcast]
    channels := criteria.channels ++ [40]
    radioModes := criteria.radioModes.union .n
    security.authentications := criteria.security.authentications ++ [.sae]
    security.multicast := criteria.security.multicast ++ [.tkip] }

def faster : Criteria :=
  { criteria with
    security.authentications := criteria.security.authentications ++ [.ftRsnPsk] }

/-- Countries are heeded, quality of service is asked for, no rate has features, and some network is
avoided. -/
def strict : Preferences := ⟨true, true, .none, [.zero]⟩

def easy : Preferences := ⟨false, false, .all, []⟩

private theorem criteria_loosens_wider : criteria.Loosens wider where
  names := .append (List.cons_ne_nil _ _) _
  nameRequired := nofun
  addresses := .append (List.cons_ne_nil _ _) _
  channels := .append (List.cons_ne_nil _ _) _
  radioModes := ⟨by decide, by decide⟩
  kind := rfl
  security := ⟨.append (List.cons_ne_nil _ _) _, rfl, .append (List.cons_ne_nil _ _) _, rfl⟩
  country := rfl
  peerToPeerOnly := rfl
  protectedSetup := rfl
  osen := rfl
  mobilityDomain := rfl

private theorem criteria_loosens_faster : criteria.Loosens faster where
  names := .refl _
  nameRequired := id
  addresses := .refl _
  channels := .refl _
  radioModes := ⟨UInt8.and_self, id⟩
  kind := rfl
  security := ⟨.append (List.cons_ne_nil _ _) _, rfl, .refl _, rfl⟩
  country := rfl
  peerToPeerOnly := rfl
  protectedSetup := rfl
  osen := rfl
  mobilityDomain := rfl

private theorem strict_loosens_easy : strict.Loosens easy :=
  ⟨nofun, nofun, rfl, List.nil_subset _⟩

private theorem usual_loosens_usual : Preferences.usual.Loosens .usual :=
  ⟨id, id, rfl, List.Subset.refl _⟩

theorem isMatch_wider : criteria.Loosens wider ∧ strict.Loosens easy ∧
    criteria.isMatch strict network = true ∧ ¬ wider.OutsideMobility network ∧
      wider.isMatch easy network = true := by
  have hmatch : criteria.isMatch strict network = true := by decide
  have hstays : ¬ wider.OutsideMobility network := Criteria.acceptsDomain_iff.mp (by decide)
  exact ⟨criteria_loosens_wider, strict_loosens_easy, hmatch, hstays,
    (Criteria.isMatch_loosened_iff criteria_loosens_wider strict_loosens_easy hmatch).mpr hstays⟩

/-- The network is lost when a fast transition is named last, although the pass phrase that it
announces is still named first. -/
theorem not_isMatch_faster : criteria.Loosens faster ∧ Preferences.usual.Loosens .usual ∧
    criteria.isMatch .usual network = true ∧ ¬ faster.isMatch .usual network = true :=
  ⟨criteria_loosens_faster, usual_loosens_usual, by decide, by decide⟩

end OfficeNetwork

end Hotspot
