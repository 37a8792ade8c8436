import Hotspot.Network.Basic
import Hotspot.Proofs.Element.Walk

/-!
Where the device address of a network comes from. The attributes of a peer-to-peer element are
walked up to the first that tells an address, and each element of the kind replaces what the one
before it said, even if it says nothing. Main statement: an address that is told is lost exactly if
the last peer-to-peer element tells none.
-/

set_option autoImplicit false
set_option relaxedAutoImplicit false

namespace Hotspot

structure Attribute where
  id : UInt8
  body : List UInt8
  deriving DecidableEq, Repr

namespace Attribute

/-- The octets of an attribute: its number, the length of its body with the low octet first, and the
body. -/
def encode (x : Attribute) : List UInt8 :=
  x.id :: (Element.Field.encodeWord (UInt16.ofNat x.body.length) ++ x.body)

def Fits (x : Attribute) : Prop :=
  x.body.length < UInt16.size

/-- The attribute names the device or describes it, and has room for an address. -/
def Tells (x : Attribute) : Prop :=
  (x.id = 3 ∨ x.id = 13) ∧ 6 ≤ x.body.length

instance (x : Attribute) : Decidable x.Fits :=
  inferInstanceAs (Decidable (x.body.length < UInt16.size))

instance (x : Attribute) : Decidable x.Tells :=
  inferInstanceAs (Decidable ((x.id = 3 ∨ x.id = 13) ∧ 6 ≤ x.body.length))

/-- Octets in which an attribute stands behind well-formed ones only. What follows it does not
matter. -/
inductive Held : List UInt8 → Attribute → Prop
  | front {x : Attribute} (rest : List UInt8) (hfits : x.Fits) : Held (x.encode ++ rest) x
  | behind {x y : Attribute} {rest : List UInt8} (hy : y.Fits) (h : Held rest x) :
      Held (y.encode ++ rest) x

/-- Octets of which the first attribute that tells an address tells this one. -/
inductive Told : List UInt8 → HardwareAddress → Prop
  | front {x : Attribute} {a : HardwareAddress} (rest : List UInt8) (hfits : x.Fits)
      (htells : x.Tells) (ha : a.octets = x.body.take 6) : Told (x.encode ++ rest) a
  | behind {y : Attribute} {a : HardwareAddress} {rest : List UInt8} (hy : y.Fits)
      (hsilent : ¬ y.Tells) (h : Told rest a) : Told (y.encode ++ rest) a

variable {x : Attribute} {octets : List UInt8} {a : HardwareAddress}

private theorem Told.exists_held (h : Told octets a) :
    ∃ x, Held octets x ∧ x.Tells ∧ a.octets = x.body.take 6 := by
  induction h with
  | front rest hfits htells ha => exact ⟨_, .front rest hfits, htells, ha⟩
  | behind hy _ _ ih =>
    obtain ⟨x, hheld, htells, ha⟩ := ih
    exact ⟨x, .behind hy hheld, htells, ha⟩

private theorem Held.exists_told (h : Held octets x) (htells : x.Tells) : ∃ a, Told octets a := by
  induction h with
  | front rest hfits =>
    exact ⟨⟨_, List.length_take_of_le htells.2⟩, .front rest hfits htells rfl⟩
  | @behind x y rest hy _ ih =>
    by_cases hfirst : y.Tells
    · exact ⟨⟨_, List.length_take_of_le hfirst.2⟩, .front rest hy hfirst rfl⟩
    · obtain ⟨a, ha⟩ := ih htells
      exact ⟨a, .behind hy hfirst ha⟩

private theorem tells_iff :
    x.Tells ↔ ((x.id == 3 || x.id == 13) && 6 ≤ x.body.length : Bool) = true := by
  unfold Tells
  simp only [Bool.and_eq_true, Bool.or_eq_true, beq_iff_eq, decide_eq_true_eq]

private theorem Fits.toNat_count (h : x.Fits) :
    (UInt16.ofNat x.body.length).toUInt8.toNat +
      256 * (UInt16.ofNat x.body.length / 256).toUInt8.toNat = x.body.length := by
  have hcount : (UInt16.ofNat x.body.length).toNat = x.body.length := UInt16.toNat_ofNat_of_lt' h
  have hlt : x.body.length < 65536 := h
  rw [UInt16.toNat_toUInt8, UInt16.toNat_toUInt8, UInt16.toNat_div, hcount]
  simp only [UInt16.reduceToNat]
  omega

private theorem encodeWord_ofNat (low high : UInt8) :
    Element.Field.encodeWord (UInt16.ofNat (low.toNat + 256 * high.toNat)) = [low, high] := by
  have hlow := low.toNat_lt
  have hhigh := high.toNat_lt
  have hcount : (UInt16.ofNat (low.toNat + 256 * high.toNat)).toNat =
    low.toNat + 256 * high.toNat :=
    UInt16.toNat_ofNat_of_lt' (by show _ < 65536; omega)
  have hfirst : (UInt16.ofNat (low.toNat + 256 * high.toNat)).toUInt8 = low := by
    apply UInt8.toNat_inj.mp
    rw [UInt16.toNat_toUInt8, hcount]
    omega
  have hsecond : (UInt16.ofNat (low.toNat + 256 * high.toNat) / 256).toUInt8 = high := by
    apply UInt8.toNat_inj.mp
    rw [UInt16.toNat_toUInt8, UInt16.toNat_div, hcount]
    simp only [UInt16.reduceToNat]
    omega
  rw [Element.Field.encodeWord, hfirst, hsecond]

private theorem encode_take_append {low high : UInt8} {rest : List UInt8}
    (h : low.toNat + 256 * high.toNat ≤ rest.length) (id : UInt8) :
    (⟨id, rest.take (low.toNat + 256 * high.toNat)⟩ : Attribute).encode ++
      rest.drop (low.toNat + 256 * high.toNat) = id :: low :: high :: rest := by
  unfold encode
  dsimp only
  rw [List.length_take_of_le h, encodeWord_ofNat]
  simp only [List.cons_append, List.nil_append, List.take_append_drop]

private theorem fits_take (low high : UInt8) (id : UInt8) (rest : List UInt8) :
    (⟨id, rest.take (low.toNat + 256 * high.toNat)⟩ : Attribute).Fits := by
  have hlow := low.toNat_lt
  have hhigh := high.toNat_lt
  show (rest.take _).length < 65536
  rw [List.length_take]
  omega

end Attribute

private theorem HardwareAddress.toOption_ofOctets_eq_some_iff {octets : List UInt8}
    {a : HardwareAddress} : (ofOctets octets).toOption = some a ↔ a.octets = octets := by
  unfold ofOctets
  constructor
  · intro h
    split at h
    · cases h
      rfl
    · cases h
  · rintro rfl
    rw [dif_pos a.length_eq]
    rfl

namespace Network

open Attribute (Held Told tells_iff)

variable {x : Attribute} {octets : List UInt8} {a : HardwareAddress}

private theorem deviceAddress?_encode_append (h : x.Fits) (rest : List UInt8) :
    deviceAddress? (x.encode ++ rest) =
      if x.Tells then (HardwareAddress.ofOctets (x.body.take 6)).toOption
      else deviceAddress? rest := by
  have hroom : ¬ (x.body ++ rest).length < x.body.length := by
    rw [List.length_append]
    omega
  show deviceAddress? (x.id :: (UInt16.ofNat x.body.length).toUInt8 ::
    (UInt16.ofNat x.body.length / 256).toUInt8 :: (x.body ++ rest)) = _
  rw [deviceAddress?, h.toNat_count, if_neg hroom, List.drop_left]
  by_cases htells : x.Tells
  · rw [if_pos (tells_iff.mp htells), if_pos htells, List.take_append_of_le_length htells.2]
  · rw [if_neg (mt tells_iff.mpr htells), if_neg htells]

private theorem deviceAddress?_eq_some_iff : deviceAddress? octets = some a ↔ Told octets a := by
  constructor
  · intro h
    -- One direction follows the reader, the other one the derivation that an address is told.
    fun_induction deviceAddress? octets with
    | case1 => cases h
    | case2 id low high rest size hroom hkind =>
      have hsize : size ≤ rest.length := Nat.le_of_not_lt hroom
      have htells : Attribute.Tells ⟨id, rest.take size⟩ :=
        tells_iff.mpr (by rw [List.length_take_of_le hsize]; exact hkind)
      rw [← Attribute.encode_take_append hsize id]
      refine .front _ (Attribute.fits_take low high id rest) htells ?_
      rw [HardwareAddress.toOption_ofOctets_eq_some_iff.mp h]
      have hsix : 6 ≤ size := (List.length_take_of_le hsize).symm ▸ htells.2
      rw [List.take_take, Nat.min_eq_left hsix]
    | case3 id low high rest size hroom hkind ih =>
      have hsize : size ≤ rest.length := Nat.le_of_not_lt hroom
      have hsilent : ¬ Attribute.Tells ⟨id, rest.take size⟩ := fun htells =>
        hkind (by
          have hbool := tells_iff.mp htells
          rwa [List.length_take_of_le hsize] at hbool)
      rw [← Attribute.encode_take_append hsize id]
      exact .behind (Attribute.fits_take low high id rest) hsilent (ih h)
    | case4 => cases h
  · intro h
    induction h with
    | @front x a rest hfits htells ha =>
      rw [deviceAddress?_encode_append hfits, if_pos htells]
      exact HardwareAddress.toOption_ofOctets_eq_some_iff.mpr ha
    | behind hy hsilent _ ih =>
      rw [deviceAddress?_encode_append hy, if_neg hsilent, ih]

end Network

def Element.IsPeer (e : Element) : Prop :=
  e.id = vendorId ∧ Network.peerToPeerHeader.octets <+: e.body

instance (e : Element) : Decidable e.IsPeer :=
  inferInstanceAs (Decidable (_ ∧ _))

namespace Network

variable {n n' : Network} {e : Element} {row : List Element}

private theorem not_isPeer_of_heads {header : Suite} (h : header.heads e.body = true)
    (hne : header ≠ peerToPeerHeader) : ¬ e.IsPeer := by
  rintro ⟨-, hpeer⟩
  have hheader : header.octets <+: e.body := List.isPrefixOf_iff_prefix.mp h
  have heq : header.octets = peerToPeerHeader.octets :=
    (List.prefix_of_prefix_length_le hheader hpeer (Nat.le_refl 4)).eq_of_length rfl
  obtain ⟨⟨_, _, _⟩, _⟩ := header
  cases heq
  exact hne rfl

private theorem take_of_vendor (hid : e.id = Element.vendorId) :
    n.take e = if multimediaHeader.heads e.body then .ok { n with multimedia := true }
      else if protectedSetupHeader.heads e.body then .ok { n with protectedSetup := true }
      else if peerToPeerHeader.heads e.body then
        .ok { n with peerToPeer := true, peerAddress := deviceAddress? (e.body.drop 4) }
      else .ok n := by
  unfold take
  rw [hid]
  rfl

private theorem peerAddress_take_of_not_vendor (hid : e.id ≠ Element.vendorId)
    (h : n.take e = .ok n') : n'.peerAddress = n.peerAddress := by
  unfold take at h
  rw [if_neg (fun hvendor => hid (eq_of_beq hvendor))] at h
  split at h
  · cases hname : NetworkName.ofOctets e.body with
    | error _ =>
      rw [hname] at h
      cases h
    | ok _ =>
      rw [hname] at h
      cases h
      rfl
  · repeat' split at h
    all_goals
      cases h
      rfl

private theorem peerAddress_take (h : n.take e = .ok n') :
    n'.peerAddress = if e.IsPeer then deviceAddress? (e.body.drop 4) else n.peerAddress := by
  by_cases hid : e.id = Element.vendorId
  · rw [take_of_vendor hid] at h
    split at h
    · rename_i hheads
      rw [if_neg (not_isPeer_of_heads hheads (by decide))]
      cases h
      rfl
    · split at h
      · rename_i hheads
        rw [if_neg (not_isPeer_of_heads hheads (by decide))]
        cases h
        rfl
      · split at h
        · rename_i hheads
          rw [if_pos ⟨hid, List.isPrefixOf_iff_prefix.mp hheads⟩]
          cases h
          rfl
        · rename_i hheads
          rw [if_neg fun hpeer => hheads (List.isPrefixOf_iff_prefix.mpr hpeer.2)]
          cases h
          rfl
  · rw [if_neg fun hpeer => hid hpeer.1]
    exact peerAddress_take_of_not_vendor hid h

private theorem exists_take_of_foldlM_cons (h : (e :: row).foldlM take n = .ok n') :
    ∃ m, n.take e = .ok m ∧ row.foldlM take m = .ok n' := by
  rw [List.foldlM_cons] at h
  cases hstep : n.take e with
  | error _ =>
    rw [hstep] at h
    cases h
  | ok m =>
    rw [hstep] at h
    exact ⟨m, rfl, h⟩

private theorem peerAddress_foldlM_of_forall (hrow : ∀ e ∈ row, ¬ e.IsPeer)
    (h : row.foldlM take n = .ok n') : n'.peerAddress = n.peerAddress := by
  induction row generalizing n with
  | nil =>
    cases h
    rfl
  | cons e row ih =>
    obtain ⟨hsilent, hothers⟩ := List.forall_mem_cons.mp hrow
    obtain ⟨m, hstep, hrest⟩ := exists_take_of_foldlM_cons h
    rw [ih hothers hrest, peerAddress_take hstep, if_neg hsilent]

private theorem peerAddress_foldlM_of_last {before after : List Element} (he : e.IsPeer)
    (hafter : ∀ y ∈ after, ¬ y.IsPeer) (h : (before ++ e :: after).foldlM take n = .ok n') :
    n'.peerAddress = deviceAddress? (e.body.drop 4) := by
  induction before generalizing n with
  | nil =>
    obtain ⟨m, hstep, hrest⟩ := exists_take_of_foldlM_cons h
    rw [peerAddress_foldlM_of_forall hafter hrest, peerAddress_take hstep, if_pos he]
  | cons y before ih =>
    obtain ⟨_, _, hrest⟩ := exists_take_of_foldlM_cons h
    exact ih hrest

end Network

namespace Element

variable {e : Element} {row : List Element} {a : HardwareAddress}

/-- The element holds an attribute that tells an address, behind well-formed ones. -/
structure Offers (e : Element) (x : Attribute) : Prop where
  peer : e.IsPeer
  held : Attribute.Held (e.body.drop 4) x
  tells : x.Tells

/-- The first of these attributes tells this address. -/
structure Names (e : Element) (a : HardwareAddress) : Prop where
  peer : e.IsPeer
  told : Attribute.Told (e.body.drop 4) a

/-- The element is the last of a row that is on direct connections. -/
structure LastPeer (row : List Element) (e : Element) : Prop where
  peer : e.IsPeer
  last : ∃ before after, row = before ++ e :: after ∧ ∀ y ∈ after, ¬ y.IsPeer

/-- An address is told, but not by the last peer-to-peer element. -/
def Forgets (row : List Element) : Prop :=
  (∃ e ∈ row, ∃ x, e.Offers x) ∧ ∃ e, LastPeer row e ∧ ∀ x, ¬ e.Offers x

private theorem Names.exists_offers (h : e.Names a) :
    ∃ x, e.Offers x ∧ a.octets = x.body.take 6 := by
  obtain ⟨x, hheld, htells, ha⟩ := h.told.exists_held
  exact ⟨x, ⟨h.peer, hheld, htells⟩, ha⟩

private theorem Offers.exists_names {x : Attribute} (h : e.Offers x) : ∃ a, e.Names a := by
  obtain ⟨a, ha⟩ := h.held.exists_told h.tells
  exact ⟨a, h.peer, ha⟩

private theorem LastPeer.mem (h : LastPeer row e) : e ∈ row := by
  obtain ⟨before, after, rfl, -⟩ := h.last
  exact List.mem_append_right before List.mem_cons_self

private theorem lastPeer_concat_iff {y : Element} (hy : y.IsPeer) :
    LastPeer (row ++ [y]) e ↔ e = y := by
  constructor
  · rintro ⟨-, before, after, heq, hafter⟩
    rcases List.eq_nil_or_concat after with rfl | ⟨init, z, rfl⟩
    · exact (List.singleton_inj.mp (List.append_inj_right' heq rfl)).symm
    · rw [List.concat_eq_append, ← List.cons_append, ← List.append_assoc] at heq
      obtain rfl : y = z := List.singleton_inj.mp (List.append_inj_right' heq rfl)
      exact absurd hy (hafter y (by simp))
  · rintro rfl
    exact ⟨hy, row, [], rfl, nofun⟩

private theorem exists_lastPeer (h : ∃ e ∈ row, e.IsPeer) : ∃ e, LastPeer row e := by
  induction row with
  | nil =>
    obtain ⟨_, hmem, -⟩ := h
    cases hmem
  | cons y row ih =>
    by_cases hlater : ∃ e ∈ row, e.IsPeer
    · obtain ⟨e, he, before, after, rfl, hafter⟩ := ih hlater
      exact ⟨e, he, y :: before, after, rfl, hafter⟩
    · obtain ⟨e, hmem, he⟩ := h
      have hnone : ∀ y ∈ row, ¬ y.IsPeer := fun y hy hpeer => hlater ⟨y, hy, hpeer⟩
      rcases List.mem_cons.mp hmem with rfl | hrest
      · exact ⟨e, he, [], row, rfl, hnone⟩
      · exact absurd he (hnone e hrest)

end Element

namespace Network

variable {n n' : Network} {row : List Element} {a : HardwareAddress}

private theorem peerAddress_of_lastPeer {e : Element} (he : Element.LastPeer row e)
    (h : row.foldlM take n = .ok n') : n'.peerAddress = deviceAddress? (e.body.drop 4) := by
  obtain ⟨before, after, rfl, hafter⟩ := he.last
  exact peerAddress_foldlM_of_last he.peer hafter h

private theorem peerAddress_eq_some_iff (hn : n.peerAddress = none)
    (h : row.foldlM take n = .ok n') :
    n'.peerAddress = some a ↔ ∃ e, Element.LastPeer row e ∧ e.Names a := by
  constructor
  · intro ha
    by_cases hsome : ∃ e ∈ row, e.IsPeer
    · obtain ⟨e, he⟩ := Element.exists_lastPeer hsome
      rw [peerAddress_of_lastPeer he h] at ha
      exact ⟨e, he, he.peer, deviceAddress?_eq_some_iff.mp ha⟩
    · have hnone : ∀ y ∈ row, ¬ y.IsPeer := fun y hy hpeer => hsome ⟨y, hy, hpeer⟩
      rw [peerAddress_foldlM_of_forall hnone h, hn] at ha
      cases ha
  · rintro ⟨e, he, hnames⟩
    rw [peerAddress_of_lastPeer he h, deviceAddress?_eq_some_iff]
    exact hnames.told

/-- The address of a network is the one that its last peer-to-peer element names. So an address that
some element offers is found, and comes from such an element, unless the last one offers none. -/
theorem device_address_found_iff {address : HardwareAddress} {channel : Channel}
    {capability : Capability} {interval : UInt16} {octets : List UInt8}
    (h : ofBeacon address channel capability interval octets = .ok n) :
    (∀ a, n.peerAddress = some a ↔
      ∃ e, Element.LastPeer (Element.walk octets) e ∧ e.Names a) ∧
    (((∃ e ∈ Element.walk octets, ∃ x, e.Offers x) →
      ∃ e ∈ Element.walk octets, ∃ x a, e.Offers x ∧ n.peerAddress = some a ∧
        a.octets = x.body.take 6) ↔ ¬ Element.Forgets (Element.walk octets)) := by
  have hnamed (a : HardwareAddress) : n.peerAddress = some a ↔
      ∃ e, Element.LastPeer (Element.walk octets) e ∧ e.Names a :=
    peerAddress_eq_some_iff rfl h
  refine ⟨hnamed, ?_, ?_⟩
  · rintro hfound ⟨hoffered, e, he, hsilent⟩
    obtain ⟨_, _, _, a, _, ha, _⟩ := hfound hoffered
    rw [peerAddress_of_lastPeer he h, deviceAddress?_eq_some_iff] at ha
    obtain ⟨x, hx, -⟩ := Element.Names.exists_offers ⟨he.peer, ha⟩
    exact hsilent x hx
  · intro hkept hoffered
    obtain ⟨y, hy, _, hpeer⟩ := hoffered
    obtain ⟨e, he⟩ := Element.exists_lastPeer ⟨y, hy, hpeer.peer⟩
    have hspeaks : ∃ x, e.Offers x := by
      false_or_by_contra
      rename_i hsilent
      exact hkept ⟨⟨y, hy, _, hpeer⟩, e, he, fun x hx => hsilent ⟨x, hx⟩⟩
    obtain ⟨_, hx⟩ := hspeaks
    obtain ⟨a, ha⟩ := hx.exists_names
    obtain ⟨x, hx, htake⟩ := ha.exists_offers
    exact ⟨e, he.mem, x, a, hx, (hnamed a).mpr ⟨e, he, ha⟩, htake⟩

end Network

namespace TwoPeers

open Attribute (Held)

def header : List UInt8 := [0x50, 0x6F, 0x9A, 9]

def named : Attribute := ⟨3, [0x02, 0xAA, 0xBB, 0xCC, 0xDD, 0xEE]⟩

def capable : Attribute := ⟨2, [0x25, 0x00]⟩

def speaking : Element := ⟨Element.vendorId, header ++ (capable.encode ++ named.encode)⟩

def silent : Element := ⟨Element.vendorId, header ++ capable.encode⟩

private theorem offers_speaking : speaking.Offers named where
  peer := by decide
  held := by
    show Held (capable.encode ++ (named.encode ++ [])) named
    exact .behind (by decide) (.front [] (by decide))
  tells := by decide

private theorem deviceAddress?_silent : Network.deviceAddress? (silent.body.drop 4) = none := by
  show Network.deviceAddress? (capable.encode ++ []) = none
  rw [Network.deviceAddress?_encode_append (by decide), if_neg (by decide), Network.deviceAddress?]
  intro _ _ _ _ hcons
  cases hcons

def found : List UInt8 := [silent, speaking].flatMap Element.encode

def lost : List UInt8 := [speaking, silent].flatMap Element.encode

private theorem walk_found : Element.walk found = [silent, speaking] :=
  Element.walk_flatMap (by decide)

private theorem walk_lost : Element.walk lost = [speaking, silent] :=
  Element.walk_flatMap (by decide)

private theorem lastPeer_found_iff {e : Element} :
    Element.LastPeer (Element.walk found) e ↔ e = speaking := by
  rw [walk_found]
  show Element.LastPeer ([silent] ++ [speaking]) e ↔ e = speaking
  exact Element.lastPeer_concat_iff (by decide)

private theorem lastPeer_lost_iff {e : Element} :
    Element.LastPeer (Element.walk lost) e ↔ e = silent := by
  rw [walk_lost]
  show Element.LastPeer ([speaking] ++ [silent]) e ↔ e = silent
  exact Element.lastPeer_concat_iff (by decide)

theorem device_address_found_speaking :
    ∃ n, Network.ofBeacon .zero 6 ⟨1⟩ 100 found = .ok n ∧
      (∃ e ∈ Element.walk found, ∃ x, e.Offers x) ∧ ¬ Element.Forgets (Element.walk found) ∧
      ∃ e ∈ Element.walk found, ∃ x a, e.Offers x ∧ n.peerAddress = some a ∧
        a.octets = x.body.take 6 := by
  have hbeacon : ∃ n, Network.ofBeacon .zero 6 ⟨1⟩ 100 found = .ok n := by
    unfold Network.ofBeacon
    rw [walk_found]
    exact ⟨_, rfl⟩
  have hoffered : ∃ e ∈ Element.walk found, ∃ x, e.Offers x := by
    rw [walk_found]
    exact ⟨speaking, by decide, named, offers_speaking⟩
  have hkept : ¬ Element.Forgets (Element.walk found) := by
    rintro ⟨-, e, he, hsilent⟩
    obtain rfl := lastPeer_found_iff.mp he
    exact hsilent named offers_speaking
  obtain ⟨n, hn⟩ := hbeacon
  exact ⟨n, hn, hoffered, hkept, (Network.device_address_found_iff hn).2.mpr hkept hoffered⟩

/-- The network of the second beacon has none, though the same two elements are in it. -/
theorem not_device_address_found_silent :
    ∃ n, Network.ofBeacon .zero 6 ⟨1⟩ 100 lost = .ok n ∧
      (∃ e ∈ Element.walk lost, ∃ x, e.Offers x) ∧ n.peerAddress = none := by
  have hbeacon : ∃ n, Network.ofBeacon .zero 6 ⟨1⟩ 100 lost = .ok n := by
    unfold Network.ofBeacon
    rw [walk_lost]
    exact ⟨_, rfl⟩
  have hoffered : ∃ e ∈ Element.walk lost, ∃ x, e.Offers x := by
    rw [walk_lost]
    exact ⟨speaking, by decide, named, offers_speaking⟩
  obtain ⟨n, hn⟩ := hbeacon
  refine ⟨n, hn, hoffered, ?_⟩
  rw [Network.peerAddress_of_lastPeer (lastPeer_lost_iff.mpr rfl) hn]
  exact deviceAddress?_silent

end TwoPeers

end Hotspot
