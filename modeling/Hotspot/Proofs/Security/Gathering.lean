import Hotspot.Proofs.Element.Walk
import Hotspot.Security.Offer

/-!
What an offer is gathered from. The three families are treated alike: each owns some of the elements
of a network, reads them or refuses them, and has a place of its own in the offer. Main statement:
in that place stands what the first element of the family says that can be read, so that no element
counts that cannot be read, that comes too late or that is of another family.
-/

set_option autoImplicit false
set_option relaxedAutoImplicit false

namespace Hotspot

namespace Family

def Content : Family → Type
  | .rsn => RsnElement
  | .wpa => WpaElement
  | .wapi => WapiElement

def id : Family → UInt8
  | .rsn => Element.rsnId
  | .wpa => Element.vendorId
  | .wapi => Element.wapiId

/-- Reads an element of the family, with or without its header. -/
def read : (family : Family) → List UInt8 → Except DecodeError family.Content
  | .rsn => RsnElement.read
  | .wpa => WpaElement.read
  | .wapi => WapiElement.read

/-- Holds of the elements of the family. Vendors share one number, so that WPA needs its header. -/
def owns : Family → Element → Bool
  | .rsn, e => e.id == Element.rsnId
  | .wpa, e => e.id == Element.vendorId && WpaElement.header.heads e.body
  | .wapi, e => e.id == Element.wapiId

/-- The element is of the family, and this is what it says. -/
structure Reads (family : Family) (e : Element) (content : family.Content) : Prop where
  owns : family.owns e = true
  read : family.read e.body = .ok content

/-- The first element of a row that is of the family and can be read. -/
structure Leads (family : Family) (row : List Element) (e : Element) (content : family.Content) :
    Prop where
  reads : family.Reads e content
  first : ∃ before after, row = before ++ e :: after ∧ ∀ x ∈ before, ∀ c, ¬ family.Reads x c

def said? (family : Family) (e : Element) : Option family.Content :=
  if family.owns e then (family.read e.body).toOption else none

variable {family : Family} {row : List Element} {e : Element} {content : family.Content}

private theorem id_of_owns (h : family.owns e = true) : e.id = family.id := by
  cases family with
  | rsn => exact eq_of_beq h
  | wpa => exact eq_of_beq (Bool.and_eq_true_iff.mp h).1
  | wapi => exact eq_of_beq h

private theorem id_injective : Function.Injective id := by
  intro family other h
  cases family <;> cases other <;> first | rfl | cases h

private theorem owns_unique {other : Family} (h : family.owns e = true)
    (hother : other.owns e = true) : family = other :=
  id_injective ((id_of_owns h).symm.trans (id_of_owns hother))

private theorem said?_of_owns (h : family.owns e = true) :
    family.said? e = (family.read e.body).toOption :=
  if_pos h

private theorem said?_of_not_owns (h : family.owns e = false) : family.said? e = none :=
  if_neg (Bool.eq_false_iff.mp h)

private theorem said?_eq_some_iff : family.said? e = some content ↔ family.Reads e content := by
  unfold said?
  constructor
  · intro h
    split at h
    · rename_i howns
      cases hread : family.read e.body with
      | error _ =>
        rw [hread] at h
        cases h
      | ok c =>
        rw [hread] at h
        cases h
        exact ⟨howns, hread⟩
    · cases h
  · rintro ⟨howns, hread⟩
    rw [if_pos howns, hread]
    rfl

private theorem said?_eq_none_iff : family.said? e = none ↔ ∀ c, ¬ family.Reads e c := by
  rw [Option.eq_none_iff_forall_not_mem]
  exact forall_congr' fun c => not_congr said?_eq_some_iff

private theorem findSome?_said?_eq_some_iff :
    row.findSome? family.said? = some content ↔ ∃ e, family.Leads row e content := by
  rw [List.findSome?_eq_some_iff]
  constructor
  · rintro ⟨before, e, after, rfl, hsaid, hbefore⟩
    exact ⟨e, said?_eq_some_iff.mp hsaid, before, after, rfl, fun x hx =>
      said?_eq_none_iff.mp (hbefore x hx)⟩
  · rintro ⟨e, hreads, before, after, rfl, hbefore⟩
    exact ⟨before, e, after, rfl, said?_eq_some_iff.mpr hreads, fun x hx =>
      said?_eq_none_iff.mpr (hbefore x hx)⟩

private theorem findSome?_said?_filter (row : List Element) :
    (row.filter family.owns).findSome? family.said? = row.findSome? family.said? := by
  induction row with
  | nil => rfl
  | cons e row ih =>
    rw [List.findSome?_cons]
    cases howns : family.owns e with
    | true => rw [List.filter_cons_of_pos howns, List.findSome?_cons, ih]
    | false =>
      rw [List.filter_cons_of_neg (Bool.eq_false_iff.mp howns), ih, said?_of_not_owns howns]

end Family

namespace SecurityOffer

variable {family : Family} {row : List Element} {e : Element}

def found (offer : SecurityOffer) : (family : Family) → Option family.Content
  | .rsn => offer.rsn
  | .wpa => offer.wpa
  | .wapi => offer.wapi

/-- The offer of a network that sends a row of elements. -/
def ofRow (privacy : Bool) (row : List Element) : SecurityOffer :=
  ofElements privacy (Element.walk (row.flatMap Element.encode))

private theorem eq_of_found {offer offer' : SecurityOffer}
    (hprivacy : offer.privacy = offer'.privacy)
    (h : ∀ family, offer.found family = offer'.found family) : offer = offer' := by
  obtain ⟨privacy, rsn, wpa, wapi⟩ := offer
  obtain ⟨privacy', rsn', wpa', wapi'⟩ := offer'
  obtain rfl : privacy = privacy' := hprivacy
  obtain rfl : rsn = rsn' := h .rsn
  obtain rfl : wpa = wpa' := h .wpa
  obtain rfl : wapi = wapi' := h .wapi
  rfl

private theorem found_take_of_owns (offer : SecurityOffer) (h : family.owns e = true) :
    (offer.take e).found family = (offer.found family).or (family.read e.body).toOption := by
  unfold take
  cases family with
  | rsn =>
    have hrsn : (e.id == Element.rsnId) = true := h
    rw [if_pos hrsn]
    rfl
  | wapi =>
    have hwapi : (e.id == Element.wapiId) = true := h
    have hid : e.id = Element.wapiId := eq_of_beq hwapi
    rw [if_neg (by rw [hid]; decide), if_pos hwapi]
    rfl
  | wpa =>
    have hwpa : (e.id == Element.vendorId && WpaElement.header.heads e.body) = true := h
    have hid : e.id = Element.vendorId := eq_of_beq (Bool.and_eq_true_iff.mp hwpa).1
    rw [if_neg (by rw [hid]; decide), if_neg (by rw [hid]; decide), if_pos hwpa]
    rfl

private theorem found_take_of_not_owns (offer : SecurityOffer) (h : family.owns e = false) :
    (offer.take e).found family = offer.found family := by
  unfold take
  split
  · rename_i hrsn
    cases family with
    | rsn => exact absurd hrsn (Bool.eq_false_iff.mp h)
    | wpa => rfl
    | wapi => rfl
  · split
    · rename_i hwapi
      cases family with
      | rsn => rfl
      | wpa => rfl
      | wapi => exact absurd hwapi (Bool.eq_false_iff.mp h)
    · split
      · rename_i hwpa
        cases family with
        | rsn => rfl
        | wpa => exact absurd hwpa (Bool.eq_false_iff.mp h)
        | wapi => rfl
      · rfl

private theorem found_take (offer : SecurityOffer) (e : Element) (family : Family) :
    (offer.take e).found family = (offer.found family).or (family.said? e) := by
  cases howns : family.owns e with
  | true => rw [found_take_of_owns offer howns, Family.said?_of_owns howns]
  | false =>
    rw [found_take_of_not_owns offer howns, Family.said?_of_not_owns howns, Option.or_none]

private theorem found_foldl_take (offer : SecurityOffer) (row : List Element) (family : Family) :
    (row.foldl take offer).found family =
      (offer.found family).or (row.findSome? family.said?) := by
  induction row generalizing offer with
  | nil => exact Option.or_none.symm
  | cons e row ih =>
    rw [List.foldl_cons, ih, found_take, Option.or_assoc, List.findSome?_cons]
    cases family.said? e <;> rfl

private theorem found_ofElements (privacy : Bool) (row : List Element) (family : Family) :
    (ofElements privacy row).found family = row.findSome? family.said? := by
  unfold ofElements
  rw [found_foldl_take]
  cases family <;> rfl

private theorem privacy_take (offer : SecurityOffer) (e : Element) :
    (offer.take e).privacy = offer.privacy := by
  unfold take
  split
  · rfl
  · split
    · rfl
    · split <;> rfl

private theorem privacy_foldl_take (offer : SecurityOffer) (row : List Element) :
    (row.foldl take offer).privacy = offer.privacy := by
  induction row generalizing offer with
  | nil => rfl
  | cons e row ih => rw [List.foldl_cons, ih, privacy_take]

private theorem privacy_ofElements (privacy : Bool) (row : List Element) :
    (ofElements privacy row).privacy = privacy :=
  privacy_foldl_take _ row

private theorem ofRow_eq (privacy : Bool) (h : ∀ e ∈ row, e.Fits) :
    ofRow privacy row = ofElements privacy row := by
  unfold ofRow
  rw [Element.walk_flatMap h]

end SecurityOffer

/-- What adds nothing to an offer after some other elements: an element of no family, one that
cannot be read, or one that comes after a readable one of its family. -/
inductive Element.Spare (before : List Element) (e : Element) : Prop
  | foreign (h : ∀ family : Family, family.owns e = false)
  | unreadable {family : Family} (howns : family.owns e = true)
      (h : ∀ content, family.read e.body ≠ .ok content)
  | further {family : Family} {x : Element} {content : family.Content}
      (howns : family.owns e = true) (hx : x ∈ before) (h : family.Reads x content)

namespace Element.Spare

variable {before after : List Element} {e : Element}

private theorem said?_eq_none_or (h : e.Spare before) (family : Family) :
    family.said? e = none ∨ (before.findSome? family.said?).isSome := by
  cases howner : family.owns e with
  | false => exact .inl (Family.said?_of_not_owns howner)
  | true =>
    cases h with
    | foreign h => exact absurd howner (Bool.eq_false_iff.mp (h family))
    | unreadable howns h =>
      obtain rfl := Family.owns_unique howner howns
      exact .inl (Family.said?_eq_none_iff.mpr fun c hreads => h c hreads.read)
    | further howns hx h =>
      obtain rfl := Family.owns_unique howner howns
      refine .inr (List.findSome?_isSome_iff.mpr ⟨_, hx, ?_⟩)
      rw [Family.said?_eq_some_iff.mpr h]
      rfl

private theorem findSome?_insert (h : e.Spare before) (family : Family) :
    (before ++ e :: after).findSome? family.said? =
      (before ++ after).findSome? family.said? := by
  rw [List.findSome?_append, List.findSome?_append, List.findSome?_cons]
  rcases h.said?_eq_none_or family with hsilent | hlate
  · rw [hsilent]
  · obtain ⟨content, hcontent⟩ := Option.isSome_iff_exists.mp hlate
    rw [hcontent, Option.some_or, Option.some_or]

end Element.Spare

namespace SecurityOffer

/-- What is gathered from a row of elements: the privacy bit, and for each family what the first of
its elements says that can be read. -/
structure Gathers (privacy : Bool) (row : List Element) (offer : SecurityOffer) : Prop where
  privacy : offer.privacy = privacy
  found : ∀ family content,
    offer.found family = some content ↔ ∃ e, family.Leads row e content

theorem gathers_ofElements (privacy : Bool) (row : List Element) :
    Gathers privacy row (ofElements privacy row) where
  privacy := privacy_ofElements privacy row
  found family content := by
    rw [found_ofElements]
    exact Family.findSome?_said?_eq_some_iff

/-- An offer holds what the first readable element of each family says. So it stays the same when an
element is put in that adds nothing there, and the place of a family depends on its own elements. -/
theorem ofRow_first_readable (privacy : Bool) {row : List Element} (hrow : ∀ e ∈ row, e.Fits) :
    Gathers privacy row (ofRow privacy row) ∧
      (∀ before after e, row = before ++ after → e.Fits → e.Spare before →
        ofRow privacy (before ++ e :: after) = ofRow privacy row) ∧
      ∀ family others, (∀ e ∈ others, e.Fits) →
        others.filter family.owns = row.filter family.owns →
          (ofRow privacy others).found family = (ofRow privacy row).found family := by
  refine ⟨?_, ?_, ?_⟩
  · rw [ofRow_eq privacy hrow]
    exact gathers_ofElements privacy row
  · rintro before after e rfl he hspare
    have hinserted : ∀ x ∈ before ++ e :: after, x.Fits := by
      intro x hx
      rcases List.mem_append.mp hx with hbefore | hrest
      · exact hrow x (List.mem_append_left _ hbefore)
      · rcases List.mem_cons.mp hrest with rfl | hafter
        · exact he
        · exact hrow x (List.mem_append_right _ hafter)
    rw [ofRow_eq privacy hrow, ofRow_eq privacy hinserted]
    -- Offers are equal if they agree on privacy and on what each family says.
    refine eq_of_found ?_ fun family => ?_
    · rw [privacy_ofElements, privacy_ofElements]
    · rw [found_ofElements, found_ofElements]
      exact hspare.findSome?_insert family
  · intro family others hothers hsame
    rw [ofRow_eq privacy hrow, ofRow_eq privacy hothers, found_ofElements, found_ofElements,
      ← Family.findSome?_said?_filter others, hsame, Family.findSome?_said?_filter]

end SecurityOffer

namespace RepeatedElement

open SecurityOffer (ofRow)

def refused : List Element :=
  [⟨Element.ssidId, [0x6C, 0x61, 0x62]⟩, ⟨Element.rsnId, [2, 0]⟩]

def short : Element := ⟨Element.rsnId, [1, 0]⟩

def second : Element := ⟨Element.rsnId, [1, 0, 0x00, 0x0F, 0xAC, 2]⟩

def setup : Element := ⟨Element.vendorId, [0x00, 0x50, 0xF2, 4]⟩

def said : RsnElement := ⟨1, ⟨.rsn, 4⟩, [⟨.rsn, 4⟩], [⟨.rsn, 1⟩], ⟨0⟩, [], none⟩

private theorem reads_short : Family.rsn.Reads short said :=
  ⟨by decide, by rfl⟩

private theorem leads_short : Family.rsn.Leads (refused ++ [short] ++ [setup]) short said where
  reads := reads_short
  first := by
    refine ⟨refused, [setup], rfl, fun x hx c hreads => ?_⟩
    rcases List.mem_cons.mp hx with rfl | hx
    · exact absurd hreads.owns (by decide)
    · obtain rfl := List.mem_singleton.mp hx
      cases hreads.read

private theorem second_spare : second.Spare (refused ++ [short]) := by
  have howns : Family.rsn.owns second = true := by decide
  exact .further howns (List.mem_append_right _ (List.mem_singleton_self _)) reads_short

theorem ofRow_first_readable_short :
    (∀ e ∈ refused ++ [short] ++ [setup], e.Fits) ∧ second.Fits ∧
      second.Spare (refused ++ [short]) ∧
      (ofRow true (refused ++ [short] ++ [setup])).rsn = some said ∧
      ofRow true (refused ++ [short] ++ second :: [setup]) =
        ofRow true (refused ++ [short] ++ [setup]) := by
  have hrow : ∀ e ∈ refused ++ [short] ++ [setup], e.Fits := by decide
  have hsecond : second.Fits := by decide
  obtain ⟨hgathers, hinsert, -⟩ := SecurityOffer.ofRow_first_readable true hrow
  exact ⟨hrow, hsecond, second_spare, (hgathers.found .rsn said).mpr ⟨short, leads_short⟩,
    hinsert _ _ second rfl hsecond second_spare⟩

end RepeatedElement

end Hotspot
