import Hotspot.Proofs.Element.Security
import Hotspot.Proofs.Security.Gathering

/-!
Octets may be an element with its header or the body alone, and which it is has to be guessed from
how they begin. The guess goes wrong for a body that itself begins like an element of its family.
Main statement: that does harm exactly if an element can be read there; then the same body says
different things with a header and without, and an offer holds what stands in a body of no known
version.
-/

set_option autoImplicit false
set_option relaxedAutoImplicit false

namespace Hotspot

open Element.Field

section Reading

variable {α : Type} {bytes : List UInt8}

private theorem mapError_eq_ok_iff {x : Except ElementFault α} {wrap : ElementFault → DecodeError}
    {a : α} : x.mapError wrap = .ok a ↔ x = .ok a := by
  cases x with
  | error _ => exact ⟨nofun, nofun⟩
  | ok b => exact ⟨fun h => by cases h; rfl, fun h => by cases h; rfl⟩

private theorem toOption_eq_iff {x y : Except DecodeError α} :
    x.toOption = y.toOption ↔ ∀ a, x = .ok a ↔ y = .ok a := by
  have hsome (z : Except DecodeError α) (a : α) : z.toOption = some a ↔ z = .ok a := by
    cases z <;> simp [Except.toOption]
  rw [Option.ext_iff]
  exact forall_congr' fun a => by rw [hsome, hsome]

private theorem eq_one_zero_of_word {low high : UInt8}
    (h : low.toUInt16 + high.toUInt16 * 256 = 1) : low = 1 ∧ high = 0 := by
  have hnat := congrArg UInt16.toNat h
  have hlow := low.toNat_lt
  have hhigh := high.toNat_lt
  simp only [UInt16.toNat_add, UInt16.toNat_mul, UInt8.toNat_toUInt16, UInt16.reduceToNat] at hnat
  constructor
  · apply UInt8.toNat_inj.mp
    show low.toNat = 1
    omega
  · apply UInt8.toNat_inj.mp
    show high.toNat = 0
    omega

private theorem prefix_of_readVersion {protocol : String}
    {next : UInt16 × List UInt8 → Except ElementFault α}
    {a : α} (h : (readVersion protocol bytes >>= next) = .ok a) : encodeWord 1 <+: bytes := by
  obtain ⟨_, hread, -⟩ := exists_of_bind_eq_ok h
  match bytes with
  | [] => cases hread
  | [_] => cases hread
  | low :: high :: rest =>
    obtain ⟨⟨version, _⟩, hword, hknown⟩ := exists_of_bind_eq_ok hread
    cases hword
    dsimp only at hknown
    split at hknown
    · rename_i hversion
      obtain ⟨rfl, rfl⟩ := eq_one_zero_of_word (eq_of_beq hversion)
      exact List.prefix_append [1, 0] rest
    · cases hknown

private theorem WpaElement.prefix_of_readBody {e : WpaElement} (h : readBody bytes = .ok e) :
    header.octets <+: bytes := by
  unfold readBody at h
  cases hheads : header.heads bytes with
  | false =>
    rw [hheads] at h
    cases h
  | true => exact List.isPrefixOf_iff_prefix.mp hheads

end Reading

namespace Family

def least : Family → Nat
  | .rsn => 2
  | .wpa => 4
  | .wapi => 2

def readBody : (family : Family) → List UInt8 → Except ElementFault family.Content
  | .rsn => RsnElement.readBody
  | .wpa => WpaElement.readBody
  | .wapi => WapiElement.readBody

variable {family : Family} {body : List UInt8} {content : family.Content}

/-- The body begins with a whole element of the family, and this is what that says. -/
def NestsAs (family : Family) (body : List UInt8) (content : family.Content) : Prop :=
  ∃ inner trailing, inner.length ≤ 255 ∧
    body = Element.encode ⟨family.id, inner⟩ ++ trailing ∧ family.readBody inner = .ok content

/-- The body begins with a whole element of the family that can be read. -/
def Nests (family : Family) (body : List UInt8) : Prop :=
  ∃ content, family.NestsAs body content

private theorem read_eq_ok_iff_unwrap : family.read body = .ok content ↔
    (unwrap family.id family.least body >>= family.readBody) = .ok content := by
  cases family with
  | rsn => exact mapError_eq_ok_iff
  | wpa => exact mapError_eq_ok_iff
  | wapi => exact mapError_eq_ok_iff

def start : Family → List UInt8
  | .rsn => encodeWord 1
  | .wpa => WpaElement.header.octets
  | .wapi => encodeWord 1

private theorem length_start (family : Family) : family.start.length = family.least := by
  cases family <;> rfl

private theorem start_prefix_of_readBody (h : family.readBody body = .ok content) :
    family.start <+: body := by
  cases family with
  | rsn => exact prefix_of_readVersion h
  | wpa => exact WpaElement.prefix_of_readBody h
  | wapi => exact prefix_of_readVersion h

private theorem least_le_of_start (h : family.start <+: body) : family.least ≤ body.length := by
  rw [← length_start]
  exact h.length_le

private theorem head?_ne_of_start (h : family.start <+: body) : body.head? ≠ some family.id := by
  obtain ⟨rest, rfl⟩ := h
  cases family with
  | rsn => exact nofun
  | wpa => exact nofun
  | wapi => exact nofun

private theorem read_encode_eq_ok_iff (hleast : family.least ≤ body.length)
    (hfits : body.length ≤ 255) (trailing : List UInt8) :
    family.read (Element.encode ⟨family.id, body⟩ ++ trailing) = .ok content ↔
      family.readBody body = .ok content := by
  rw [read_eq_ok_iff_unwrap, unwrap_encode hleast hfits]
  rfl

private theorem unwrap_cases {inner : List UInt8}
    (h : unwrap family.id family.least body = .ok inner) :
    inner = body ∨ inner.length ≤ 255 ∧
      ∃ trailing, body = Element.encode ⟨family.id, inner⟩ ++ trailing := by
  match body with
  | [] => exact .inl (Except.ok.inj h).symm
  | [_] => exact .inl (Except.ok.inj h).symm
  | tag :: len :: rest =>
    rw [unwrap_cons_cons] at h
    split at h
    · rename_i hheader
      split at h
      · cases h
      · rename_i hfits
        obtain rfl := Except.ok.inj h
        obtain rfl := eq_of_beq (Bool.and_eq_true_iff.mp hheader).1
        have hlength : (rest.take len.toNat).length = len.toNat :=
          List.length_take_of_le (Nat.le_of_not_lt hfits)
        refine .inr ⟨?_, rest.drop len.toNat, ?_⟩
        · rw [hlength]
          exact Nat.le_of_lt_succ len.toNat_lt
        · show _ = family.id :: UInt8.ofNat _ :: (_ ++ _)
          rw [hlength, UInt8.ofNat_toNat, List.take_append_drop]
    · exact .inl (Except.ok.inj h).symm

private theorem read_eq_ok_iff : family.read body = .ok content ↔
    family.readBody body = .ok content ∨ family.NestsAs body content := by
  constructor
  · intro h
    obtain ⟨inner, hunwrap, hread⟩ := exists_of_bind_eq_ok (read_eq_ok_iff_unwrap.mp h)
    rcases unwrap_cases hunwrap with rfl | ⟨hinner, trailing, rfl⟩
    · exact .inl hread
    · exact .inr ⟨inner, trailing, hinner, rfl, hread⟩
  · rintro (hread | ⟨inner, trailing, hinner, rfl, hread⟩)
    · rw [read_eq_ok_iff_unwrap, unwrap_bare (head?_ne_of_start (start_prefix_of_readBody hread))]
      exact hread
    · have hleast := least_le_of_start (start_prefix_of_readBody hread)
      exact (read_encode_eq_ok_iff hleast hinner trailing).mpr hread

private theorem NestsAs.not_start (h : family.NestsAs body content) : ¬ family.start <+: body := by
  obtain ⟨inner, trailing, -, rfl, -⟩ := h
  exact fun hstart => head?_ne_of_start hstart rfl

private theorem start_iff_not_nests (h : family.read body = .ok content) :
    family.start <+: body ↔ ¬ family.Nests body := by
  constructor
  · rintro hstart ⟨c, hnests⟩
    exact hnests.not_start hstart
  · intro hnone
    rcases read_eq_ok_iff.mp h with hread | hnests
    · exact start_prefix_of_readBody hread
    · exact absurd ⟨content, hnests⟩ hnone

private theorem toOption_read_eq_iff (hleast : family.least ≤ body.length)
    (hfits : body.length ≤ 255) :
    (family.read body).toOption =
      (family.read (Element.encode ⟨family.id, body⟩)).toOption ↔ ¬ family.Nests body := by
  have hheaded (c : family.Content) :
      family.read (Element.encode ⟨family.id, body⟩) = .ok c ↔ family.readBody body = .ok c := by
    rw [← read_encode_eq_ok_iff hleast hfits [], List.append_nil]
  rw [toOption_eq_iff]
  constructor
  · rintro hsame ⟨c, hnests⟩
    -- Behind a header the body would be read as it is, and it does not begin as bodies do.
    have hread := (hheaded c).mp ((hsame c).mp (read_eq_ok_iff.mpr (.inr hnests)))
    exact hnests.not_start (start_prefix_of_readBody hread)
  · intro hnone c
    rw [hheaded, read_eq_ok_iff]
    exact or_iff_left fun hnests => hnone ⟨c, hnests⟩

end Family

/-- A body says the same with and without its header exactly if it does not begin with an element of
its family that can be read; and what an RSN or WAPI element contributes to an offer begins with the
known version exactly then. -/
theorem header_harmless_iff (family : Family) :
    (∀ body : List UInt8, family.least ≤ body.length → body.length ≤ 255 →
      ((family.read body).toOption =
        (family.read (Element.encode ⟨family.id, body⟩)).toOption ↔ ¬ family.Nests body)) ∧
      ∀ (privacy : Bool) (octets : List UInt8) (content : family.Content), family ≠ .wpa →
        (SecurityOffer.ofElements privacy (Element.walk octets)).found family = some content →
          ∃ e, family.Leads (Element.walk octets) e content ∧
            (encodeWord 1 <+: e.body ↔ ¬ family.Nests e.body) := by
  refine ⟨fun body hleast hfits => Family.toOption_read_eq_iff hleast hfits, ?_⟩
  intro privacy octets content hwpa hfound
  obtain ⟨e, hleads⟩ :=
    ((SecurityOffer.gathers_ofElements privacy (Element.walk octets)).found family content).mp
      hfound
  have hstart : family.start = encodeWord 1 := by
    cases family with
    | rsn => rfl
    | wpa => exact absurd rfl hwpa
    | wapi => rfl
  exact ⟨e, hleads, hstart ▸ Family.start_iff_not_nests hleads.reads.read⟩

namespace NestedElement

def known : List UInt8 := [48, 2, 1, 0]

def unknown : List UInt8 := [48, 2, 2, 0]

def said : RsnElement := ⟨1, ⟨.rsn, 4⟩, [⟨.rsn, 4⟩], [⟨.rsn, 1⟩], ⟨0⟩, [], none⟩

private theorem not_nests_unknown : ¬ Family.rsn.Nests unknown := by
  rintro ⟨content, hnests⟩
  have hread : Family.rsn.read unknown = .ok content := Family.read_eq_ok_iff.mpr (.inr hnests)
  cases hread

theorem header_harmless_unknown :
    Family.rsn.least ≤ unknown.length ∧ unknown.length ≤ 255 ∧
      (RsnElement.read unknown).toOption =
        (RsnElement.read (Element.encode ⟨Element.rsnId, unknown⟩)).toOption ∧
      Family.rsn ≠ .wpa ∧
      (SecurityOffer.ofElements true (Element.walk [48, 2, 1, 0])).rsn = some said ∧
      ∃ e, Family.rsn.Leads (Element.walk [48, 2, 1, 0]) e said ∧
        (encodeWord 1 <+: e.body ↔ ¬ Family.rsn.Nests e.body) := by
  have hleast : Family.rsn.least ≤ unknown.length := by decide
  have hfits : unknown.length ≤ 255 := by decide
  have hwalk : Element.walk [48, 2, 1, 0] = [⟨Element.rsnId, [1, 0]⟩] :=
    Element.walk_encode (e := ⟨Element.rsnId, [1, 0]⟩) (by decide)
  have hfound : (SecurityOffer.ofElements true (Element.walk [48, 2, 1, 0])).rsn = some said := by
    rw [hwalk]
    rfl
  exact ⟨hleast, hfits, ((header_harmless_iff .rsn).1 unknown hleast hfits).mpr not_nests_unknown,
    nofun, hfound, (header_harmless_iff .rsn).2 true _ said nofun hfound⟩

/-- What can be read is read where there is no header, and refused behind one; and from an element
with such a body it gets into an offer. -/
theorem not_header_harmless_known :
    2 ≤ known.length ∧ known.length ≤ 255 ∧
      (RsnElement.read known).toOption ≠
        (RsnElement.read (Element.encode ⟨Element.rsnId, known⟩)).toOption ∧
      ¬ encodeWord 1 <+: known ∧
      Element.walk [48, 4, 48, 2, 1, 0] = [⟨Element.rsnId, known⟩] ∧
      (SecurityOffer.ofElements true (Element.walk [48, 4, 48, 2, 1, 0])).rsn = some said := by
  have hwalk : Element.walk [48, 4, 48, 2, 1, 0] = [⟨Element.rsnId, known⟩] :=
    Element.walk_encode (e := ⟨Element.rsnId, known⟩) (by decide)
  refine ⟨by decide, by decide, by decide, by decide, hwalk, ?_⟩
  rw [hwalk]
  rfl

end NestedElement

end Hotspot
