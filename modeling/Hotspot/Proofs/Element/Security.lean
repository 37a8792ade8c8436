import Hotspot.Element.Security
import Hotspot.Proofs.Element.Field

/-!
The security elements as they are written and read. A body stands alone or behind its header, and no
body of the three begins like a header. Main statement: every element of the known version is read
back from its standard body, alone or behind its header, whatever follows there.
-/

set_option autoImplicit false
set_option relaxedAutoImplicit false

namespace Hotspot

open Element.Field

section Header

variable {α : Type} {id : UInt8} {body : List UInt8} {least : Nat}

/-- An element is read back from its body, and behind a header, which counts up to 255 octets, from
the front of a longer row. -/
structure ReadsBack (id : UInt8) (read : List UInt8 → Except DecodeError α) (body : List UInt8)
    (e : α) : Prop where
  bare : read body = .ok e
  headed : body.length ≤ 255 → ∀ trailing, read (Element.encode ⟨id, body⟩ ++ trailing) = .ok e

theorem unwrap_cons_cons {tag len : UInt8} {rest : List UInt8} :
    unwrap id least (tag :: len :: rest) =
      if tag == id && least ≤ rest.length then
        if rest.length < len.toNat then .error .lengthExceedsBuffer
        else .ok (rest.take len.toNat)
      else .ok (tag :: len :: rest) :=
  rfl

theorem unwrap_bare (hhead : body.head? ≠ some id) : unwrap id least body = .ok body := by
  cases body with
  | nil => rfl
  | cons tag body =>
    cases body with
    | nil => rfl
    | cons len rest =>
      have htag : (tag == id) = false := beq_eq_false_iff_ne.mpr fun h => hhead (congrArg some h)
      rw [unwrap_cons_cons, htag, Bool.false_and]
      rfl

theorem unwrap_encode (hleast : least ≤ body.length) (hlength : body.length ≤ 255)
    (trailing : List UInt8) :
    unwrap id least (Element.encode ⟨id, body⟩ ++ trailing) = .ok body := by
  have hcount : (UInt8.ofNat body.length).toNat = body.length :=
    UInt8.toNat_ofNat_of_lt' (Nat.lt_succ_of_le hlength)
  have hheader : (id == id && decide (least ≤ (body ++ trailing).length)) = true := by
    rw [beq_self_eq_true, Bool.true_and, decide_eq_true_iff, List.length_append]
    omega
  have hfits : ¬ (body ++ trailing).length < body.length := by
    rw [List.length_append]
    omega
  unfold Element.encode
  rw [List.cons_append, List.cons_append, unwrap_cons_cons, if_pos hheader, hcount, if_neg hfits,
    List.take_left]

private theorem readsBack_of_readBody {readBody : List UInt8 → Except ElementFault α}
    {what : String} {e : α} (hbody : readBody body = .ok e) (hhead : body.head? ≠ some id)
    (hleast : least ≤ body.length) :
    ReadsBack id (fun bytes => (unwrap id least bytes >>= readBody).mapError (.element what)) body
      e where
  bare := by
    rw [unwrap_bare hhead]
    exact congrArg (Except.mapError (DecodeError.element what)) hbody
  headed hlength trailing := by
    rw [unwrap_encode hleast hlength]
    exact congrArg (Except.mapError (DecodeError.element what)) hbody

end Header

theorem reads_version (protocol : String) : Reads (readVersion protocol) 1 (encodeWord 1) := by
  intro rest
  unfold readVersion
  rw [(reads_word "version" 1).bind]
  rfl

private theorem ifPresent_suite (field : String) (s : Option Suite) :
    ifPresent 4 (suite field) ((s.map Suite.octets).getD []) = .ok (s, []) := by
  cases s <;> rfl

namespace RsnElement

variable {e : RsnElement}

/-- The version is the known one, and every count fits into two octets. -/
structure Standard (e : RsnElement) : Prop where
  version : e.version = 1
  pairwiseCiphers : e.pairwiseCiphers.length < UInt16.size
  methods : e.methods.length < UInt16.size
  keyNames : e.keyNames.length < UInt16.size

theorem head?_encodeBody (h : e.Standard) : e.encodeBody.head? = some 1 := by
  unfold encodeBody
  rw [h.version]
  rfl

private theorem le_length_encodeBody : 2 ≤ e.encodeBody.length := by
  unfold encodeBody
  simp only [List.length_append, length_encodeWord]
  omega

private theorem readBody_encodeBody (h : e.Standard) : readBody e.encodeBody = .ok e := by
  obtain ⟨version, group, pairwise, methods, capabilities, keyNames, management⟩ := e
  obtain ⟨hversion, hpairwise, hmethods, hkeyNames⟩ := h
  dsimp only at hversion hpairwise hmethods hkeyNames
  subst hversion
  -- The names have a count that may be missing where it is read, but is always written.
  have hcount : ((some (UInt16.ofNat keyNames.length)).getD 0).toNat = keyNames.length :=
    UInt16.toNat_ofNat_of_lt' hkeyNames
  unfold encodeBody readBody
  simp only [List.append_assoc]
  rw [(reads_version "RSN").bind]
  dsimp only
  rw [((reads_suite "group cipher" group).orDefault (List.cons_ne_nil _ _) _).bind]
  dsimp only
  rw [((reads_suites "pairwise" hpairwise).orDefault (List.cons_ne_nil _ _) _).bind]
  dsimp only
  rw [((reads_suites "AKM" hmethods).orDefault (List.cons_ne_nil _ _) _).bind]
  dsimp only
  rw [((reads_word "capabilities" capabilities.bits).ifPresent (Nat.le_refl 2)).bind]
  dsimp only
  rw [((reads_word "PMKID count" _).ifPresent (Nat.le_refl 2)).bind]
  dsimp only
  rw [hcount, (Reads.times (reads_octets "PMKID") keyNames).bind]
  dsimp only
  -- Nothing follows the last field, so that it is missing only where there is none.
  rw [ifPresent_suite]
  rfl

end RsnElement

private theorem Suite.heads_octets_append (s : Suite) (rest : List UInt8) :
    s.heads (s.octets ++ rest) = true :=
  List.isPrefixOf_iff_prefix.mpr (List.prefix_append s.octets rest)

private theorem Suite.drop_octets_append (s : Suite) (rest : List UInt8) :
    (s.octets ++ rest).drop 4 = rest :=
  rfl

namespace WpaElement

variable {e : WpaElement}

/-- The version is the known one, and every count fits into two octets. -/
structure Standard (e : WpaElement) : Prop where
  version : e.version = 1
  pairwiseCiphers : e.pairwiseCiphers.length < UInt16.size
  methods : e.methods.length < UInt16.size

private theorem head?_encodeBody : e.encodeBody.head? = some 0 := rfl

private theorem le_length_encodeBody : 4 ≤ e.encodeBody.length := by
  unfold encodeBody
  simp only [List.length_append, length_octets]
  omega

private theorem readBody_encodeBody (h : e.Standard) : readBody e.encodeBody = .ok e := by
  obtain ⟨version, group, pairwise, methods⟩ := e
  obtain ⟨hversion, hpairwise, hmethods⟩ := h
  dsimp only at hversion hpairwise hmethods
  subst hversion
  unfold encodeBody readBody
  simp only [List.append_assoc]
  rw [Suite.heads_octets_append, Suite.drop_octets_append, Bool.not_true,
    if_neg Bool.false_ne_true, (reads_version "WPA").bind]
  dsimp only
  rw [((reads_suite "multicast cipher" group).orDefault (List.cons_ne_nil _ _) _).bind]
  dsimp only
  rw [((reads_suites "unicast" hpairwise).orDefault (List.cons_ne_nil _ _) _).bind]
  dsimp only
  rw [((reads_suites "auth" hmethods).orDefault (List.cons_ne_nil _ _) _).bind_last]
  rfl

end WpaElement

namespace WapiElement

variable {e : WapiElement}

/-- The version is the known one, and every count fits into two octets. -/
structure Standard (e : WapiElement) : Prop where
  version : e.version = 1
  methods : e.methods.length < UInt16.size
  pairwiseCiphers : e.pairwiseCiphers.length < UInt16.size

theorem head?_encodeBody (h : e.Standard) : e.encodeBody.head? = some 1 := by
  unfold encodeBody
  rw [h.version]
  rfl

private theorem le_length_encodeBody : 2 ≤ e.encodeBody.length := by
  unfold encodeBody
  simp only [List.length_append, length_encodeWord]
  omega

private theorem readBody_encodeBody (h : e.Standard) : readBody e.encodeBody = .ok e := by
  obtain ⟨version, methods, pairwise, group, capabilities⟩ := e
  obtain ⟨hversion, hmethods, hpairwise⟩ := h
  dsimp only at hversion hpairwise hmethods
  subst hversion
  unfold encodeBody readBody
  simp only [List.append_assoc]
  rw [(reads_version "WAPI").bind]
  dsimp only
  rw [(reads_suites "AKM" hmethods).bind]
  dsimp only
  rw [(reads_suites "unicast" hpairwise).bind]
  dsimp only
  rw [(reads_suite "multicast cipher" group).bind]
  dsimp only
  rw [((reads_word "capabilities" capabilities).ifPresent (Nat.le_refl 2)).bind_last]
  rfl

end WapiElement

/-- Elements of the known version whose counts fit are read back from their standard bodies. -/
theorem standard_read_back :
    (∀ e : RsnElement, e.Standard → ReadsBack Element.rsnId RsnElement.read e.encodeBody e) ∧
      (∀ e : WpaElement, e.Standard →
        ReadsBack Element.vendorId WpaElement.read e.encodeBody e) ∧
      ∀ e : WapiElement, e.Standard →
        ReadsBack Element.wapiId WapiElement.read e.encodeBody e := by
  refine ⟨fun e h => ?_, fun e h => ?_, fun e h => ?_⟩
  · refine readsBack_of_readBody (RsnElement.readBody_encodeBody h) ?_
      RsnElement.le_length_encodeBody
    rw [RsnElement.head?_encodeBody h]
    decide
  · refine readsBack_of_readBody (WpaElement.readBody_encodeBody h) ?_
      WpaElement.le_length_encodeBody
    rw [WpaElement.head?_encodeBody]
    decide
  · refine readsBack_of_readBody (WapiElement.readBody_encodeBody h) ?_
      WapiElement.le_length_encodeBody
    rw [WapiElement.head?_encodeBody h]
    decide

namespace WrittenElement

def rsn : RsnElement where
  version := 1
  groupCipher := ⟨.rsn, 4⟩
  pairwiseCiphers := [⟨.rsn, 4⟩, ⟨.rsn, 2⟩]
  methods := [⟨.rsn, 6⟩]
  capabilities := ⟨0x00C0⟩
  keyNames := [⟨List.replicate 16 7, rfl⟩]
  managementCipher := some ⟨.rsn, 6⟩

/-- Without any selector in its lists, which is not the same as without the lists. -/
def wpa : WpaElement := ⟨1, ⟨.wpa, 2⟩, [], []⟩

def wapi : WapiElement := ⟨1, [⟨.wapi, 2⟩], [⟨.wapi, 1⟩], ⟨.wapi, 1⟩, 0x0101⟩

private theorem rsn_standard : rsn.Standard := ⟨rfl, by decide, by decide, by decide⟩

private theorem wpa_standard : wpa.Standard := ⟨rfl, by decide, by decide⟩

private theorem wapi_standard : wapi.Standard := ⟨rfl, by decide, by decide⟩

theorem standard_read_back_three :
    (rsn.Standard ∧ wpa.Standard ∧ wapi.Standard) ∧
      (RsnElement.read rsn.encodeBody = .ok rsn ∧ rsn.encodeBody.length ≤ 255 ∧
        RsnElement.read (Element.encode ⟨Element.rsnId, rsn.encodeBody⟩ ++ [48, 255]) = .ok rsn) ∧
      (WpaElement.read wpa.encodeBody = .ok wpa ∧ wpa.encodeBody.length ≤ 255 ∧
        WpaElement.read (Element.encode ⟨Element.vendorId, wpa.encodeBody⟩ ++ [221, 255]) =
          .ok wpa) ∧
      WapiElement.read wapi.encodeBody = .ok wapi ∧ wapi.encodeBody.length ≤ 255 ∧
        WapiElement.read (Element.encode ⟨Element.wapiId, wapi.encodeBody⟩ ++ [68, 255]) =
          .ok wapi := by
  obtain ⟨hrsn, hwpa, hwapi⟩ := standard_read_back
  have rsn_read := hrsn rsn rsn_standard
  have wpa_read := hwpa wpa wpa_standard
  have wapi_read := hwapi wapi wapi_standard
  have hlengths : rsn.encodeBody.length ≤ 255 ∧ wpa.encodeBody.length ≤ 255 ∧
      wapi.encodeBody.length ≤ 255 := by decide
  exact ⟨⟨rsn_standard, wpa_standard, wapi_standard⟩,
    ⟨rsn_read.bare, hlengths.1, rsn_read.headed hlengths.1 _⟩,
    ⟨wpa_read.bare, hlengths.2.1, wpa_read.headed hlengths.2.1 _⟩,
    wapi_read.bare, hlengths.2.2, wapi_read.headed hlengths.2.2 _⟩

end WrittenElement

end Hotspot
