import Hotspot.Spectrum.Grouping

/-!
A channel's group is complete exactly if the channel bonds, and with candidates only. The set of
places that candidates take in a block is read bit by bit: a bit stands for one channel, so that
going by sets of places comes to the same as looking for each bonded channel among the candidates.
-/

set_option autoImplicit false
set_option relaxedAutoImplicit false

namespace Hotspot.Grouping

private def take (block : Nat) (places : Places) (c : Channel) : Places :=
  match c.block? with
  | some (b, place) => if b = block then places ||| 1 <<< place else places
  | none => places

private theorem testBit_take (block : Nat) (places : Places) (c : Channel) (i : Nat) :
    (take block places c).testBit i = true ↔
      places.testBit i = true ∨ c.block? = some (block, i) := by
  unfold take
  cases hc : c.block? with
  | none => simp
  | some place =>
    obtain ⟨b, p⟩ := place
    by_cases hb : b = block
    · simp [hb, Nat.testBit_or, Nat.one_shiftLeft, Nat.testBit_two_pow]
    · simp [hb]

private theorem testBit_foldl_take (candidates : List Channel) (block : Nat) (places : Places)
    (i : Nat) :
    (candidates.foldl (take block) places).testBit i = true ↔
      places.testBit i = true ∨ ∃ d ∈ candidates, d.block? = some (block, i) := by
  induction candidates generalizing places with
  | nil => simp
  | cons c rest ih =>
    rw [List.foldl_cons, ih, testBit_take, or_assoc]
    simp

private theorem testBit_taken (candidates : List Channel) (block i : Nat) :
    (taken candidates block).testBit i = true ↔
      ∃ d ∈ candidates, d.block? = some (block, i) := by
  have h : (taken candidates block).testBit i = true ↔ Nat.testBit 0 i = true ∨
      ∃ d ∈ candidates, d.block? = some (block, i) := testBit_foldl_take candidates block 0 i
  simpa using h

private theorem testBit_of_and_eq {x m : Nat} (h : x &&& m = m) {i : Nat}
    (hi : m.testBit i = true) : x.testBit i = true := by
  rw [← h, Nat.testBit_and] at hi
  exact (Bool.and_eq_true_iff.mp hi).1

private theorem block?_injective {c d : Channel} {b p : Nat} (hc : c.block? = some (b, p))
    (hd : d.block? = some (b, p)) : c = d := by
  have key : ∀ n < 256, ∀ x ∈ Channel.block? (UInt8.ofNat n),
      UInt8.ofNat n = Channel.blockStarts.getD x.1 0 + 4 * UInt8.ofNat x.2 := by
    decide +kernel
  have inverse (e : Channel) (he : e.block? = some (b, p)) :
      e = Channel.blockStarts.getD b 0 + 4 * UInt8.ofNat p := by
    have h := key e.toNat e.toNat_lt (b, p) (by simpa using he)
    simpa using h
  rw [inverse c hc, inverse d hd]

private theorem testBit_taken_iff_mem (candidates : List Channel) {c : Channel} {block place : Nat}
    (hc : c.block? = some (block, place)) :
    (taken candidates block).testBit place = true ↔ c ∈ candidates := by
  rw [testBit_taken]
  constructor
  · rintro ⟨d, hd, hplace⟩
    rwa [block?_injective hc hplace]
  · intro hmem
    exact ⟨c, hmem, hc⟩

private theorem bonded_in_block {c : Channel} {block place : Nat}
    (hc : c.block? = some (block, place))
    {w : Width} (hw : w ≠ .mhz20) :
    ∃ b, Bonding.of? c w = some b ∧ taken (b.channels c) block = needed w place ∧
      ∀ d ∈ b.channels c, ∃ q, d.block? = some (block, q) ∧ (needed w place).testBit q = true := by
  have key : ∀ w ∈ [Width.mhz40, .mhz80], ∀ n < 256, ∀ x ∈ Channel.block? (UInt8.ofNat n),
      ∃ b ∈ Bonding.of? (UInt8.ofNat n) w,
        taken (b.channels (UInt8.ofNat n)) x.1 = needed w x.2 ∧
          ((b.channels (UInt8.ofNat n)).all fun d => (Channel.block? d).any fun y =>
            y.1 == x.1 && (needed w x.2).testBit y.2) = true := by
    decide +kernel
  have hm : w ∈ [Width.mhz40, .mhz80] := by cases w <;> simp at hw ⊢
  obtain ⟨b, hb, htaken, hall⟩ := key w hm c.toNat c.toNat_lt (block, place) (by simpa using hc)
  rw [UInt8.ofNat_toNat] at hb htaken hall
  refine ⟨b, hb, htaken, fun d hd => ?_⟩
  obtain ⟨⟨block', q⟩, hx, hplace⟩ := (Option.any_eq_true _ _).mp (List.all_eq_true.mp hall d hd)
  rw [Bool.and_eq_true, beq_iff_eq] at hplace
  obtain ⟨rfl, hq⟩ := hplace
  exact ⟨q, hx, hq⟩

theorem channels_alone (c : Channel) : Bonding.alone.channels c = if c = 0 then [] else [c] := by
  have key : ∀ n < 256, Bonding.alone.channels (UInt8.ofNat n) =
      if UInt8.ofNat n = 0 then [] else [UInt8.ofNat n] := by
    decide +kernel
  have h := key c.toNat c.toNat_lt
  rwa [UInt8.ofNat_toNat] at h

theorem mem_channels_alone {c d : Channel} :
    d ∈ Bonding.alone.channels c ↔ d = c ∧ c ≠ 0 := by
  rw [channels_alone]
  by_cases hc : c = 0 <;> simp [hc]

theorem exists_bonding_of_complete {candidates : List Channel} {w : Width} {c : Channel}
    (hc : c ∈ candidates) (h : complete candidates w c = true) :
    ∃ b, Bonding.of? c w = some b ∧ ∀ d ∈ b.channels c, d ∈ candidates := by
  have upper (hw : w ≠ .mhz20) {block place : Nat} (hb : c.block? = some (block, place))
      (ht : taken candidates block &&& needed w place = needed w place) :
      ∃ b, Bonding.of? c w = some b ∧ ∀ d ∈ b.channels c, d ∈ candidates := by
    obtain ⟨b, hof, -, hall⟩ := bonded_in_block hb hw
    refine ⟨b, hof, fun d hd => ?_⟩
    obtain ⟨q, hq, hn⟩ := hall d hd
    exact (testBit_taken_iff_mem candidates hq).mp (testBit_of_and_eq ht hn)
  unfold complete at h
  split at h
  · exact ⟨.alone, by simp [Bonding.of?], fun d hd => (mem_channels_alone.mp hd).1 ▸ hc⟩
  · rename_i hw _ hb
    exact upper hw hb (by simpa using h)
  · obtain ⟨b, hb, hall⟩ := (Option.any_eq_true _ _).mp h
    exact ⟨b, hb, by simpa using hall⟩
  · simp at h

theorem complete_of_bonding {candidates : List Channel} {w : Width} {c : Channel} {b : Bonding}
    (hb : Bonding.of? c w = some b) (h : ∀ d ∈ b.channels c, d ∈ candidates) :
    complete candidates w c = true := by
  -- In the upper band a group is complete exactly if its bits are among those that are taken.
  have upper (hw : w ≠ .mhz20) {block place : Nat} (hc : c.block? = some (block, place)) :
      taken candidates block &&& needed w place = needed w place := by
    obtain ⟨b', hb', htaken, -⟩ := bonded_in_block hc hw
    obtain rfl := Option.some.inj (hb'.symm.trans hb)
    refine Nat.eq_of_testBit_eq fun q => ?_
    rw [Nat.testBit_and]
    cases hq : (needed w place).testBit q with
    | false => exact Bool.and_false _
    | true =>
      rw [← htaken] at hq
      obtain ⟨d, hd, hplace⟩ := (testBit_taken _ block q).mp hq
      rw [Bool.and_true]
      exact (testBit_taken candidates block q).mpr ⟨d, h d hd, hplace⟩
  cases w with
  | mhz20 => rfl
  | mhz40 =>
    cases hband : c.band with
    | lower => simpa [complete, hband, hb] using h
    | upper =>
      cases hc : c.block? with
      | none => simp [Bonding.of?, hband, hc] at hb
      | some x => simpa [complete, hband, hc] using upper nofun hc
  | mhz80 =>
    cases hband : c.band with
    | lower => simp [Bonding.of?, hband] at hb
    | upper =>
      cases hc : c.block? with
      | none => simp [Bonding.of?, hband, hc] at hb
      | some x => simpa [complete, hband, hc] using upper nofun hc

theorem complete_iff {candidates : List Channel} {w : Width} {c : Channel} (hc : c ∈ candidates) :
    complete candidates w c = true ↔
      ∃ b, Bonding.of? c w = some b ∧ ∀ d ∈ b.channels c, d ∈ candidates :=
  ⟨exists_bonding_of_complete hc, fun ⟨_, hb, h⟩ => complete_of_bonding hb h⟩

/-- The channel bonds at the width, and all that it takes is among the candidates. -/
def joins (candidates : List Channel) (w : Width) (c : Channel) : Bool :=
  (Bonding.of? c w).any fun b => (b.channels c).all candidates.contains

private theorem joins_iff {candidates : List Channel} {w : Width} {c : Channel} :
    joins candidates w c = true ↔
      ∃ b, Bonding.of? c w = some b ∧ ∀ d ∈ b.channels c, d ∈ candidates := by
  simp [joins, Option.any_eq_true]

/-- Whatever the candidates are, in whatever order and however often they are named, those that are
kept are, in that order and as often, the ones that join candidates only. -/
theorem keep_eq_filter_joins (candidates : List Channel) (w : Width) :
    keep candidates w = candidates.filter (joins candidates w) := by
  unfold keep
  refine List.filter_congr fun c hc => ?_
  rw [Bool.eq_iff_iff, complete_iff hc, joins_iff]

/-- Number 0, channel 165 and a pair without its upper channel are left out; what is named twice is
kept twice. -/
example : keep [40, 0, 36, 165, 60, 40] .mhz40 = [40, 36, 40] := by decide

end Hotspot.Grouping
