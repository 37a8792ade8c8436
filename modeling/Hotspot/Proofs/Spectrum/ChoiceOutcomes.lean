import Hotspot.Proofs.Spectrum.Admission

/-!
What automatic choice falls on. The widest width at which a tuning is offered is used, and over all
octets that may be drawn every tuning comes up that is offered there and that no preference rules
out, whatever the time; nothing else ever does.
-/

set_option autoImplicit false
set_option relaxedAutoImplicit false

namespace Hotspot

open NonOccupancy (Table)

namespace Width

variable {w ceiling : Width}

private theorem mem_ladder_iff : w ∈ ceiling.ladder ↔ w.megahertz ≤ ceiling.megahertz := by
  cases ceiling <;> cases w <;> decide

private theorem pairwise_ladder (ceiling : Width) :
    ceiling.ladder.Pairwise fun a b => b.megahertz < a.megahertz := by
  cases ceiling <;> decide

private theorem mem_before_iff {before after : List Width}
    (h : ceiling.ladder = before ++ w :: after) {w' : Width} :
    w' ∈ before ↔ w'.megahertz ≤ ceiling.megahertz ∧ w.megahertz < w'.megahertz := by
  have hfalls := h ▸ pairwise_ladder ceiling
  obtain ⟨-, hrest, hbefore⟩ := List.pairwise_append.mp hfalls
  rw [← mem_ladder_iff, h, List.mem_append, List.mem_cons]
  constructor
  · intro hw'
    exact ⟨.inl hw', hbefore w' hw' w List.mem_cons_self⟩
  · rintro ⟨hw' | rfl | hw', hlt⟩
    · exact hw'
    · exact absurd hlt (Nat.lt_irrefl _)
    · exact absurd ((List.pairwise_cons.mp hrest).1 w' hw') (Nat.lt_asymm hlt)

end Width

namespace Selection

private theorem draw_eq (tick : UInt64) (size : Nat) {n : Nat} (hn : n < 256) :
    draw (UInt8.ofNat n) tick size = (n + tick.toNat) % UInt64.size % size := by
  have hoctet : (UInt8.ofNat n).toUInt64.toNat = n := by
    rw [UInt8.toNat_toUInt64, UInt8.toNat_ofNat_of_lt' hn]
  rw [draw, UInt64.toNat_add, hoctet]

/-- Whatever the time, an octet can point to any place of a pool that is not too large. The sum of
octet and time may start again at zero once: then enough octets lead there, or enough do not. -/
private theorem exists_draw_eq (tick : UInt64) {size i : Nat} (hi : i < size) (hsize : size ≤ 128) :
    ∃ octet, draw octet tick size = i := by
  have htick : tick.toNat < UInt64.size := tick.toNat_lt_size
  have hlarge : 256 ≤ UInt64.size := by decide
  by_cases hwrap : tick.toNat + 128 ≤ UInt64.size
  · have hsmall : (i + (size - tick.toNat % size)) % size < size := Nat.mod_lt _ (by omega)
    have hmod : tick.toNat % size < size := Nat.mod_lt _ (by omega)
    refine ⟨UInt8.ofNat ((i + (size - tick.toNat % size)) % size), ?_⟩
    have hstays : ((i + (size - tick.toNat % size)) % size + tick.toNat) % UInt64.size =
        (i + (size - tick.toNat % size)) % size + tick.toNat := Nat.mod_eq_of_lt (by omega)
    have hsum : i + (size - tick.toNat % size) + tick.toNat =
        i + size * (tick.toNat / size + 1) := by
      have hdiv := Nat.div_add_mod tick.toNat size
      rw [Nat.mul_add, Nat.mul_one]
      omega
    rw [draw_eq tick size (by omega), hstays, Nat.mod_add_mod, hsum, Nat.add_mul_mod_self_left,
      Nat.mod_eq_of_lt hi]
  · refine ⟨UInt8.ofNat (UInt64.size - tick.toNat + i), ?_⟩
    have hsum : UInt64.size - tick.toNat + i + tick.toNat = i + UInt64.size := by omega
    have hstarts : (i + UInt64.size) % UInt64.size = i := by
      rw [Nat.add_mod_right]
      exact Nat.mod_eq_of_lt (by omega)
    rw [draw_eq tick size (by omega), hsum, hstarts, Nat.mod_eq_of_lt hi]

variable {d : Domain} {base kept group : List Channel} {ceiling w : Width} {c : Channel}

private theorem mem_pool_iff {avoidRadar : Bool} : c ∈ pool d avoidRadar group ↔
    c ∈ group ∧
      (avoidRadar = true → (∃ e ∈ group, d.isRadar e = false) → d.isRadar c = false) := by
  have hquiet : (group.filter fun e => !d.isRadar e).isEmpty = false ↔
      ∃ e ∈ group, d.isRadar e = false := by
    simp
  unfold pool
  dsimp only
  split
  · rename_i hpref
    rw [Bool.and_eq_true, Bool.not_eq_true', hquiet] at hpref
    simp [List.mem_filter, hpref]
  · rename_i hpref
    rw [Bool.and_eq_true, Bool.not_eq_true', hquiet] at hpref
    exact ⟨fun hc => ⟨hc, fun ha he => absurd ⟨ha, he⟩ hpref⟩, And.left⟩

private theorem pool_ne_nil {avoidRadar : Bool} (h : group ≠ []) :
    pool d avoidRadar group ≠ [] := by
  unfold pool
  dsimp only
  split
  · rename_i hpref
    rw [Bool.and_eq_true, Bool.not_eq_true'] at hpref
    exact List.isEmpty_eq_false_iff.mp hpref.2
  · exact h

private theorem length_pool_le {avoidRadar : Bool} :
    (pool d avoidRadar group).length ≤ group.length := by
  unfold pool
  dsimp only
  split
  · exact List.length_filter_le _ group
  · exact Nat.le_refl _

private theorem widest?_eq (base kept : List Channel) (ceiling : Width) :
    widest? base kept ceiling = ceiling.ladder.findSome? fun w =>
      if (selectable base kept w).isEmpty then none else some (w, selectable base kept w) := by
  unfold widest?
  congr 1
  funext w
  cases selectable base kept w <;> rfl

private theorem widest?_eq_none_iff : widest? base kept ceiling = none ↔
    ∀ w, w.megahertz ≤ ceiling.megahertz → selectable base kept w = [] := by
  rw [widest?_eq, List.findSome?_eq_none_iff]
  refine forall_congr' fun w => ?_
  rw [Width.mem_ladder_iff]
  simp

private theorem widest?_eq_some_iff : widest? base kept ceiling = some (w, group) ↔
    group = selectable base kept w ∧ group ≠ [] ∧ w.megahertz ≤ ceiling.megahertz ∧
      ∀ w', w'.megahertz ≤ ceiling.megahertz → w.megahertz < w'.megahertz →
        selectable base kept w' = [] := by
  rw [widest?_eq, List.findSome?_eq_some_iff]
  simp only [Option.ite_none_left_eq_some, List.isEmpty_iff, ite_eq_left_iff, reduceCtorEq,
    imp_false, not_not]
  constructor
  · rintro ⟨before, v, after, hladder, ⟨hne, hfound⟩, hearlier⟩
    cases hfound
    have hmem : w ∈ ceiling.ladder := by simp [hladder]
    refine ⟨rfl, hne, Width.mem_ladder_iff.mp hmem, fun w' hw' hlt => ?_⟩
    exact hearlier w' ((Width.mem_before_iff hladder).mpr ⟨hw', hlt⟩)
  · rintro ⟨rfl, hne, hw, hnone⟩
    obtain ⟨before, after, hladder⟩ := List.append_of_mem (Width.mem_ladder_iff.mpr hw)
    refine ⟨before, w, after, hladder, ⟨hne, rfl⟩, fun w' hw' => ?_⟩
    obtain ⟨hle, hlt⟩ := (Width.mem_before_iff hladder).mp hw'
    exact hnone w' hle hlt

namespace Quest

variable {q : Quest} {tu : Tuning} {octet : UInt8} {tick : UInt64}

def lots (q : Quest) (w : Width) : List Channel :=
  pool q.domain q.avoidsRadar (q.group w)

private theorem choice_eq (q : Quest) (ceiling : Width) (octet : UInt8) (tick : UInt64) :
    q.choice ceiling octet tick =
      (widest? q.base (q.table.unavailable q.now).1 ceiling).bind fun p =>
        (pool q.domain q.avoidsRadar p.2)[draw octet tick
          (pool q.domain q.avoidsRadar p.2).length]?.map fun c => Tuning.resolve c p.1 := by
  have hv := (viewed_candidates q.domain q.policy q.range q.now q.table).unavailable
  unfold choice base
  rw [select?]
  generalize candidates q.domain q.policy q.range q.now q.table = found at hv ⊢
  obtain ⟨base, looked⟩ := found
  dsimp only at hv ⊢
  cases base with
  | nil =>
    have hnone : widest? [] (q.table.unavailable q.now).1 ceiling = none :=
      widest?_eq_none_iff.mpr fun _ _ => rfl
    rw [hnone]
    rfl
  | cons c rest =>
    rw [← hv]
    rfl

theorem choice_of_viewed {table : Table} (hd : q.domain.validate = .ok ())
    (hv : Table.Viewed q.now q.table table) (ceiling : Width) (octet : UInt8) (tick : UInt64) :
    { q with table }.choice ceiling octet tick = q.choice ceiling octet tick := by
  rw [choice_eq, choice_eq, base_of_viewed hd hv, hv.unavailable]
  rfl

private theorem choice_of_widest? (hw : widest? q.base (q.table.unavailable q.now).1 ceiling =
    some (w, q.group w)) (octet : UInt8) (tick : UInt64) :
    q.choice ceiling octet tick =
      (q.lots w)[draw octet tick (q.lots w).length]?.map fun c => Tuning.resolve c w := by
  rw [choice_eq, hw]
  rfl

/-- A choice may fall on the tuning: it is offered, within the ceiling and as wide as any such, and
no preference for channels without radar speaks against it. -/
structure Picks (q : Quest) (ceiling : Width) (tu : Tuning) : Prop where
  offered : q.Offers tu
  within : tu.width.megahertz ≤ ceiling.megahertz
  widest : ∀ tu', q.Offers tu' → tu'.width.megahertz ≤ ceiling.megahertz →
    tu'.width.megahertz ≤ tu.width.megahertz
  preferred : q.avoidsRadar = true →
    (∃ tu', q.Offers tu' ∧ tu'.width = tu.width ∧ q.domain.isRadar tu'.channel = false) →
      q.domain.isRadar tu.channel = false

private theorem group_eq_nil_iff (hd : q.domain.validate = .ok ()) :
    q.group w = [] ↔ ∀ tu, q.Offers tu → tu.width ≠ w := by
  rw [List.eq_nil_iff_forall_not_mem]
  constructor
  · rintro h tu hoffers rfl
    exact h tu.channel ((mem_group_iff hd).mpr ⟨tu.bonding, hoffers⟩)
  · intro h c hc
    obtain ⟨b, hoffers⟩ := (mem_group_iff hd).mp hc
    exact h _ hoffers rfl

private theorem mem_lots_iff (hd : q.domain.validate = .ok ()) (hoffers : q.Offers tu) :
    tu.channel ∈ q.lots tu.width ↔ (q.avoidsRadar = true →
      (∃ tu', q.Offers tu' ∧ tu'.width = tu.width ∧ q.domain.isRadar tu'.channel = false) →
        q.domain.isRadar tu.channel = false) := by
  have hgroup : tu.channel ∈ q.group tu.width := (mem_group_iff hd).mpr ⟨tu.bonding, hoffers⟩
  have hquiet : (∃ e ∈ q.group tu.width, q.domain.isRadar e = false) ↔
      ∃ tu', q.Offers tu' ∧ tu'.width = tu.width ∧ q.domain.isRadar tu'.channel = false := by
    constructor
    · rintro ⟨e, he, hradar⟩
      obtain ⟨b, he⟩ := (mem_group_iff hd).mp he
      exact ⟨_, he, rfl, hradar⟩
    · rintro ⟨tu', h, hw, hradar⟩
      exact ⟨tu'.channel, (mem_group_iff hd).mpr ⟨tu'.bonding, hw ▸ h⟩, hradar⟩
  rw [lots, mem_pool_iff, and_iff_right hgroup, hquiet]

/-- A choice may fall on a tuning exactly if its width is the widest and its channel is among those
that the draw is made from. -/
private theorem picks_iff (hd : q.domain.validate = .ok ()) : q.Picks ceiling tu ↔
    q.Offers tu ∧ tu.channel ∈ q.lots tu.width ∧
      widest? q.base (q.table.unavailable q.now).1 ceiling =
        some (tu.width, q.group tu.width) := by
  rw [widest?_eq_some_iff]
  constructor
  · rintro ⟨hoffers, hwithin, hwidest, hpreferred⟩
    refine ⟨hoffers, (mem_lots_iff hd hoffers).mpr hpreferred, rfl, ?_, hwithin,
      fun w' hle hlt => ?_⟩
    · exact List.ne_nil_of_mem ((mem_group_iff hd).mpr ⟨tu.bonding, hoffers⟩)
    · refine (group_eq_nil_iff hd).mpr fun tu' h' hw' => ?_
      have hle' := hwidest tu' h' (hw' ▸ hle)
      rw [hw'] at hle'
      exact absurd hlt (Nat.not_lt.mpr hle')
  · rintro ⟨hoffers, hlots, -, -, hwithin, hnone⟩
    refine ⟨hoffers, hwithin, fun tu' h' hle => ?_, (mem_lots_iff hd hoffers).mp hlots⟩
    by_contra hlt
    have hempty : q.group tu'.width = [] := hnone tu'.width hle (Nat.not_le.mp hlt)
    exact (group_eq_nil_iff hd).mp hempty tu' h' rfl

theorem choice_eq_none_iff (hd : q.domain.validate = .ok ()) :
    q.choice ceiling octet tick = none ↔
      ∀ tu, q.Offers tu → ¬ tu.width.megahertz ≤ ceiling.megahertz := by
  have hempty : widest? q.base (q.table.unavailable q.now).1 ceiling = none ↔
      ∀ tu, q.Offers tu → ¬ tu.width.megahertz ≤ ceiling.megahertz := by
    rw [widest?_eq_none_iff]
    constructor
    · intro h tu hoffers hle
      exact (group_eq_nil_iff hd).mp (h tu.width hle) tu hoffers rfl
    · intro h w hle
      exact (group_eq_nil_iff hd).mpr fun tu hoffers hw => h tu hoffers (hw ▸ hle)
  rw [← hempty]
  cases hw : widest? q.base (q.table.unavailable q.now).1 ceiling with
  | none => simp [choice_eq, hw]
  | some p =>
    obtain ⟨w, group⟩ := p
    obtain ⟨rfl, hne, -⟩ := widest?_eq_some_iff.mp hw
    have hlots : q.lots w ≠ [] := pool_ne_nil hne
    have hplace : draw octet tick (q.lots w).length < (q.lots w).length :=
      Nat.mod_lt _ (List.length_pos_iff.mpr hlots)
    rw [choice_of_widest? hw]
    simp [List.getElem?_eq_getElem hplace]

theorem exists_choice_iff (hd : q.domain.validate = .ok ()) :
    (∃ octet, q.choice ceiling octet tick = some tu) ↔ q.Picks ceiling tu := by
  rw [picks_iff hd]
  constructor
  · rintro ⟨octet, h⟩
    cases hw : widest? q.base (q.table.unavailable q.now).1 ceiling with
    | none =>
      rw [choice_eq, hw] at h
      cases h
    | some p =>
      obtain ⟨w, group⟩ := p
      obtain ⟨rfl, -⟩ := widest?_eq_some_iff.mp hw
      rw [choice_of_widest? hw] at h
      obtain ⟨c, hc, rfl⟩ := Option.map_eq_some_iff.mp h
      have hlots : c ∈ q.lots w := List.mem_of_getElem? hc
      obtain ⟨b, hoffers⟩ := (mem_group_iff hd).mp (mem_pool_iff.mp hlots).1
      rw [Tuning.resolve_of_bonding hoffers.bonds]
      exact ⟨hoffers, hlots, rfl⟩
  · rintro ⟨hoffers, hlots, hw⟩
    obtain ⟨i, hi, hc⟩ := List.getElem_of_mem hlots
    -- A group has at most as many channels as a domain, few enough for an octet to reach each.
    have hsize : (q.lots tu.width).length ≤ 128 := by
      calc (q.lots tu.width).length
          ≤ (q.group tu.width).length := length_pool_le
        _ ≤ Domain.channelLimit := length_group_le hd
        _ ≤ 128 := by decide
    obtain ⟨octet, hdraw⟩ := exists_draw_eq tick hi hsize
    refine ⟨octet, ?_⟩
    rw [choice_of_widest? hw, hdraw, List.getElem?_eq_getElem hi, hc, Option.map_some,
      ← hoffers.eq_resolve]

/-- In a sound domain, there is no choice exactly if no width up to the ceiling has a tuning on
offer. Otherwise, at any time, the tunings that a choice falls on for some octet are those on offer
at the widest such width, the ones on channels without radar if these are preferred and there are
any; and each is to a full group, of which its channel is one. -/
theorem choice_among_offers (hd : q.domain.validate = .ok ()) (ceiling : Width) (tick : UInt64) :
    (∀ octet, q.choice ceiling octet tick = none ↔
        ∀ tu, q.Offers tu → ¬ tu.width.megahertz ≤ ceiling.megahertz) ∧
      (∀ tu, (∃ octet, q.choice ceiling octet tick = some tu) ↔ q.Picks ceiling tu) ∧
      ∀ tu, q.Offers tu → tu.bonding.width = tu.width ∧ tu.channel ∈ tu.channels ∧
        tu.channels.length = tu.width.parts := by
  refine ⟨fun octet => choice_eq_none_iff hd, fun tu => exists_choice_iff hd, fun tu h => ?_⟩
  exact Bonding.fills_of_of? h.bonds (Domain.ne_zero_of_validate hd tu.channel h.admitted.allowed)

def besideRadar : Quest :=
  ⟨⟨"TT", .fcc, [36, 40, 44, 48].map fun c => ⟨c, true, false, 20⟩⟩, {}, {}, 1000,
    ⟨{}, [⟨36, .usable⟩, ⟨40, .usable⟩, ⟨44, .unavailable 0⟩, ⟨48, .usable⟩], []⟩⟩

theorem picks_besideRadar : besideRadar.domain.validate = .ok () ∧
    besideRadar.choice .mhz80 1 18446744073709551615 = some ⟨36, .mhz40, .firstOfTwo⟩ ∧
    besideRadar.Picks .mhz80 ⟨36, .mhz40, .firstOfTwo⟩ := by
  have hd : besideRadar.domain.validate = .ok () := by decide
  have hchoice : besideRadar.choice .mhz80 1 18446744073709551615 =
      some ⟨36, .mhz40, .firstOfTwo⟩ := by decide +kernel
  obtain ⟨-, hpicks, -⟩ := choice_among_offers hd .mhz80 18446744073709551615
  exact ⟨hd, hchoice, (hpicks _).mp ⟨1, hchoice⟩⟩

end Quest

end Selection

end Hotspot
