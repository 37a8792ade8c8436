import Hotspot.Proofs.AccessPoint.NextTuning

/-!
Whoever goes on the air does so on channels that radar does not bar. A session chooses free channels
and then heads for them; only who listens there, or is on the air there already, moves away from
radar. A session that starts, leaves for another channel, or announces that it will, may find radar
reported where it is headed, and goes on the air there all the same, though the channel must be left
alone. Nothing else puts a session on the air on a channel that is barred.
-/

set_option autoImplicit false
set_option relaxedAutoImplicit false

namespace Hotspot

open NonOccupancy (Table)
open Scene (Keeps)

namespace Controller

variable {c : Controller}

def HeadsFor (c : Controller) (id : SessionId) (ch : Channel) : Prop :=
  ∃ tu, c.nextTuning? id = some tu ∧ ch ∈ tu.channels

/-- The layer below reports no tuning for a session but the one that the session moves to, or the
one it is on while it does not move. -/
def ReportsOwnTuning (c : Controller) (op : Operation) : Prop :=
  ∀ id tu s, op.heard? = some (id, tu) → c.session? id = some s → s.target.or s.tuning = some tu

/-- Whoever the operation puts on the air or tells to send goes where it was headed, and radar bars
no channel of that at that instant. -/
def AirsUnbarred (c : Controller) (op : Operation) : Prop :=
  ∀ now id, op.now? = some now → (c.perform op).2.Airs id → ∃ tu, c.nextTuning? id = some tu ∧
    (∀ s, (c.perform op).1.session? id = some s → s.phase = .started → s.tuning = some tu) ∧
    ∀ ch ∈ tu.channels, ¬ Table.Barred now (c.perform op).1.airspace.table ch

/-- The operation reports radar, and with it puts the channel on the non-occupancy list. -/
def Bars (c : Controller) (op : Operation) (ch : Channel) (since : Instant) : Prop :=
  op.now? = some since ∧ ∃ channels, c.reports? op = some channels ∧ ch ∈ channels ∧
    c.airspace.table.tracks ch = true ∧ c.airspace.table.isFree ch = true

/-- In the run so far the channel went on the non-occupancy list while the session was headed for
it, and the session has been headed for it ever since. -/
inductive BarredOnTheWay (c : Controller) (id : SessionId) (ch : Channel) (since : Instant) :
    List Operation → Prop
  | hit (ops : List Operation) (op : Operation) (bars : (c.after ops).Bars op ch since)
      (heads : (c.after (ops ++ [op])).HeadsFor id ch) : BarredOnTheWay c id ch since (ops ++ [op])
  | on (ops : List Operation) (op : Operation) (before : BarredOnTheWay c id ch since ops)
      (heads : (c.after (ops ++ [op])).HeadsFor id ch) : BarredOnTheWay c id ch since (ops ++ [op])

private theorem BarredOnTheWay.exists_bars {id : SessionId} {ch : Channel} {since : Instant}
    {ops : List Operation} (h : BarredOnTheWay c id ch since ops) :
    ∃ done op, done ++ [op] <+: ops ∧ (c.after done).Bars op ch since := by
  induction h with
  | hit ops op hbars hheads => exact ⟨ops, op, List.prefix_refl _, hbars⟩
  | on ops op hbefore hheads ih =>
    obtain ⟨done, last, hdone, hbars⟩ := ih
    exact ⟨done, last, hdone.trans (List.prefix_append ops [op]), hbars⟩

private theorem BarredOnTheWay.headsFor {id : SessionId} {ch : Channel} {since : Instant}
    {ops : List Operation}
    (h : BarredOnTheWay c id ch since ops) : (c.after ops).HeadsFor id ch := by
  cases h with
  | hit ops op hbars hheads => exact hheads
  | on ops op hbefore hheads => exact hheads

variable {op : Operation} {result : Controller × Journal}

def marked (c : Controller) (op : Operation) : Table :=
  match op.now?, c.reports? op with
  | some now, some channels => (c.airspace.table.markEach now channels).2
  | _, _ => c.airspace.table

theorem absence_marked (ch : Channel) :
    (c.marked op).absence ch = c.airspace.table.absence ch := by
  unfold marked
  split
  · exact Table.absence_markEach _ _ _ ch
  · rfl

theorem exists_now_of_reports? {channels : List Channel} (h : c.reports? op = some channels) :
    ∃ now, op.now? = some now := by
  cases op with
  | dispatch env now id e => exact ⟨now, rfl⟩
  | _ => cases h

theorem status?_marked {ch : Channel} {since : Instant} :
    (c.marked op).status? ch = some (.unavailable since) ↔
      c.airspace.table.status? ch = some (.unavailable since) ∨ c.Bars op ch since := by
  unfold marked Bars
  cases hreport : c.reports? op with
  | none => cases op.now? <;> simp
  | some channels =>
    obtain ⟨now, htime⟩ := exists_now_of_reports? hreport
    simp only [htime, Table.status?_markEach_iff, Option.some.injEq, exists_eq_left']

theorem Effect.looked (h : c.Effect op result) (hd : c.airspace.seeded = true) :
    (result.1.airspace.seeded = false ∧ ∀ id, result.1.nextTuning? id = none) ∨
      result.1.airspace.table = c.marked op ∨
        ∃ now, op.now? = some now ∧ Table.Looked now (c.marked op) result.1.airspace.table := by
  cases h with
  | manage c' quiet _ how =>
    have hmarked : c.marked op = c.airspace.table := by simp [marked, quiet]
    rcases how.cases with ⟨hair, -⟩ | ⟨⟨domain, table, hair⟩, hoff⟩
    · refine .inr (.inl ?_)
      rw [hmarked]
      exact congrArg Airspace.table hair
    · have hfresh := congrArg Airspace.seeded hair
      refine .inl ⟨hfresh, fun id => Option.eq_none_iff_forall_not_mem.mpr fun tu hc => ?_⟩
      obtain ⟨st, hst, hnext⟩ := Scene.exists_of_nextTuning (σ := c'.scene) hc
      rw [Stance.nextTuning, (hoff id st hst).2] at hnext
      cases hnext
  | move now σ c' j time quiet _ reported path =>
    have hmarked : c.marked op = c.airspace.table := by simp [marked, quiet]
    refine .inr (.inr ⟨now, time, ?_⟩)
    rw [hmarked]
    exact reported.looked path hd
  | strike now channels σ c' j time reported _ strikes path =>
    have hmarked : c.marked op = (c.airspace.table.markEach now channels).2 := by
      simp [marked, time, reported]
    refine .inr (.inr ⟨now, time, ?_⟩)
    rw [hmarked]
    obtain ⟨run, hair, -⟩ := strikes.airspace
    have hlooked := (path.looked (by rw [hair]; exact hd)).1
    exact strikes.looked.trans hlooked
  | complete now run σ c' j time quiet _ _ completes path =>
    have hmarked : c.marked op = c.airspace.table := by simp [marked, quiet]
    refine .inr (.inr ⟨now, time, ?_⟩)
    rw [hmarked]
    exact completes.looked path hd

private theorem Effect.airs (h : c.Effect op result) (hs : c.Sound) (htrue : c.ReportsOwnTuning op)
    {now : Instant} {id : SessionId} (htime : op.now? = some now) (hair : result.2.Airs id) :
    ∃ tu, c.nextTuning? id = some tu ∧
      (∀ s, result.1.session? id = some s → s.phase = .started → s.tuning = some tu) ∧
      Table.Looked now c.airspace.table result.1.airspace.table := by
  cases h with
  | manage c' _ _ _ =>
    obtain ⟨e, he, -⟩ := hair
    exact absurd he List.not_mem_nil
  | strike _ channels σ c' j _ _ _ _ _ _ silent =>
    obtain ⟨e, he, -⟩ := Journal.airs_iff.mp hair
    rw [silent] at he
    exact absurd he List.not_mem_nil
  | move now' σ c' j time _ _ reported path aired =>
    obtain rfl : now = now' := Option.some.inj (htime.symm.trans time)
    obtain ⟨st, tu, tg, hst, hset, hafter⟩ := aired id hair
    obtain ⟨s, hsess, rfl⟩ := session?_of_stance? hst
    -- A report is of the target, so that the session goes where it was headed.
    have hc : s.stance.nextTuning = some tu := by
      rcases hset with ⟨hp, htu⟩ | ⟨hp, htg, hheard⟩
      · rw [Stance.nextTuning, hp]
        exact htu
      · obtain ⟨target, htg⟩ := Option.isSome_iff_exists.mp htg
        have hsaid := htrue id tu s hheard hsess
        have htarget : s.target = some target := htg
        rw [htarget] at hsaid
        rw [Stance.nextTuning, hp]
        exact htg.trans hsaid
    have hnext : c.nextTuning? id = some tu := (Scene.nextTuning_of_stance hst).trans hc
    refine ⟨tu, hnext, fun s' hs' _ => ?_, ?_⟩
    · have hstance := stance?_of_session? hs'
      rw [hafter, Option.some.injEq] at hstance
      exact (congrArg Stance.tuning hstance).symm
    · exact reported.looked path (hs.scene.seeded_of_nextTuning hnext)
  | complete now' run σ c' j time _ _ _ completes path onlyStops aired =>
    obtain rfl : now = now' := Option.some.inj (htime.symm.trans time)
    obtain ⟨st, hst, hp, ch, hch, hrun⟩ := aired id hair
    have hwait : st.Waits run := ⟨hp, ch, hch, hrun⟩
    cases htu : st.tuning with
    | none => simp [Stance.occupied, htu] at hch
    | some tu =>
      have hc : st.nextTuning = some tu := by
        rw [Stance.nextTuning, hp]
        exact htu
      have hnext : c.nextTuning? id = some tu := (Scene.nextTuning_of_stance hst).trans hc
      refine ⟨tu, hnext, fun s' hs' hstart => ?_, ?_⟩
      · have hstops := onlyStops.stance id
        rw [stance?_of_session? hs'] at hstops
        obtain ⟨ok, hwoken, -⟩ := completes.waiting id st hst hwait
        rw [hwoken] at hstops
        have hsame := hstops.eq_of_phase' (.inr hstart)
        rw [Option.some.injEq] at hsame
        exact (congrArg Stance.tuning hsame).symm.trans htu
      · exact completes.looked path (hs.scene.seeded_of_nextTuning hnext)

private theorem Effect.keeps (h : c.Effect op result) (hs : c.Sound)
    (htrue : c.ReportsOwnTuning op) : Keeps c.scene result.1.scene := by
  cases h with
  | manage c' _ _ how => exact how.keeps
  | move now σ c' j _ _ _ reported path =>
    refine Keeps.path (reported.keeps fun id tu st hheard hst => ?_) (reported.sound hs.scene) path
    obtain ⟨s, hsess, rfl⟩ := session?_of_stance? hst
    exact htrue id tu s hheard hsess
  | strike now channels σ c' j _ _ _ strikes path =>
    exact Keeps.path (strikes.keeps hs.scene) (strikes.sound hs.scene) path
  | complete now run σ c' j _ _ _ running completes path =>
    exact Keeps.path (completes.keeps hs.scene) (completes.sound running hs.scene) path

variable {id : SessionId} {ch : Channel} {since : Instant}

theorem HeadsFor.seeded (h : c.HeadsFor id ch) (hs : c.Sound) : c.airspace.seeded = true := by
  obtain ⟨tu, hnext, -⟩ := h
  exact hs.scene.seeded_of_nextTuning hnext

theorem Bars.seeded (h : c.Bars op ch since) (hs : c.Sound) : c.airspace.seeded = true := by
  obtain ⟨-, channels, hreport, -⟩ := h
  cases op with
  | dispatch env now id e =>
    obtain ⟨s, hsess, hreport⟩ := Option.bind_eq_some_iff.mp hreport
    refine (proper_of_session? hs hsess).seeded fun hp => ?_
    have hp : s.phase = .disconnected := hp
    cases e <;> simp [Session.reports?, hp] at hreport
  | _ => cases hreport

/-- A session that heads for a channel that must be left alone headed for it before the operation,
and the channel went on the list before, or does with the operation. -/
theorem unavailable_of_perform (hs : c.Sound) (htrue : c.ReportsOwnTuning op)
    (hheads : (c.perform op).1.HeadsFor id ch)
    (hst : (c.perform op).1.airspace.table.status? ch = some (.unavailable since)) :
    c.HeadsFor id ch ∧
      (c.airspace.table.status? ch = some (.unavailable since) ∨ c.Bars op ch since) := by
  have heffect := (effect_perform hs op).1
  obtain ⟨tu, hnext, hch⟩ := hheads
  have hbefore : c.HeadsFor id ch := by
    rcases heffect.keeps hs htrue id tu hnext with hsame | hfree
    · exact ⟨tu, hsame, hch⟩
    · exact absurd hst (Table.isFree_iff.mp (hfree ch hch) since)
  refine ⟨hbefore, status?_marked.mp ?_⟩
  rcases heffect.looked (hbefore.seeded hs) with ⟨-, hnone⟩ | hmarked | ⟨now, -, hlooked⟩
  · rw [hnone id] at hnext
    cases hnext
  · rw [← hmarked]
    exact hst
  · exact hlooked.status?_of_unavailable hst

/-- While a session heads for a channel, the channel must be left alone for as long as before, and
what is unavailable stays so until that time has passed. -/
theorem perform_of_unavailable (hs : c.Sound) (hd : c.airspace.seeded = true)
    (hheads : (c.perform op).1.HeadsFor id ch) (since : Instant) :
    (c.perform op).1.airspace.table.absence ch = c.airspace.table.absence ch ∧
      (c.airspace.table.status? ch = some (.unavailable since) ∨ c.Bars op ch since →
        (c.perform op).1.airspace.table.status? ch = some (.unavailable since) ∨
          ∃ now, op.now? = some now ∧ c.airspace.table.absence ch ≤ Instant.since now since) := by
  obtain ⟨tu, hnext, -⟩ := hheads
  rcases (effect_perform hs op).1.looked hd with ⟨-, hnone⟩ | hmarked | ⟨now, htime, hlooked⟩
  · rw [hnone id] at hnext
    cases hnext
  · rw [hmarked]
    exact ⟨absence_marked ch, fun h => .inl (status?_marked.mpr h)⟩
  · refine ⟨(hlooked.absence ch).trans (absence_marked ch), fun h => ?_⟩
    refine (hlooked.unavailable_or (status?_marked.mpr h)).imp_right fun hp => ⟨now, htime, ?_⟩
    rwa [absence_marked] at hp

private theorem barredOnTheWay_of_unavailable (hs : c.Sound) (hnew : ∀ id, c.nextTuning? id = none)
    {ops : List Operation}
    (htrue : ∀ done op, done ++ [op] <+: ops → (c.after done).ReportsOwnTuning op)
    (hheads : (c.after ops).HeadsFor id ch)
    (hst : (c.after ops).airspace.table.status? ch = some (.unavailable since)) :
    BarredOnTheWay c id ch since ops := by
  -- The last operation barred the channel, or it was barred before and the session headed there.
  induction ops using List.reverseRecOn with
  | nil =>
    obtain ⟨tu, hnext, -⟩ := hheads
    rw [after_nil, hnew id] at hnext
    cases hnext
  | append_singleton ops op ih =>
    have hbefore := hheads
    rw [after_concat] at hbefore hst
    obtain ⟨hheads₀, hst₀ | hbars⟩ :=
      unavailable_of_perform (sound_after hs ops) (htrue ops op (List.prefix_refl _)) hbefore hst
    · refine .on ops op (ih (fun done op' hdone => ?_) hheads₀ hst₀) hheads
      exact htrue done op' (hdone.trans (List.prefix_append ops [op]))
    · exact .hit ops op hbars hheads

/-- The channel must be left alone, or its time had passed at one of the instants of the run. -/
def Spent (c : Controller) (ops : List Operation) (ch : Channel) (since : Instant) : Prop :=
  (c.after ops).airspace.table.status? ch = some (.unavailable since) ∨
    ∃ t ∈ ops.filterMap Operation.now?,
      (c.after ops).airspace.table.absence ch ≤ Instant.since t since

private theorem spent_concat (hs : c.Sound) {ops : List Operation}
    (hd : (c.after ops).airspace.seeded = true)
    (hheads : (c.after (ops ++ [op])).HeadsFor id ch)
    (h : c.Spent ops ch since ∨ (c.after ops).Bars op ch since) :
    c.Spent (ops ++ [op]) ch since := by
  unfold Spent
  rw [after_concat] at hheads ⊢
  obtain ⟨habsence, hstays⟩ := perform_of_unavailable (sound_after hs ops) hd hheads since
  rw [habsence, List.filterMap_append]
  have hlast : (c.after ops).airspace.table.status? ch = some (.unavailable since) ∨
      (c.after ops).Bars op ch since →
        ((c.after ops).perform op).1.airspace.table.status? ch = some (.unavailable since) ∨
          ∃ t ∈ ops.filterMap Operation.now? ++ [op].filterMap Operation.now?,
            (c.after ops).airspace.table.absence ch ≤ Instant.since t since := by
    refine fun h => (hstays h).imp_right ?_
    rintro ⟨now, htime, hp⟩
    exact ⟨now, List.mem_append_right _ (by simp [htime]), hp⟩
  rcases h with (hst | ⟨t, ht, hp⟩) | hbars
  · exact hlast (.inl hst)
  · exact .inr ⟨t, List.mem_append_left _ ht, hp⟩
  · exact hlast (.inr hbars)

private theorem BarredOnTheWay.spent {ops : List Operation} (h : BarredOnTheWay c id ch since ops)
    (hs : c.Sound) : c.Spent ops ch since := by
  induction h with
  | hit ops op hbars hheads =>
    exact spent_concat hs (hbars.seeded (sound_after hs ops)) hheads (.inr hbars)
  | on ops op hbefore hheads ih =>
    exact spent_concat hs (hbefore.headsFor.seeded (sound_after hs ops)) hheads (.inl ih)

private theorem since_mono {t now : Instant} (h : t ≤ now) (since : Instant) :
    Instant.since t since ≤ Instant.since now since :=
  Int.toNat_le_toNat (Int.sub_le_sub_right h since)

/-- One operation airs no barred channel exactly if, wherever it puts a session on the air, radar
barred no channel on the way there, or not so recently that the channel must still be left alone. -/
theorem airsUnbarred_after_iff (hs : c.Sound) (hnew : ∀ id, c.nextTuning? id = none)
    {ops : List Operation}
    (htrue : ∀ done op', done ++ [op'] <+: ops ++ [op] → (c.after done).ReportsOwnTuning op')
    (htimes : ((ops ++ [op]).filterMap Operation.now?).Pairwise (· ≤ ·)) :
    (c.after ops).AirsUnbarred op ↔ ∀ now id ch since, op.now? = some now →
      ((c.after ops).perform op).2.Airs id → BarredOnTheWay c id ch since ops →
        (c.after ops).airspace.table.absence ch ≤ Instant.since now since := by
  have hsound := sound_after hs ops
  have hreports := htrue ops op (List.prefix_refl _)
  have hairs {now : Instant} {id : SessionId} (htime : op.now? = some now)
      (hair : ((c.after ops).perform op).2.Airs id) :=
    (effect_perform hsound op).1.airs hsound hreports htime hair
  constructor
  · intro hairsUnbarred now id ch since htime hair hover
    obtain ⟨tu, hnext, -, hfree⟩ := hairsUnbarred now id htime hair
    obtain ⟨-, -, -, hlooked⟩ := hairs htime hair
    obtain ⟨tu', hnext', hch⟩ := hover.headsFor
    rw [hnext, Option.some.injEq] at hnext'
    subst hnext'
    -- Still on the list, the channel must be past its time, or it would be barred now.
    rcases hover.spent hs with hst | ⟨t, ht, hp⟩
    · rcases hlooked.unavailable_or hst with hst' | hp
      · by_contra hlate
        refine hfree ch hch ⟨since, hst', ?_⟩
        rw [hlooked.absence]
        exact Nat.lt_of_not_le hlate
      · exact hp
    · rw [List.filterMap_append, List.pairwise_append] at htimes
      have hle : t ≤ now := htimes.2.2 t ht now (by simp [htime])
      exact Nat.le_trans hp (since_mono hle since)
  · intro hlate now id htime hair
    obtain ⟨tu, hnext, hafter, hlooked⟩ := hairs htime hair
    refine ⟨tu, hnext, hafter, fun ch hch => ?_⟩
    rintro ⟨since, hst, hp⟩
    have hover := barredOnTheWay_of_unavailable hs hnew
      (fun done op' hdone => htrue done op' (hdone.trans (List.prefix_append ops [op])))
      ⟨tu, hnext, hch⟩ (hlooked.status?_of_unavailable hst)
    rw [hlooked.absence] at hp
    exact absurd (hlate now id ch since htime hair hover) (Nat.not_le_of_lt hp)

/-- Throughout a run of a controller, in which the clock does not go back and the layer below
reports truly, nobody goes on the air where radar bars it, exactly if nobody goes on the air where
radar barred a channel on the way, unless that channel need no longer be left alone. -/
theorem airsUnbarred_throughout_iff {settings : Settings} {domain : Domain}
    (h : create settings domain = .ok c) (ops : List Operation)
    (htrue : ∀ done op, done ++ [op] <+: ops → (c.after done).ReportsOwnTuning op)
    (htimes : (ops.filterMap Operation.now?).Pairwise (· ≤ ·)) :
    (∀ done op, done ++ [op] <+: ops → (c.after done).AirsUnbarred op) ↔
      ∀ done op, done ++ [op] <+: ops → ∀ now id ch since, op.now? = some now →
        ((c.after done).perform op).2.Airs id → BarredOnTheWay c id ch since done →
          (c.after done).airspace.table.absence ch ≤ Instant.since now since := by
  have hnew : ∀ id, c.nextTuning? id = none := by
    obtain ⟨table, -, rfl⟩ := create_eq h
    exact fun id => rfl
  refine forall_congr' fun done => forall_congr' fun op => forall_congr' fun hdone => ?_
  refine airsUnbarred_after_iff (sound_create h) hnew (fun done' op' hdone' => ?_) ?_
  · exact htrue done' op' (hdone'.trans hdone)
  · exact htimes.sublist (hdone.sublist.filterMap _)

open FourChannels in
theorem airsUnbarred_throughout_heardOut : create {} domain = .ok controller ∧
    (∀ done op, done ++ [op] <+: heardOut → (controller.after done).ReportsOwnTuning op) ∧
    (heardOut.filterMap Operation.now?).Pairwise (· ≤ ·) ∧
    ∀ done op, done ++ [op] <+: heardOut → (controller.after done).AirsUnbarred op := by
  have hmem {done : List Operation} {op : Operation} (hdone : done ++ [op] <+: heardOut) :
      op ∈ heardOut := hdone.subset (by simp)
  have htrue (done : List Operation) (op : Operation) (hdone : done ++ [op] <+: heardOut) :
      (controller.after done).ReportsOwnTuning op := by
    intro id tu s hheard
    rw [(quiet_of_mem_heardOut controller (hmem hdone)).2] at hheard
    cases hheard
  have htimes : (heardOut.filterMap Operation.now?).Pairwise (· ≤ ·) := by decide +kernel
  refine ⟨created, htrue, htimes, (airsUnbarred_throughout_iff created _ htrue htimes).mpr ?_⟩
  intro done op hdone now id ch since _ _ hover
  obtain ⟨done', op', hdone', -, channels, hreport, -⟩ := hover.exists_bars
  have hbefore := hdone'.trans ((List.prefix_append done [op]).trans hdone)
  rw [(quiet_of_mem_heardOut _ (hmem hbefore)).1] at hreport
  cases hreport

end Controller

namespace FourChannels

def pinned : SessionSettings := { accessPoint 52 with channel := .fixed 52 }

/-- A session starts on channel 52, another one that listens there reports radar on all channels,
and the first one goes on. -/
def passed : List Operation :=
  [.openSession pinned, .openSession pinned,
    send 0 0 (.tunedStartRequest ⟨52, .mhz20, .alone⟩),
    send 0 1 .startRequest, send 0 1 (.scanComplete true []),
    send 1000 0 (.radarDetected [52, 56, 60, 64]), send 2000 1 .startSuccess]

def overtaking : List Operation :=
  passed ++ [.listeningOver willing (Duration.millis 62000 : Nat)]

end FourChannels

namespace Controller

open FourChannels in
/-- The session that starts on channel 52 while radar is reported there goes on the air there. -/
theorem not_airsUnbarred_throughout_overtaking : create {} domain = .ok controller ∧
    (∀ done op, done ++ [op] <+: overtaking → (controller.after done).ReportsOwnTuning op) ∧
    (overtaking.filterMap Operation.now?).Pairwise (· ≤ ·) ∧
    ¬ ∀ done op, done ++ [op] <+: overtaking → (controller.after done).AirsUnbarred op := by
  have hsilent : ∀ op ∈ overtaking, op.heard? = none := by decide +kernel
  refine
    ⟨created, fun done op hdone id tu s hheard => ?_, by decide +kernel, fun hairs => ?_⟩
  · rw [hsilent op (hdone.subset (by simp))] at hheard
    cases hheard
  · have hair : ((controller.after passed).perform
        (.listeningOver willing (Duration.millis 62000 : Nat))).2.Airs 1 := by
      unfold Journal.Airs
      decide +kernel
    have hknown : (controller.after passed).nextTuning? 1 = some ⟨52, .mhz20, .alone⟩ := by
      decide +kernel
    obtain ⟨tu, hnext, -, hfree⟩ :=
      hairs passed _ (List.prefix_refl overtaking) _ 1 rfl hair
    rw [hknown, Option.some.injEq] at hnext
    subst hnext
    refine hfree 52 (by decide) ⟨(Duration.millis 1000 : Nat), ?_, ?_⟩
    · decide +kernel
    · decide +kernel

end Controller

end Hotspot
