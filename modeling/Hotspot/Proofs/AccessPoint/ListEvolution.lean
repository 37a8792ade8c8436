import Hotspot.Proofs.AccessPoint.OwnStep
import Hotspot.Proofs.AccessPoint.UnbarredOnAir
import Hotspot.Proofs.AccessPoint.PermittedSending

/-!
How the non-occupancy list evolves. Once it is there, and until the domain changes, what is known of
a channel changes in two ways only. Radar puts a free channel on the list, and a channel that is on
it is freed by an operation that comes when its period has passed. A channel with no period to wait
for is freed by any operation that looks, even by one that is dated before the radar. The list that
the application has kept is read once.
-/

set_option autoImplicit false
set_option relaxedAutoImplicit false

namespace Hotspot

open NonOccupancy (Table Status Record)

namespace NonOccupancy.Table

/-- At `now` a channel on which radar was found need not be left alone any more: its period has
passed since, or it has none. -/
def Lapsed (t : Table) (ch : Channel) (since now : Instant) : Prop :=
  t.absence ch = 0 ∨ since + t.absence ch ≤ now

theorem lapsed_iff {t : Table} {ch : Channel} {since now : Instant} :
    t.Lapsed ch since now ↔ t.absence ch ≤ Instant.since now since := by
  have hclock (a : Nat) (s n : Int) : a = 0 ∨ s + a ≤ n ↔ a ≤ (n - s).toNat := by omega
  exact hclock _ since now

end NonOccupancy.Table

namespace Operation

def relocates : Operation → Bool
  | setDomain _ => true
  | _ => false

def keeping (records : List Record) : Operation → Operation
  | dispatch env now id e => .dispatch { env with kept := records } now id e
  | listeningOver env now => .listeningOver { env with kept := records } now
  | op => op

end Operation

namespace Controller

def known (c : Controller) (ch : Channel) : Option Status :=
  c.airspace.table.status? ch

/-- How what is known of a channel may change with an operation. -/
inductive EntryEvolves (c : Controller) (op : Operation) (ch : Channel) :
    Option Status → Option Status → Prop
  | still (s : Option Status) : EntryEvolves c op ch s s
  | lapse (since now : Instant) (time : op.now? = some now)
      (lapsed : c.airspace.table.Lapsed ch since now) :
      EntryEvolves c op ch (some (.unavailable since)) (some .available)
  | strike (s : Status) (now : Instant) (free : s.isFree = true) (bars : c.Bars op ch now) :
      EntryEvolves c op ch (some s) (some (.unavailable now))
  /-- Radar is found, and as there is nothing to wait for, the channel is freed at once. -/
  | pass (s : Status) (now : Instant) (free : s.isFree = true) (bars : c.Bars op ch now)
      (brief : c.airspace.table.absence ch = 0) : EntryEvolves c op ch (some s) (some .available)

/-- How the non-occupancy list evolves in operations one after the other. -/
structure ListEvolves (c : Controller) (ops : List Operation) : Prop where
  seeded : ∀ done, done <+: ops → (c.after done).airspace.seeded = true
  entryEvolves : ∀ done op, done ++ [op] <+: ops → ∀ ch,
    (c.after done).EntryEvolves op ch ((c.after done).known ch) ((c.after (done ++ [op])).known ch)
  waits : ∀ done more, done ++ more <+: ops → ∀ ch since,
    (c.after done).known ch = some (.unavailable since) →
      (∀ op ∈ more, ∀ now, op.now? = some now →
        ¬ (c.after done).airspace.table.Lapsed ch since now) →
      (c.after (done ++ more)).known ch = some (.unavailable since)
  spoilt : ∀ done more, done ++ more <+: ops → ∀ ch,
    (c.after done).known ch ≠ some .usable → (c.after (done ++ more)).known ch ≠ some .usable
  kept : ∀ done op, done ++ [op] <+: ops → ∀ records,
    (c.after done).perform (op.keeping records) = (c.after done).perform op

end Controller

namespace Controller

variable {c : Controller} {op : Operation} {ch : Channel}

theorem seeded_perform (hs : c.Sound) (hd : c.airspace.seeded = true)
    (hop : op.relocates = false) : (c.perform op).1.airspace.seeded = true := by
  cases htime : op.now? with
  | some now => exact (keepsBars_perform hs htime).seeded hd
  | none =>
    rcases airspace_perform_of_untimed (c := c) htime with hsame | ⟨domain, table, rfl, -⟩
    · rw [hsame]
      exact hd
    · cases hop

theorem looked_perform (hs : c.Sound) (hd : c.airspace.seeded = true)
    (hop : op.relocates = false) : (c.perform op).1.airspace.table = c.marked op ∨
      ∃ now, op.now? = some now ∧
        Table.Looked now (c.marked op) (c.perform op).1.airspace.table := by
  refine ((effect_perform hs op).1.looked hd).resolve_left fun hfresh => ?_
  exact absurd (hfresh.1.symm.trans (seeded_perform hs hd hop)) nofun

theorem absence_perform (hs : c.Sound) (hd : c.airspace.seeded = true)
    (hop : op.relocates = false) (ch : Channel) :
    (c.perform op).1.airspace.table.absence ch = c.airspace.table.absence ch := by
  rcases looked_perform hs hd hop with hmarked | ⟨now, -, hlooked⟩
  · rw [hmarked]
    exact absence_marked ch
  · exact (hlooked.absence ch).trans (absence_marked ch)

private theorem known_marked (c : Controller) (op : Operation) (ch : Channel) :
    (c.marked op).status? ch = c.known ch ∨
      ∃ s now, c.known ch = some s ∧ s.isFree = true ∧ c.Bars op ch now ∧
        (c.marked op).status? ch = some (.unavailable now) := by
  unfold marked known
  cases hreport : c.reports? op with
  | none => cases op.now? <;> exact .inl rfl
  | some channels =>
    obtain ⟨now, htime⟩ := exists_now_of_reports? hreport
    simp only [htime, Table.status?_markEach]
    split
    · rename_i hch
      cases hs : c.airspace.table.status? ch with
      | none => exact .inl rfl
      | some s =>
        cases hfree : s.isFree with
        | false => exact .inl (by simp [Status.struck, hfree])
        | true =>
          refine .inr ⟨s, now, rfl, hfree, ⟨htime, channels, hreport, hch, ?_, ?_⟩, ?_⟩
          · exact Table.tracks_iff.mpr ⟨s, hs⟩
          · simp [Table.isFree, hs, hfree]
          · simp [Status.struck, hfree]
    · exact .inl rfl

theorem known_perform (hs : c.Sound) (hd : c.airspace.seeded = true) (hop : op.relocates = false)
    (ch : Channel) : (c.perform op).1.known ch = (c.marked op).status? ch ∨
      ∃ since now, op.now? = some now ∧ (c.marked op).status? ch = some (.unavailable since) ∧
        c.airspace.table.Lapsed ch since now ∧ (c.perform op).1.known ch = some .available := by
  rcases looked_perform hs hd hop with hsame | ⟨now, htime, hlooked⟩
  · exact .inl (congrArg (Table.status? · ch) hsame)
  · refine (hlooked.status ch).imp_right fun ⟨since, hsince, hover, hfreed⟩ => ?_
    rw [absence_marked] at hover
    exact ⟨since, now, htime, hsince, Table.lapsed_iff.mpr hover, hfreed⟩

/-- With every operation but a change of the domain, each entry of the list evolves as it may. -/
theorem entryEvolves_perform (hs : c.Sound) (hd : c.airspace.seeded = true)
    (hop : op.relocates = false)
    (ch : Channel) : c.EntryEvolves op ch (c.known ch) ((c.perform op).1.known ch) := by
  rcases known_marked c op ch with hstill | ⟨s, now, hknown, hfree, hbars, hstruck⟩
  · rcases known_perform hs hd hop ch with hsame | ⟨since, now, htime, hsince, hlapsed, hfreed⟩
    · rw [hsame, hstill]
      exact .still _
    · rw [← hstill, hsince, hfreed]
      exact .lapse since now htime hlapsed
  · rw [hknown]
    rcases known_perform hs hd hop ch with hsame | ⟨since, now', htime, hsince, hlapsed, hfreed⟩
    · rw [hsame, hstruck]
      exact .strike s now hfree hbars
    · obtain rfl : now = now' := Option.some.inj (hbars.1.symm.trans htime)
      obtain rfl : now = since := by simpa [hstruck] using hsince
      -- A period that passes in no time is none.
      have hbrief : c.airspace.table.absence ch = 0 := by
        simpa [Instant.since] using Table.lapsed_iff.mp hlapsed
      rw [hfreed]
      exact .pass s now hfree hbars hbrief

namespace EntryEvolves

variable {k k' : Option Status}

private theorem unavailable {since : Instant} (h : c.EntryEvolves op ch k k')
    (hk : k = some (.unavailable since))
    (hwait : ∀ now, op.now? = some now → ¬ c.airspace.table.Lapsed ch since now) :
    k' = some (.unavailable since) := by
  cases h with
  | still => exact hk
  | lapse _ now time lapsed =>
    cases hk
    exact absurd lapsed (hwait now time)
  | strike s _ free | pass s _ free =>
    cases hk
    cases free

private theorem not_usable (h : c.EntryEvolves op ch k k') (hk : k ≠ some .usable) :
    k' ≠ some .usable := by
  cases h with
  | still => exact hk
  | lapse | strike | pass => exact nofun

end EntryEvolves

theorem unavailable_after (hs : c.Sound) (hd : c.airspace.seeded = true) {ops : List Operation}
    (hstays : ∀ op ∈ ops, op.relocates = false) {since : Instant}
    (hknown : c.known ch = some (.unavailable since))
    (hwait : ∀ op ∈ ops, ∀ now, op.now? = some now → ¬ c.airspace.table.Lapsed ch since now) :
    (c.after ops).known ch = some (.unavailable since) := by
  -- By induction on the operations; the period does not change with them.
  induction ops generalizing c with
  | nil => exact hknown
  | cons op ops ih =>
    have hop : op.relocates = false := hstays op List.mem_cons_self
    have habsence := absence_perform hs hd hop ch
    have hnext :=
      (entryEvolves_perform hs hd hop ch).unavailable hknown (hwait op List.mem_cons_self)
    refine ih (sound_perform hs op) (seeded_perform hs hd hop)
      (fun o ho => hstays o (List.mem_cons_of_mem op ho)) hnext fun o ho now htime hlapsed => ?_
    rw [Table.Lapsed, habsence] at hlapsed
    exact hwait o (List.mem_cons_of_mem op ho) now htime hlapsed

theorem not_usable_after (hs : c.Sound) (hd : c.airspace.seeded = true) {ops : List Operation}
    (hstays : ∀ op ∈ ops, op.relocates = false) (hknown : c.known ch ≠ some .usable) :
    (c.after ops).known ch ≠ some .usable := by
  induction ops generalizing c with
  | nil => exact hknown
  | cons op ops ih =>
    have hop : op.relocates = false := hstays op List.mem_cons_self
    exact ih (sound_perform hs op) (seeded_perform hs hd hop)
      (fun o ho => hstays o (List.mem_cons_of_mem op ho))
      ((entryEvolves_perform hs hd hop ch).not_usable hknown)

theorem seeded_after (hs : c.Sound) (hd : c.airspace.seeded = true) {ops : List Operation}
    (hstays : ∀ op ∈ ops, op.relocates = false) : (c.after ops).airspace.seeded = true := by
  induction ops generalizing c with
  | nil => exact hd
  | cons op ops ih =>
    have hop : op.relocates = false := hstays op List.mem_cons_self
    exact ih (sound_perform hs op) (seeded_perform hs hd hop)
      fun o ho => hstays o (List.mem_cons_of_mem op ho)

end Controller

namespace Turn

variable {env : Surroundings} {now : Instant} {t : Turn} {s : Session} {id : SessionId} {e : Event}

private theorem prepared_keeping (env : Surroundings) (records : List Record) (s : Session)
    (now : Instant) (next : Turn → Session → Turn) (hd : t.airspace.seeded = true) :
    t.prepared { env with kept := records } s now next = t.prepared env s now next := by
  have hopen : t.openControl { env with kept := records } s = t.openControl env s := rfl
  have hseeded : (t.openControl env s).2.airspace.seeded = true := by
    rw [← hd]
    exact congrArg (fun σ => σ.airspace.seeded) (openControl_spec env t s).1
  unfold prepared ensureTable
  rw [hopen]
  generalize t.openControl env s = opened at hseeded
  obtain ⟨opened, t₁⟩ := opened
  dsimp only at hseeded ⊢
  rw [hseeded]
  rfl

/-- The kept list makes no difference to an answer, unless the session is asked to start before the
non-occupancy list is there. -/
private theorem handle_keeping (env : Surroundings) (records : List Record) (now : Instant)
    (id : SessionId) (h : e.asks = true → t.airspace.seeded = true) :
    t.handle { env with kept := records } now id e = t.handle env now id e := by
  unfold handle
  cases t.session? id with
  | none => rfl
  | some s =>
    dsimp only
    cases e with
    | startRequest =>
      cases s.phase with
      | disconnected => exact prepared_keeping env records s now _ (h rfl)
      | _ => rfl
    | tunedStartRequest target =>
      cases s.phase with
      | disconnected => exact prepared_keeping env records s now _ (h rfl)
      | _ => rfl
    | _ => cases s.phase <;> rfl

private theorem asks_of_isClosing (h : e.isClosing = true) : e.asks = false := by
  cases e <;> first | rfl | cases h

private theorem drain_keeping (env : Surroundings) (records : List Record) (now : Instant) (n : Nat)
    (hclosing : ∀ p ∈ t.queue, p.2.isClosing = true) :
    t.drain { env with kept := records } now n = t.drain env now n := by
  -- By induction on the steps that are left; closing events leave only closing events to do.
  induction n generalizing t with
  | zero => rfl
  | succ n ih =>
    rw [drain, drain]
    cases hq : t.queue with
    | nil => rfl
    | cons p rest =>
      obtain ⟨id, e⟩ := p
      have he : e.asks = false := asks_of_isClosing (hclosing (id, e) (by simp [hq]))
      dsimp only
      rw [handle_keeping env records now id (by simp [he])]
      have htrivial : Endures fun _ _ => True := ⟨fun _ => trivial, fun _ _ => trivial⟩
      exact ih (endures_next env now htrivial hq hclosing fun _ => trivial).2.1

private theorem react_keeping (env : Surroundings) (records : List Record) (now : Instant)
    (id : SessionId) (h : e.asks = true → t.airspace.seeded = true) :
    t.react { env with kept := records } now id e = t.react env now id e := by
  unfold react
  cases t.session? id with
  | none => rfl
  | some s =>
    dsimp only
    split
    · rfl
    · exact handle_keeping env records now id h

end Turn

namespace Controller

variable {c : Controller} {env : Surroundings} {now : Instant} {s : Session} {id : SessionId}
  {e : Event} {op : Operation}

private theorem isClosing_of_react (hs : c.Sound) (h : c.session? id = some s) (env : Surroundings)
    (now : Instant) (e : Event) :
    ∀ p ∈ (c.turn.react env now id e).queue, p.2.isClosing = true := by
  cases hreport : s.reports? e with
  | some channels =>
    obtain ⟨named, -, hreact⟩ := Turn.react_of_reports env now (t := c.turn) h hreport
    obtain ⟨-, ⟨more, hqueue, hclosing, -⟩, -⟩ :=
      Turn.strikes_onRadar (t := c.turn) env s named now hs.scene.nodup
    have hq : c.turn.queue = [] := hs.queue
    rw [hreact, hqueue, hq]
    exact hclosing
  | none =>
    cases hover : s.awaits e with
    | true =>
      rw [Turn.react_of_awaits env now (t := c.turn) h hover]
      obtain ⟨l, hstepped⟩ := eachStepped_onListeningOver hs env now
      exact hstepped.closing
    | false => exact (eachStepped_react hs env now h hreport hover).closing

private theorem perform_keeping (hs : c.Sound) (hd : c.airspace.seeded = true) (op : Operation)
    (records : List Record) : c.perform (op.keeping records) = c.perform op := by
  cases op with
  | openSession | closeSession | setDomain => rfl
  | listeningOver env now =>
    obtain ⟨l, hstepped⟩ := eachStepped_onListeningOver hs env now
    have hdrain := Turn.drain_keeping env records now (c.turn.onListeningOver env).eventBound
      hstepped.closing
    exact congrArg (fun t : Turn => (t.toController, t.journal)) hdrain
  | dispatch env now id e =>
    cases h : c.session? id with
    | none => rw [Operation.keeping, perform_dispatch_of_none h, perform_dispatch_of_none h]
    | some s =>
      obtain ⟨n, heq, hn⟩ := Turn.settle_enqueue env now e hs.queue h
      obtain ⟨n', heq', hn'⟩ :=
        Turn.settle_enqueue { env with kept := records } now e hs.queue h
      have hsteps : n' = n := by
        rcases hn with ⟨hn, hstays⟩ | ⟨hn, harr⟩ <;> rcases hn' with ⟨hn', hstays'⟩ | ⟨hn', harr'⟩
        · omega
        · exact absurd harr' hstays
        · exact absurd harr hstays'
        · omega
      rw [Operation.keeping, perform_dispatch h, perform_dispatch h, heq, heq', hsteps,
        Turn.react_keeping env records now id fun _ => hd,
        Turn.drain_keeping env records now n (isClosing_of_react hs h env now e)]

/-- Once the non-occupancy list is there, it evolves the same way in all operations that do not
change the domain. -/
theorem listEvolves_after {settings : Settings} {domain : Domain}
    (h : create settings domain = .ok c)
    (before ops : List Operation) (hd : (c.after before).airspace.seeded = true)
    (hstays : ∀ op ∈ ops, op.relocates = false) : (c.after before).ListEvolves ops := by
  have hs := sound_after (sound_create h) before
  generalize c.after before = c₁ at hs hd ⊢
  -- Each clause is about some stretch of the run, which begins at a sound controller with a list.
  have hseeded {done : List Operation} (hdone : done <+: ops) :
      (c₁.after done).airspace.seeded = true :=
    seeded_after hs hd fun op hop => hstays op (hdone.subset hop)
  have hbefore {done more : List Operation} (hdone : done ++ more <+: ops) : done <+: ops :=
    (List.prefix_append done more).trans hdone
  have hquiet {done more : List Operation} (hdone : done ++ more <+: ops) :
      ∀ op ∈ more, op.relocates = false :=
    fun op hop => hstays op (hdone.subset (List.mem_append_right done hop))
  constructor
  · exact fun done hdone => hseeded hdone
  · intro done op hdone ch
    rw [after_concat]
    exact entryEvolves_perform (sound_after hs done) (hseeded (hbefore hdone))
      (hquiet hdone op (List.mem_singleton_self op)) ch
  · intro done more hdone ch since hknown hwait
    rw [after_append]
    exact unavailable_after (sound_after hs done) (hseeded (hbefore hdone)) (hquiet hdone) hknown
      hwait
  · intro done more hdone ch hknown
    rw [after_append]
    exact not_usable_after (sound_after hs done) (hseeded (hbefore hdone)) (hquiet hdone) hknown
  · intro done op hdone records
    exact perform_keeping (sound_after hs done) (hseeded (hbefore hdone)) op records

open TwoChannels in
open FourChannels (send) in
theorem listEvolves_after_moving : create {} domain = .ok controller ∧
    (controller.after moving).airspace.seeded = true ∧
    (∀ op ∈ [send 2000 0 (.channelChanged (single 36)), send 1800999 0 .stopRequest],
      op.relocates = false) ∧
    (controller.after moving).ListEvolves
      [send 2000 0 (.channelChanged (single 36)), send 1800999 0 .stopRequest] := by
  have hseeded : (controller.after moving).airspace.seeded = true := by decide +kernel
  have hstays : ∀ op ∈ [send 2000 0 (.channelChanged (single 36)), send 1800999 0 .stopRequest],
      op.relocates = false := by
    decide +kernel
  exact ⟨created, hseeded, hstays, listEvolves_after created moving _ hseeded hstays⟩

end Controller

namespace WeatherChannels

open FourChannels (send)
open TwoChannels (single)

def domain : Domain :=
  ⟨"TT", .etsi, [52, 120].map fun ch => ⟨ch, true, false, 20⟩⟩

def impatient : Settings := { timing := { weatherAbsence := 0 } }

def controller : Controller :=
  ⟨impatient, .fresh domain ⟨impatient.timing, [52, 120].map fun ch => ⟨ch, .usable⟩, [120]⟩, [], 0,
    []⟩

private theorem created : Controller.create impatient domain = .ok controller := rfl

def struck : List Operation :=
  [.openSession { TwoChannels.accessPoint with channel := .fixed 52 },
    .openSession { TwoChannels.accessPoint with channel := .fixed 120 },
    send 0 0 (.tunedStartRequest (single 52)), send 10000 0 (.radarDetected [120])]

end WeatherChannels

namespace Controller

open WeatherChannels in
open FourChannels (send) in
open TwoChannels (single) in
/-- The radar is dated ten seconds, and a start that is dated five seconds frees the channel. -/
theorem not_unavailable_before_radar : create impatient domain = .ok controller ∧
    (controller.after struck).airspace.seeded = true ∧
    ¬ ∀ ops, (∀ op ∈ ops, op.relocates = false) → ∀ ch since,
      (controller.after struck).known ch = some (.unavailable since) →
        (∀ op ∈ ops, ∀ now, op.now? = some now →
          ¬ since + (controller.after struck).airspace.table.absence ch ≤ now) →
        ((controller.after struck).after ops).known ch = some (.unavailable since) := by
  refine ⟨created, by decide +kernel, fun hwaits => ?_⟩
  have hknown : (controller.after struck).known 120 =
      some (.unavailable (Duration.millis 10000 : Nat)) := by
    decide +kernel
  have hfreed : ((controller.after struck).after
      [send 5000 1 (.tunedStartRequest (single 120))]).known 120 = some .available := by
    decide +kernel
  have hearly : ∀ op ∈ [send 5000 1 (.tunedStartRequest (single 120))], ∀ now,
      op.now? = some now → ¬ ((Duration.millis 10000 : Nat) : Instant) +
        (controller.after struck).airspace.table.absence 120 ≤ now := by
    rintro op hop now htime
    obtain rfl := List.mem_singleton.mp hop
    cases htime
    decide +kernel
  have hstays : ∀ op ∈ [send 5000 1 (.tunedStartRequest (single 120))],
      op.relocates = false := by
    decide +kernel
  cases hfreed.symm.trans (hwaits _ hstays 120 _ hknown hearly)

end Controller

end Hotspot
