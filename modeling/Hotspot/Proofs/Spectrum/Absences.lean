import Hotspot.Proofs.Spectrum.ListedChannels
import Hotspot.Proofs.Spectrum.Fitness
import Mathlib.Data.List.Induction

/-!
The non-occupancy list beside the rule that it has to follow. By the rule, radar on a channel that
is not barred bars it from that instant until its period has passed, and the bar ends by itself. The
list ends it when somebody looks, and radar on a channel whose period has passed unseen is lost. But
for such radar the list gives the answers of the rule.
-/

set_option autoImplicit false
set_option relaxedAutoImplicit false

namespace Hotspot

namespace Instant

private theorem since_lt_iff {earlier later : Instant} {d : Duration} (h : earlier ≤ later) :
    since later earlier < d ↔ later < earlier + d := by
  have hclock (e l : Int) (d : Nat) (h : e ≤ l) : (l - e).toNat < d ↔ l < e + d := by omega
  exact hclock earlier later d h

private theorem since_le_since {earlier now later : Instant} (h : now ≤ later) :
    since now earlier ≤ since later earlier := by
  have hclock (e n l : Int) (h : n ≤ l) : (n - e).toNat ≤ (l - e).toNat := by omega
  exact hclock earlier now later h

@[simp] theorem since_self (now : Instant) : since now now = 0 := by
  simp [since]

end Instant

namespace NonOccupancy

inductive Request
  | radar (channels : List Channel)
  | available (channel : Channel) (bonding : Bonding)
  | unavailable
  deriving DecidableEq

inductive Reply
  | available (yes : Bool)
  | unavailable (channels : List Channel)
  deriving DecidableEq

abbrev Requests := List (Instant × Request)

abbrev Answering (σ : Type) := Instant → σ → Request → Option Reply × σ

namespace Answering

variable {σ : Type}

def after (f : Answering σ) (s : σ) (requests : Requests) : σ :=
  requests.foldl (fun s r => (f r.1 s r.2).2) s

def replies (f : Answering σ) (s : σ) : Requests → List Reply
  | [] => []
  | (now, r) :: rest => (f now s r).1.toList ++ f.replies (f now s r).2 rest

theorem after_concat (f : Answering σ) (s : σ) (requests : Requests) (now : Instant) (r : Request) :
    f.after s (requests ++ [(now, r)]) = (f now (f.after s requests) r).2 := by
  rw [after, List.foldl_append]
  rfl

private theorem after_eq {α : Type} {f : Answering σ} {g : σ → α}
    (h : ∀ now s r, g (f now s r).2 = g s)
    (s : σ) (requests : Requests) : g (f.after s requests) = g s := by
  induction requests using List.reverseRecOn with
  | nil => rfl
  | append_singleton requests r ih => rw [after_concat, h, ih]

private theorem replies_append (f : Answering σ) (s : σ) (requests more : Requests) :
    f.replies s (requests ++ more) =
      f.replies s requests ++ f.replies (f.after s requests) more := by
  induction requests generalizing s with
  | nil => rfl
  | cons r rest ih =>
    rw [List.cons_append, replies, ih, replies, List.append_assoc]
    rfl

private theorem replies_concat (f : Answering σ) (s : σ) (requests : Requests) (now : Instant)
    (r : Request) : f.replies s (requests ++ [(now, r)]) =
      f.replies s requests ++ (f now (f.after s requests) r).1.toList := by
  rw [replies_append, replies, replies, List.append_nil]

end Answering

def Table.answer : Answering Table
  | now, t, .radar channels => (none, (t.markEach now channels).2)
  | now, t, .available c b =>
    (some (.available (t.available now c b).1), (t.available now c b).2)
  | now, t, .unavailable => (some (.unavailable (t.unavailable now).1), (t.unavailable now).2)

/-- When the channels that a domain shares with radar were last barred, and for how long. -/
structure Absences where
  channels : List Channel
  period : Channel → Duration
  began : Channel → Option Instant

namespace Absences

def ofDomain (timing : Timing) (d : Domain) : Absences where
  channels := d.radarChannels
  period c := if d.isWeather c then timing.weatherAbsence else timing.absence
  began _ := none

/-- The channel is barred, from the instant of the radar on until its period has passed. -/
def Bars (a : Absences) (now : Instant) (c : Channel) : Prop :=
  ∃ since ∈ a.began c, since ≤ now ∧ now < since + a.period c

instance (a : Absences) (now : Instant) (c : Channel) : Decidable (a.Bars now c) :=
  inferInstanceAs (Decidable (∃ since ∈ a.began c, since ≤ now ∧ now < since + a.period c))

def mark (now : Instant) (a : Absences) (c : Channel) : Absences :=
  if c ∈ a.channels ∧ ¬ a.Bars now c then
    { a with began := fun d => if d = c then some now else a.began d }
  else a

def answer : Answering Absences
  | now, a, .radar channels => (none, channels.foldl (mark now) a)
  | now, a, .available c b =>
    (some (.available ((b.channels c).all fun d => !decide (a.Bars now d))), a)
  | now, a, .unavailable =>
    (some (.unavailable (a.channels.filter fun c => decide (a.Bars now c))), a)

variable {a : Absences} {now later : Instant} {c d : Channel}

@[simp] theorem channels_mark (now : Instant) (a : Absences) (c : Channel) :
    (a.mark now c).channels = a.channels := by
  unfold mark
  split <;> rfl

@[simp] theorem period_mark (now : Instant) (a : Absences) (c : Channel) :
    (a.mark now c).period = a.period := by
  unfold mark
  split <;> rfl

private theorem domain_answer (now : Instant) (a : Absences) (r : Request) :
    ((answer now a r).2.channels, (answer now a r).2.period) = (a.channels, a.period) := by
  cases r with
  | radar channels =>
    unfold answer
    induction channels generalizing a with
    | nil => rfl
    | cons c rest ih => exact (ih (a.mark now c)).trans (by simp)
  | available c b => rfl
  | unavailable => rfl

private theorem bars_mark_ne (h : d ≠ c) : (a.mark now c).Bars later d ↔ a.Bars later d := by
  unfold mark
  split
  · simp [Bars, h]
  · rfl

private theorem bars_mark_self (hc : c ∈ a.channels) (h : ¬ a.Bars now c) :
    (a.mark now c).Bars later c ↔ now ≤ later ∧ later < now + a.period c := by
  unfold mark
  rw [if_pos ⟨hc, h⟩]
  simp [Bars]

private theorem mark_of_bars (h : a.Bars now c) : a.mark now c = a := by
  unfold mark
  rw [if_neg fun hn => hn.2 h]

private theorem mark_of_not_mem (h : c ∉ a.channels) : a.mark now c = a := by
  unfold mark
  rw [if_neg fun hn => h hn.1]

private theorem bars_mark (hc : c ∈ a.channels) (hp : 0 < a.period c) :
    (a.mark now c).Bars now c := by
  by_cases h : a.Bars now c
  · rw [mark_of_bars h]
    exact h
  · refine (bars_mark_self hc h).mpr ⟨Int.le_refl now, ?_⟩
    exact Int.lt_add_of_pos_right now (Int.natCast_pos.mpr hp)

private theorem Bars.mark (h : a.Bars now c) (d : Channel) : (a.mark now d).Bars now c := by
  by_cases hd : c = d
  · subst hd
    rw [mark_of_bars h]
    exact h
  · exact (bars_mark_ne hd).mpr h

private theorem Bars.foldl_mark (h : a.Bars now c) (channels : List Channel) :
    (channels.foldl (Absences.mark now) a).Bars now c := by
  induction channels generalizing a with
  | nil => exact h
  | cons d rest ih => exact ih (h.mark d)

private theorem bars_foldl_mark {channels : List Channel} (hmem : c ∈ channels)
    (hc : c ∈ a.channels) (hp : 0 < a.period c) : (channels.foldl (mark now) a).Bars now c := by
  induction channels generalizing a with
  | nil => exact absurd hmem List.not_mem_nil
  | cons d rest ih =>
    rcases List.mem_cons.mp hmem with rfl | hmem
    · exact (bars_mark hc hp).foldl_mark rest
    · exact ih hmem (by simpa using hc) (by simpa using hp)

end Absences

namespace Table

variable {t t' : Table} {now later : Instant} {c d : Channel}

/-- Radar was found on the channel so long ago that its period has passed, but nobody has looked
since. -/
def Overdue (now : Instant) (t : Table) (c : Channel) : Prop :=
  0 < t.absence c ∧
    ∃ since, t.status? c = some (.unavailable since) ∧ t.absence c ≤ Instant.since now since

theorem Looked.barred_iff (h : Looked now t t') (hlater : now ≤ later) :
    t'.Barred later c ↔ t.Barred later c := by
  unfold Barred
  rw [h.absence]
  rcases h.status c with hs | ⟨since, hs, hp, hs'⟩
  · rw [hs]
  · rw [hs, hs']
    constructor
    · rintro ⟨_, hu, -⟩
      cases hu
    · rintro ⟨_, hu, hlt⟩
      cases hu
      exact absurd (Nat.le_trans hp (Instant.since_le_since hlater)) (Nat.not_le.mpr hlt)

theorem Looked.not_barred (h : Looked now t t') (hc : ¬ t.Barred now c) : ¬ t'.Barred now c :=
  fun hb => hc ((h.barred_iff (Int.le_refl now)).mp hb)

theorem isFree_settle (h : ¬ t.Barred now c) : (t.settle now c).isFree c = true := by
  rw [isFree_iff]
  intro since hs
  have hold := (looked_settle now t c).status?_of_unavailable hs
  have hself : (t.settle now c).status? c = (t.status? c).map (Status.settle (t.absence c) now) :=
    status?_update_self t c _
  rw [hs, hold, Option.map_some, Option.some.injEq, Status.settle] at hself
  split at hself
  · cases hself
  · rename_i hp
    exact h ⟨since, hold, Nat.not_le.mp hp⟩

private theorem isFree_settleEach {channels : List Channel} (hd : d ∈ channels)
    (h : ¬ t.Barred now d) : (t.settleEach now channels).isFree d = true := by
  induction channels generalizing t with
  | nil => exact absurd hd List.not_mem_nil
  | cons c rest ih =>
    have hlooked := looked_settle now t c
    rcases List.mem_cons.mp hd with rfl | hd
    · exact (viewed_settleEach now (t.settle now d) rest).looked.isFree (isFree_settle h)
    · exact ih hd (hlooked.not_barred h)

theorem available_iff {b : Bonding} :
    (t.available now c b).1 = true ↔ ∀ d ∈ b.channels c, ¬ t.Barred now d := by
  constructor
  · intro h d hd hb
    have hb' := (viewed_available now t c b).looked.barred hb
    exact not_barred_of_isFree (isFree_of_available h d hd) hb'
  · intro h
    have hfree : ∀ d ∈ b.channels c, (t.settleEach now (b.channels c)).isFree d = true :=
      fun d hd => isFree_settleEach hd (h d hd)
    simpa [available, List.all_eq_true] using hfree

private theorem unavailable_eq {p : Channel → Bool} (hn : t.channels.Nodup)
    (hp : ∀ c ∈ t.channels, p c = true ↔ t.Barred now c) :
    (t.unavailable now).1 = t.channels.filter p := by
  have hentry : ∀ e ∈ t.entries,
      (!(e.status.settle (t.absence e.channel) now).isFree) = p e.channel := by
    intro e he
    have hs := status?_of_mem hn he
    have hbarred := hp e.channel (List.mem_map_of_mem he)
    rw [Bool.eq_iff_iff, hbarred]
    unfold Barred
    rw [hs]
    cases e.status with
    | usable => simp [Status.settle, Status.isFree]
    | available => simp [Status.settle, Status.isFree]
    | unavailable since =>
      by_cases hover : t.absence e.channel ≤ Instant.since now since
      · simp [Status.settle, Status.isFree, hover]
      · simpa [Status.settle, Status.isFree, hover] using Nat.not_le.mp hover
  unfold unavailable settleAll channels
  simp only [List.filter_map, List.map_map]
  refine congrArg (List.map _) (List.filter_congr fun e he => ?_)
  exact hentry e he

private theorem absence_ofDomain {timing : Timing} {d : Domain} (ht : ofDomain timing d = .ok t)
    (hc : c ∈ d.radarChannels) :
    t.absence c = if d.isWeather c then timing.weatherAbsence else timing.absence := by
  unfold ofDomain at ht
  dsimp only at ht
  split at ht
  · cases ht
  · cases ht
    simp [absence, hc]

private theorem barred_mark_ne (h : d ≠ c) : (t.mark now c).Barred later d ↔ t.Barred later d := by
  unfold Barred
  rw [status?_mark_ne now t h]
  rfl

private theorem barred_mark_of_isFree {s : Status} (hs : t.status? c = some s)
    (hf : s.isFree = true) :
    (t.mark now c).Barred later c ↔ Instant.since later now < t.absence c := by
  unfold Barred
  rw [status?_mark_self, hs, Option.map_some, Status.struck, if_pos hf]
  constructor
  · rintro ⟨_, hu, hlt⟩
    cases hu
    exact hlt
  · exact fun hlt => ⟨now, rfl, hlt⟩

private theorem barred_mark_of_not_isFree (h : ∀ s, t.status? c = some s → s.isFree = false) :
    (t.mark now c).Barred later c ↔ t.Barred later c := by
  unfold Barred
  rw [status?_mark_self]
  cases hs : t.status? c with
  | none => rfl
  | some s =>
    rw [Option.map_some, Status.struck, if_neg (by simp [h s hs])]
    rfl

private theorem Overdue.of_mark (h : (t.mark now c).Overdue now d) : t.Overdue now d := by
  obtain ⟨hp, since, hs, hover⟩ := h
  refine ⟨hp, since, ?_, hover⟩
  by_cases hd : d = c
  · subst hd
    rw [status?_mark_self, Option.map_eq_some_iff] at hs
    obtain ⟨s, hs, hstruck⟩ := hs
    cases s with
    | unavailable since' => rwa [← hstruck]
    | _ =>
      cases hstruck
      rw [Instant.since_self] at hover
      exact absurd hp (Nat.not_lt.mpr hover)
  · rwa [status?_mark_ne now t hd] at hs

/-- Radar bars the channels that it is found on, if there is any time to wait, but for those that
are overdue. -/
private theorem barred_markEach_iff {channels : List Channel} (hmem : c ∈ channels)
    (hc : c ∈ t.channels) (hp : 0 < t.absence c) :
    (t.markEach now channels).2.Barred now c ↔ ¬ t.Overdue now c := by
  obtain ⟨s, hs⟩ := tracks_iff.mp (mem_channels.mp hc)
  unfold Barred Overdue
  rw [status?_markEach, if_pos hmem, absence_markEach, hs]
  cases s with
  | unavailable since => simp [Status.struck, Status.isFree, hp]
  | _ => simp [Status.struck, Status.isFree, hp]

end Table

/-- Who looks at the list at `now` or later finds barred what the rule bars. -/
structure Mirrors (now : Instant) (t : Table) (a : Absences) : Prop where
  nodup : t.channels.Nodup
  channels : t.channels = a.channels
  period : ∀ c ∈ a.channels, t.absence c = a.period c
  bars : ∀ later, now ≤ later → ∀ c, t.Barred later c ↔ a.Bars later c

namespace Mirrors

variable {now later : Instant} {t t' : Table} {a : Absences} {c : Channel}

private theorem fresh {timing : Timing} {d : Domain} (hd : d.validate = .ok ())
    (ht : Table.ofDomain timing d = .ok t) (now : Instant) :
    Mirrors now t (.ofDomain timing d) where
  nodup := by
    rw [Table.channels_ofDomain ht]
    exact Domain.nodup_radarChannels (Domain.nodup_of_validate hd)
  channels := Table.channels_ofDomain ht
  period c hc := Table.absence_ofDomain ht hc
  bars later _ c := by
    constructor
    · rintro ⟨since, hs, -⟩
      obtain ⟨e, he, hu⟩ := Option.map_eq_some_iff.mp hs
      have husable := Table.usable_ofDomain ht (List.mem_of_find?_eq_some he)
      rw [husable] at hu
      cases hu
    · rintro ⟨since, hs, -⟩
      cases hs

private theorem mono (h : Mirrors now t a) (hlater : now ≤ later) : Mirrors later t a :=
  ⟨h.nodup, h.channels, h.period, fun l hl => h.bars l (Int.le_trans hlater hl)⟩

private theorem viewed (h : Mirrors now t a) (hv : Table.Viewed now t t') : Mirrors now t' a where
  nodup := hv.channels ▸ h.nodup
  channels := hv.channels.trans h.channels
  period c hc := (hv.looked.absence c).trans (h.period c hc)
  bars l hl c := (hv.looked.barred_iff hl).trans (h.bars l hl c)

private theorem absence_eq_zero (h : Mirrors now t a) (hc : ¬ t.Overdue now c) {since : Instant}
    (hs : t.status? c = some (.unavailable since)) (hb : ¬ a.Bars now c) : t.absence c = 0 := by
  have hbarred : ¬ t.Barred now c := fun hbarred => hb ((h.bars now (Int.le_refl now) c).mp hbarred)
  rcases Nat.eq_zero_or_pos (t.absence c) with hzero | hpos
  · exact hzero
  · exact absurd ⟨hpos, since, hs, Nat.not_lt.mp fun hlt => hbarred ⟨since, hs, hlt⟩⟩ hc

private theorem bars_mark (h : Mirrors now t a) (hc : ¬ t.Overdue now c) (hlater : now ≤ later) :
    (t.mark now c).Barred later c ↔ (a.mark now c).Bars later c := by
  by_cases hmem : c ∈ a.channels
  · obtain ⟨s, hs⟩ := Table.tracks_iff.mp (Table.mem_channels.mp (h.channels ▸ hmem))
    have hperiod := h.period c hmem
    cases s with
    | unavailable since =>
      rw [Table.barred_mark_of_not_isFree (by simp [hs, Status.isFree])]
      by_cases hb : a.Bars now c
      · rw [Absences.mark_of_bars hb]
        exact h.bars later hlater c
      · -- Neither barred by the rule nor overdue: the channel has no period.
        have hzero := h.absence_eq_zero hc hs hb
        rw [Absences.bars_mark_self hmem hb, ← hperiod, hzero]
        constructor
        · rintro ⟨_, -, hlt⟩
          rw [hzero] at hlt
          exact absurd hlt (Nat.not_lt_zero _)
        · rintro ⟨hle, hlt⟩
          rw [Int.natCast_zero, Int.add_zero] at hlt
          exact absurd hle (Int.not_le.mpr hlt)
    | _ =>
      have hb : ¬ a.Bars now c := by
        rw [← h.bars now (Int.le_refl now) c]
        exact Table.not_barred_of_isFree (by simp [Table.isFree, hs, Status.isFree])
      rw [Table.barred_mark_of_isFree hs rfl, Absences.bars_mark_self hmem hb,
        Instant.since_lt_iff hlater, hperiod]
      exact (and_iff_right hlater).symm
  · have hnone : t.status? c = none := by
      rw [← h.channels, Table.mem_channels, Table.tracks_iff] at hmem
      exact Option.eq_none_iff_forall_ne_some.mpr fun s hs => hmem ⟨s, hs⟩
    rw [Absences.mark_of_not_mem hmem, Table.barred_mark_of_not_isFree (by simp [hnone])]
    exact h.bars later hlater c

private theorem mark (h : Mirrors now t a) (hc : ¬ t.Overdue now c) :
    Mirrors now (t.mark now c) (a.mark now c) := by
  have hchannels : (t.mark now c).channels = t.channels := Table.channels_update t c _
  refine ⟨hchannels ▸ h.nodup, ?_, ?_, ?_⟩
  · rw [hchannels, Absences.channels_mark, h.channels]
  · rw [Absences.channels_mark, Absences.period_mark]
    exact h.period
  · intro l hl d
    by_cases hd : d = c
    · subst hd
      exact h.bars_mark hc hl
    · exact (Table.barred_mark_ne hd).trans ((h.bars l hl d).trans (Absences.bars_mark_ne hd).symm)

private theorem markEach {channels : List Channel} (h : Mirrors now t a)
    (hc : ∀ c ∈ channels, ¬ t.Overdue now c) :
    Mirrors now (t.markEach now channels).2 (channels.foldl (Absences.mark now) a) := by
  induction channels generalizing t a with
  | nil => exact h
  | cons c rest ih =>
    refine ih (h.mark (hc c List.mem_cons_self)) fun d hd hover => ?_
    exact hc d (List.mem_cons_of_mem c hd) hover.of_mark

/-- While the list follows the rule, it answers by the rule, and follows it still unless it is told
of radar on a channel that is overdue. -/
private theorem answer (h : Mirrors now t a) (r : Request) :
    (Table.answer now t r).1 = (Absences.answer now a r).1 ∧
      ((∀ channels, r = .radar channels → ∀ c ∈ channels, ¬ t.Overdue now c) →
        Mirrors now (Table.answer now t r).2 (Absences.answer now a r).2) := by
  have hbars := h.bars now (Int.le_refl now)
  cases r with
  | radar channels => exact ⟨rfl, fun hc => h.markEach (hc channels rfl)⟩
  | available c b =>
    refine ⟨?_, fun _ => h.viewed (Table.viewed_available now t c b)⟩
    have hyes : (t.available now c b).1 =
        (b.channels c).all fun d => !decide (a.Bars now d) := by
      rw [Bool.eq_iff_iff, Table.available_iff, List.all_eq_true]
      exact forall₂_congr fun d _ => by simp [hbars d]
    exact congrArg (some ∘ Reply.available) hyes
  | unavailable =>
    refine ⟨?_, fun _ => h.viewed (Table.viewed_unavailable now t)⟩
    have hlist := Table.unavailable_eq (p := fun c => decide (a.Bars now c)) h.nodup
      fun c _ => decide_eq_true_iff.trans (hbars c).symm
    rw [h.channels] at hlist
    exact congrArg (some ∘ Reply.unavailable) hlist

end Mirrors

/-- Some request of the run is radar on a channel that is overdue. -/
def Table.Loses (t : Table) (requests : Requests) : Prop :=
  ∃ done now channels, done ++ [(now, .radar channels)] <+: requests ∧
    ∃ c ∈ channels, (Table.answer.after t done).Overdue now c

namespace Table

variable {t : Table} {a : Absences} {requests : Requests} {now : Instant}

private theorem channels_answer (now : Instant) (t : Table) (r : Request) :
    (Table.answer now t r).2.channels = t.channels := by
  cases r with
  | radar channels => exact channels_markEach now t channels
  | available c b => exact (viewed_available now t c b).channels
  | unavailable => exact (viewed_unavailable now t).channels

private theorem absence_answer (now : Instant) (t : Table) (r : Request) :
    (Table.answer now t r).2.absence = t.absence := by
  funext c
  cases r with
  | radar channels => exact absence_markEach now t channels c
  | available c' b => exact (viewed_available now t c' b).looked.absence c
  | unavailable => exact (viewed_unavailable now t).looked.absence c

theorem mem_unavailable_iff {c : Channel} (hn : t.channels.Nodup) :
    c ∈ (t.unavailable now).1 ↔ c ∈ t.channels ∧ t.Barred now c := by
  classical
  rw [unavailable_eq (p := fun c => decide (t.Barred now c)) hn fun _ _ => decide_eq_true_iff,
    List.mem_filter, decide_eq_true_iff]

@[simp] theorem not_loses_nil (t : Table) : ¬ t.Loses [] := by
  rintro ⟨done, now, channels, hdone, -⟩
  exact List.append_ne_nil_of_right_ne_nil done (List.cons_ne_nil _ _)
    (List.prefix_nil.mp hdone)

private theorem loses_cons {r : Request} : t.Loses ((now, r) :: requests) ↔
    (∃ channels, r = .radar channels ∧ ∃ c ∈ channels, t.Overdue now c) ∨
      (Table.answer now t r).2.Loses requests := by
  constructor
  · rintro ⟨done, instant, channels, hdone, c, hc, hover⟩
    cases done with
    | nil =>
      obtain ⟨rfl, rfl⟩ := Prod.mk.inj (List.cons_prefix_cons.mp hdone).1
      exact .inl ⟨channels, rfl, c, hc, hover⟩
    | cons first done =>
      obtain ⟨rfl, hrest⟩ := List.cons_prefix_cons.mp hdone
      exact .inr ⟨done, instant, channels, hrest, c, hc, hover⟩
  · rintro (⟨channels, rfl, c, hc, hover⟩ | ⟨done, instant, channels, hdone, hc⟩)
    · exact ⟨[], now, channels, List.prefix_append _ _, c, hc, hover⟩
    · exact ⟨(now, r) :: done, instant, channels, List.cons_prefix_cons.mpr ⟨rfl, hdone⟩, hc⟩

private theorem not_overdue_of_isFree {c : Channel} (h : t.isFree c = true) :
    ¬ t.Overdue now c := by
  rintro ⟨-, since, hs, -⟩
  exact isFree_iff.mp h since hs

private theorem Loses.mono {more : Requests} (h : t.Loses requests) (hmore : requests <+: more) :
    t.Loses more := by
  obtain ⟨done, now, channels, hdone, hc⟩ := h
  exact ⟨done, now, channels, hdone.trans hmore, hc⟩

end Table

private theorem Mirrors.after {t : Table} {a : Absences} {requests : Requests} {now : Instant}
    (h : ∀ now, Mirrors now t a) (hordered : requests.Pairwise fun r r' => r.1 ≤ r'.1)
    (hnow : ∀ r ∈ requests, r.1 ≤ now) (hlost : ¬ t.Loses requests) :
    Mirrors now (Table.answer.after t requests) (Absences.answer.after a requests) ∧
      Table.answer.replies t requests = Absences.answer.replies a requests := by
  -- By induction on the requests, the last one apart, before which the list follows the rule.
  induction requests using List.reverseRecOn generalizing now with
  | nil => exact ⟨h now, rfl⟩
  | append_singleton requests r ih =>
    obtain ⟨instant, r⟩ := r
    obtain ⟨hordered, -, hlast⟩ := List.pairwise_append.mp hordered
    have hbefore : ∀ r' ∈ requests, r'.1 ≤ instant :=
      fun r' hr' => hlast r' hr' _ (List.mem_singleton_self _)
    obtain ⟨hmirrors, hreplies⟩ := ih hordered hbefore
      fun hl => hlost (hl.mono (List.prefix_append _ _))
    obtain ⟨hanswer, hnext⟩ := hmirrors.answer r
    rw [Answering.after_concat, Answering.after_concat, Answering.replies_concat,
      Answering.replies_concat, hreplies, hanswer]
    refine ⟨(hnext ?_).mono (hnow (instant, r) (by simp)), rfl⟩
    rintro channels rfl c hc hover
    exact hlost ⟨requests, instant, channels, List.prefix_rfl, c, hc, hover⟩

private theorem Table.mem_unavailable_radar_iff {t : Table} (hn : t.channels.Nodup)
    (done : Requests) (now : Instant) {channels : List Channel} {c : Channel} (hc : c ∈ channels)
    (htracked : c ∈ t.channels) (hp : 0 < t.absence c) :
    c ∈ ((Table.answer.after t (done ++ [(now, .radar channels)])).unavailable now).1 ↔
      ¬ (Table.answer.after t done).Overdue now c := by
  have hchannels := Answering.after_eq channels_answer t
  have habsence := Answering.after_eq absence_answer t done
  rw [mem_unavailable_iff (hchannels _ ▸ hn), hchannels, and_iff_right htracked,
    Answering.after_concat]
  exact barred_markEach_iff hc (hchannels done ▸ htracked) (habsence ▸ hp)

private theorem Table.Overdue.tracked {t : Table} {done : Requests} {now : Instant} {c : Channel}
    (h : (Table.answer.after t done).Overdue now c) : c ∈ t.channels ∧ 0 < t.absence c := by
  obtain ⟨hp, since, hs, -⟩ := h
  rw [Answering.after_eq absence_answer t done] at hp
  rw [← Answering.after_eq channels_answer t done]
  exact ⟨mem_channels.mpr (tracks_iff.mpr ⟨_, hs⟩), hp⟩

theorem Table.bars_throughout_iff {t : Table} (hn : t.channels.Nodup) (requests : Requests) :
    (∀ done now channels, done ++ [(now, .radar channels)] <+: requests →
        ∀ c ∈ channels, c ∈ t.channels → 0 < t.absence c →
          c ∈ ((Table.answer.after t (done ++ [(now, .radar channels)])).unavailable now).1) ↔
      ¬ t.Loses requests := by
  constructor
  · rintro h ⟨done, now, channels, hdone, c, hc, hover⟩
    obtain ⟨htracked, hp⟩ := hover.tracked
    exact (mem_unavailable_radar_iff hn done now hc htracked hp).mp
      (h done now channels hdone c hc htracked hp) hover
  · intro h done now channels hdone c hc htracked hp
    refine (mem_unavailable_radar_iff hn done now hc htracked hp).mpr fun hover => ?_
    exact h ⟨done, now, channels, hdone, c, hc, hover⟩

private theorem Mirrors.replies_ne {t : Table} {a : Absences} {now : Instant} {done : Requests}
    {channels : List Channel} {c : Channel} (h : Mirrors now t a) (hc : c ∈ channels)
    (hover : (Table.answer.after t done).Overdue now c) :
    Table.answer.replies t (done ++ [(now, .radar channels)] ++ [(now, .unavailable)]) ≠
      Absences.answer.replies a (done ++ [(now, .radar channels)] ++ [(now, .unavailable)]) := by
  intro heq
  obtain ⟨htracked, hp⟩ := hover.tracked
  -- The list leaves the channel out, the rule names it.
  have hlist := mt (Table.mem_unavailable_radar_iff h.nodup done now hc htracked hp).mp
    (not_not_intro hover)
  have hdomain := Answering.after_eq (g := fun a : Absences => (a.channels, a.period))
    Absences.domain_answer a
  have hrule : (Absences.answer.after a (done ++ [(now, .radar channels)])).Bars now c := by
    obtain ⟨hchannels, hperiod⟩ := Prod.mk.inj (hdomain done)
    rw [Answering.after_concat]
    refine Absences.bars_foldl_mark hc ?_ ?_
    · rw [hchannels, ← h.channels]
      exact htracked
    · rw [hperiod, ← h.period c (h.channels ▸ htracked)]
      exact hp
  rw [Answering.replies_concat _ _ (done ++ [(now, Request.radar channels)]),
    Answering.replies_concat _ _ (done ++ [(now, Request.radar channels)])] at heq
  have hlast := (List.append_inj' heq rfl).2
  simp only [Table.answer, Absences.answer, Option.toList_some, List.cons.injEq, and_true,
    Reply.unavailable.injEq] at hlast
  apply hlist
  rw [hlast, List.mem_filter, decide_eq_true_iff, (Prod.mk.inj (hdomain _)).1, ← h.channels]
  exact ⟨htracked, hrule⟩

/-- On a list that is asked in the order of time, the answers to all requests, with one more
question at any point, are those of the rule exactly if no radar is lost: no radar comes on a
channel that is overdue. Exactly then, too, radar always bars at once the channels of the list that
it is found on, as far as there is any time to wait. -/
theorem replies_eq_iff {timing : Timing} {d : Domain} {t : Table} {requests : Requests}
    (hd : d.validate = .ok ()) (ht : Table.ofDomain timing d = .ok t)
    (hordered : requests.Pairwise fun r r' => r.1 ≤ r'.1) :
    ((∀ done now r q, done ++ [(now, r)] <+: requests →
        Table.answer.replies t (done ++ [(now, r)] ++ [(now, q)]) =
          Absences.answer.replies (.ofDomain timing d) (done ++ [(now, r)] ++ [(now, q)])) ↔
      ¬ t.Loses requests) ∧
    ((∀ done now channels, done ++ [(now, .radar channels)] <+: requests →
        ∀ c ∈ channels, c ∈ t.channels → 0 < t.absence c →
          c ∈ ((Table.answer.after t (done ++ [(now, .radar channels)])).unavailable now).1) ↔
      ¬ t.Loses requests) := by
  have hfresh (now : Instant) : Mirrors now t (.ofDomain timing d) := .fresh hd ht now
  refine ⟨⟨?_, ?_⟩, Table.bars_throughout_iff (hfresh 0).nodup requests⟩
  · rintro h ⟨done, now, channels, hdone, c, hc, hover⟩
    exact (hfresh now).replies_ne hc hover (h done now (.radar channels) .unavailable hdone)
  · intro h done now r q hdone
    have hordered' := hordered.sublist hdone.sublist
    obtain ⟨-, -, hlast⟩ := List.pairwise_append.mp hordered'
    have hnow : ∀ r' ∈ done ++ [(now, r)], r'.1 ≤ now := by
      intro r' hr'
      rcases List.mem_append.mp hr' with hr' | hr'
      · exact hlast r' hr' _ (List.mem_singleton_self _)
      · exact Int.le_of_eq (congrArg Prod.fst (List.mem_singleton.mp hr'))
    obtain ⟨hmirrors, hreplies⟩ :=
      Mirrors.after hfresh hordered' hnow fun hlost => h (hlost.mono hdone)
    rw [Answering.replies_concat _ _ (done ++ [(now, r)]),
      Answering.replies_concat _ _ (done ++ [(now, r)]), hreplies, (hmirrors.answer q).1]

end NonOccupancy

namespace TwoPeriods

open NonOccupancy

def domain : Domain :=
  ⟨"TT", .etsi, [⟨52, true, false, 20⟩, ⟨120, true, false, 20⟩]⟩

def table : Table :=
  ⟨{}, [⟨52, .usable⟩, ⟨120, .usable⟩], [120]⟩

def halfAnHour : Instant :=
  (Duration.seconds 1800 : Nat)

def unseen : Requests :=
  [(0, .radar [52, 120]), (halfAnHour, .radar [52])]

def seen : Requests :=
  [(0, .radar [52, 120]), (halfAnHour, .unavailable), (halfAnHour, .radar [52])]

private theorem not_loses_seen : ¬ table.Loses seen := by
  have hfirst : ∀ c ∈ [(52 : Channel), 120], table.isFree c = true :=
    List.forall_mem_cons.mpr ⟨rfl, List.forall_mem_singleton.mpr rfl⟩
  have hsecond : (Table.answer.after table (seen.take 2)).isFree 52 = true := by decide +kernel
  unfold seen
  simp only [Table.loses_cons, Table.not_loses_nil, or_false, reduceCtorEq, false_and, exists_false,
    false_or, Request.radar.injEq, exists_eq_left', not_or, not_exists, not_and]
  refine ⟨fun c hc => Table.not_overdue_of_isFree (hfirst c hc), fun c hc => ?_⟩
  cases List.mem_singleton.mp hc
  exact Table.not_overdue_of_isFree hsecond

theorem replies_seen : domain.validate = .ok () ∧ Table.ofDomain {} domain = .ok table ∧
    seen.Pairwise (fun r r' => r.1 ≤ r'.1) ∧ ¬ table.Loses seen ∧
    Table.answer.replies table (seen ++ [(halfAnHour, .available 52 .alone)]) =
      Absences.answer.replies (.ofDomain {} domain)
        (seen ++ [(halfAnHour, .available 52 .alone)]) ∧
    Table.answer.replies table (seen ++ [(halfAnHour, .available 52 .alone)]) =
      [.unavailable [120], .available false] := by
  have hd : domain.validate = .ok () := by decide
  have ht : Table.ofDomain {} domain = .ok table := by rfl
  have hordered : seen.Pairwise (fun r r' => r.1 ≤ r'.1) := by decide
  refine ⟨hd, ht, hordered, not_loses_seen, ?_, by decide +kernel⟩
  exact (replies_eq_iff hd ht hordered).1.mpr not_loses_seen (seen.take 2) halfAnHour (.radar [52])
    (.available 52 .alone) List.prefix_rfl

/-- Where nobody looks in between, the second radar is lost: by the rule channel 52 is barred, but
on the list it is available at once. -/
theorem not_replies_unseen : domain.validate = .ok () ∧ Table.ofDomain {} domain = .ok table ∧
    unseen.Pairwise (fun r r' => r.1 ≤ r'.1) ∧
    Table.answer.replies table (unseen ++ [(halfAnHour, .available 52 .alone)]) =
      [.available true] ∧
    Absences.answer.replies (.ofDomain {} domain)
      (unseen ++ [(halfAnHour, .available 52 .alone)]) = [.available false] ∧
    52 ∉ ((Table.answer.after table unseen).unavailable halfAnHour).1 := by
  refine ⟨by decide, rfl, by decide, ?_, ?_, ?_⟩ <;> decide +kernel

end TwoPeriods

end Hotspot
