import Hotspot.Spectrum.NonOccupancy

/-!
Looking at the non-occupancy list only frees channels whose period has passed; marking a channel
changes no other. Both are said by the status of each channel.
-/

set_option autoImplicit false
set_option relaxedAutoImplicit false

namespace Hotspot

def Tuning.FreeIn (table : NonOccupancy.Table) (tu : Tuning) : Prop :=
  ∀ c ∈ tu.channels, table.isFree c = true

namespace NonOccupancy

/-- The status once radar is found: what is left alone already keeps its instant. -/
def Status.struck (now : Instant) (s : Status) : Status :=
  if s.isFree then .unavailable now else s

private theorem Status.settle_settle (absence : Duration) (now : Instant) (s : Status) :
    (s.settle absence now).settle absence now = s.settle absence now := by
  cases s with
  | usable => rfl
  | available => rfl
  | unavailable since =>
    by_cases hp : absence ≤ Instant.since now since
    · simp [settle, hp]
    · simp [settle, hp]

namespace Table

def Barred (now : Instant) (t : Table) (c : Channel) : Prop :=
  ∃ since, t.status? c = some (.unavailable since) ∧ Instant.since now since < t.absence c

/-- The later list differs only by channels that became available since their period had passed
when somebody looked at `now`. -/
structure Looked (now : Instant) (t t' : Table) : Prop where
  timing : t'.timing = t.timing
  weather : t'.weather = t.weather
  status (c : Channel) : t'.status? c = t.status? c ∨
    ∃ since, t.status? c = some (.unavailable since) ∧
      t.absence c ≤ Instant.since now since ∧ t'.status? c = some .available

theorem isFree_iff {t : Table} {c : Channel} :
    t.isFree c = true ↔ ∀ since, t.status? c ≠ some (.unavailable since) := by
  unfold isFree
  cases h : t.status? c with
  | none => simp
  | some s => cases s <;> simp [Status.isFree]

theorem status?_update_self (t : Table) (c : Channel) (f : Status → Status) :
    (t.update c f).status? c = (t.status? c).map f := by
  unfold update status?
  induction t.entries with
  | nil => rfl
  | cons e rest ih =>
    by_cases he : e.channel = c <;> simp_all [adjust]

theorem status?_update_ne (t : Table) {c d : Channel} (f : Status → Status) (h : d ≠ c) :
    (t.update c f).status? d = t.status? d := by
  unfold update status?
  induction t.entries with
  | nil => rfl
  | cons e rest ih =>
    by_cases he : e.channel = c
    · have hd : e.channel ≠ d := fun hd => h (hd ▸ he)
      simp [adjust, he, Ne.symm h]
    · by_cases hd : e.channel = d <;> simp_all [adjust]

namespace Looked

variable {now : Instant} {t t' t'' : Table}

theorem refl (now : Instant) (t : Table) : Looked now t t :=
  ⟨rfl, rfl, fun _ => .inl rfl⟩

theorem absence (h : Looked now t t') (c : Channel) : t'.absence c = t.absence c := by
  unfold Table.absence
  rw [h.timing, h.weather]

theorem trans (h : Looked now t t') (h' : Looked now t' t'') : Looked now t t'' where
  timing := h'.timing.trans h.timing
  weather := h'.weather.trans h.weather
  status c := by
    rcases h.status c with hc | ⟨since, hs, hp, ha⟩
    · rcases h'.status c with hc' | ⟨since, hs, hp, ha⟩
      · exact .inl (hc'.trans hc)
      · exact .inr ⟨since, hc ▸ hs, h.absence c ▸ hp, ha⟩
    · rcases h'.status c with hc' | ⟨_, hs', -, -⟩
      · exact .inr ⟨since, hs, hp, hc'.trans ha⟩
      · rw [ha] at hs'
        cases hs'

theorem isFree (h : Looked now t t') {c : Channel} (hf : t.isFree c = true) :
    t'.isFree c = true := by
  rw [isFree_iff] at hf ⊢
  intro since hs
  rcases h.status c with hc | ⟨_, _, _, ha⟩
  · exact hf since (hc ▸ hs)
  · rw [ha] at hs
    cases hs

theorem status?_of_unavailable (h : Looked now t t') {c : Channel} {since : Instant}
    (hs : t'.status? c = some (.unavailable since)) : t.status? c = some (.unavailable since) := by
  rcases h.status c with hc | ⟨_, _, _, ha⟩
  · exact hc ▸ hs
  · rw [ha] at hs
    cases hs

theorem unavailable_or (h : Looked now t t') {c : Channel} {since : Instant}
    (hs : t.status? c = some (.unavailable since)) :
    t'.status? c = some (.unavailable since) ∨ t.absence c ≤ Instant.since now since := by
  rcases h.status c with hc | ⟨since', hs', hp, _⟩
  · exact .inl (hc.trans hs)
  · rw [hs] at hs'
    cases hs'
    exact .inr hp

end Looked

private theorem settle_cases (absence : Duration) (now : Instant) (s : Status) :
    s.settle absence now = s ∨ ∃ since, s = .unavailable since ∧
      absence ≤ Instant.since now since ∧ s.settle absence now = .available := by
  cases s with
  | usable => exact .inl rfl
  | available => exact .inl rfl
  | unavailable since =>
    by_cases hp : absence ≤ Instant.since now since
    · exact .inr ⟨since, rfl, hp, by simp [Status.settle, hp]⟩
    · exact .inl (by simp [Status.settle, hp])

private theorem looked_of_status? {now : Instant} {t t' : Table} (ht : t'.timing = t.timing)
    (hw : t'.weather = t.weather)
    (hs : ∀ c, t'.status? c = t.status? c ∨
      t'.status? c = (t.status? c).map (Status.settle (t.absence c) now)) : Looked now t t' := by
  refine ⟨ht, hw, fun c => ?_⟩
  rcases hs c with hc | hc
  · exact .inl hc
  · cases h : t.status? c with
    | none => exact .inl (by rw [hc, h]; rfl)
    | some s =>
      rw [h] at hc
      rcases settle_cases (t.absence c) now s with he | ⟨since, rfl, hp, he⟩
      · exact .inl (by rw [hc, Option.map_some, he])
      · exact .inr ⟨since, rfl, hp, by rw [hc, Option.map_some, he]⟩

theorem looked_settle (now : Instant) (t : Table) (c : Channel) :
    Looked now t (t.settle now c) := by
  refine looked_of_status? rfl rfl fun d => ?_
  by_cases hd : d = c
  · subst hd
    exact .inr (status?_update_self t d _)
  · exact .inl (status?_update_ne t _ hd)

private theorem status?_settleAll (now : Instant) (t : Table) (c : Channel) :
    (t.settleAll now).status? c = (t.status? c).map (Status.settle (t.absence c) now) := by
  unfold settleAll status?
  simp only [List.find?_map, Option.map_map]
  have hp : ((fun e : Entry => e.channel == c) ∘ fun e : Entry =>
      { e with status := e.status.settle (t.absence e.channel) now }) =
        fun e => e.channel == c := rfl
  rw [hp]
  cases h : t.entries.find? fun e => e.channel == c with
  | none => rfl
  | some e =>
    have he : e.channel = c := by simpa using List.find?_some h
    simp [he]

private theorem looked_settleAll (now : Instant) (t : Table) : Looked now t (t.settleAll now) :=
  looked_of_status? rfl rfl fun c => .inr (status?_settleAll now t c)

/-- The later list was reached by looking at `now`: who looks at all of either then sees the
same. -/
structure Viewed (now : Instant) (t t' : Table) : Prop where
  looked : Looked now t t'
  settled : t'.settleAll now = t.settleAll now

private theorem map_adjust_settle (now : Instant) (absence : Channel → Duration) (c : Channel)
    (entries : List Entry) :
    (adjust c (Status.settle (absence c) now) entries).map (fun e =>
        { e with status := e.status.settle (absence e.channel) now }) =
      entries.map fun e => { e with status := e.status.settle (absence e.channel) now } := by
  induction entries with
  | nil => rfl
  | cons e rest ih =>
    by_cases he : e.channel = c
    · subst he
      simp [adjust, Status.settle_settle]
    · simp [adjust, he, ih]

namespace Viewed

variable {now : Instant} {t t' t'' : Table}

theorem refl (now : Instant) (t : Table) : Viewed now t t :=
  ⟨.refl now t, rfl⟩

theorem trans (h : Viewed now t t') (h' : Viewed now t' t'') : Viewed now t t'' :=
  ⟨h.looked.trans h'.looked, h'.settled.trans h.settled⟩

theorem unavailable (h : Viewed now t t') : (t'.unavailable now).1 = (t.unavailable now).1 := by
  unfold Table.unavailable
  rw [h.settled]

end Viewed

private theorem viewed_settle (now : Instant) (t : Table) (c : Channel) :
    Viewed now t (t.settle now c) := by
  refine ⟨looked_settle now t c, ?_⟩
  have h := map_adjust_settle now t.absence c t.entries
  exact congrArg (fun entries => { t with entries }) h

theorem viewed_settleEach (now : Instant) (t : Table) (channels : List Channel) :
    Viewed now t (t.settleEach now channels) := by
  unfold settleEach
  induction channels generalizing t with
  | nil => exact .refl now t
  | cons c rest ih => exact (viewed_settle now t c).trans (ih _)

private theorem viewed_settleAll (now : Instant) (t : Table) : Viewed now t (t.settleAll now) := by
  refine ⟨looked_settleAll now t, ?_⟩
  have habsence : (t.settleAll now).absence = t.absence := rfl
  unfold settleAll at habsence ⊢
  simp only [habsence, List.map_map]
  congr 1
  refine List.map_congr_left fun e _ => ?_
  simp [Status.settle_settle]

theorem viewed_available (now : Instant) (t : Table) (c : Channel) (b : Bonding) :
    Viewed now t (t.available now c b).2 :=
  viewed_settleEach now t _

theorem viewed_unavailable (now : Instant) (t : Table) : Viewed now t (t.unavailable now).2 :=
  viewed_settleAll now t

theorem isFree_of_available {now : Instant} {t : Table} {c : Channel} {b : Bonding}
    (h : (t.available now c b).1 = true) :
    ∀ d ∈ b.channels c, (t.available now c b).2.isFree d = true := by
  simpa [available, List.all_eq_true] using h

theorem status?_mark_self (now : Instant) (t : Table) (c : Channel) :
    (t.mark now c).status? c = (t.status? c).map (Status.struck now) :=
  status?_update_self t c _

theorem status?_mark_ne (now : Instant) (t : Table) {c d : Channel} (h : d ≠ c) :
    (t.mark now c).status? d = t.status? d :=
  status?_update_ne t _ h

private theorem struck_struck (now : Instant) (s : Status) :
    (s.struck now).struck now = s.struck now := by
  cases s <;> rfl

theorem status?_markEach (now : Instant) (t : Table) (channels : List Channel) (c : Channel) :
    (t.markEach now channels).2.status? c =
      if c ∈ channels then (t.status? c).map (Status.struck now) else t.status? c := by
  induction channels generalizing t with
  | nil => simp [markEach]
  | cons d rest ih =>
    simp only [markEach, ih, List.mem_cons]
    by_cases hd : c = d
    · subst hd
      have hs : Status.struck now ∘ Status.struck now = Status.struck now :=
        funext (struck_struck now)
      by_cases hr : c ∈ rest <;> simp [hr, status?_mark_self, hs]
    · simp [hd, status?_mark_ne now t hd]

theorem tracks_iff {t : Table} {c : Channel} : t.tracks c = true ↔ ∃ s, t.status? c = some s := by
  rw [← Option.isSome_iff_exists, status?, Option.isSome_map, List.find?_isSome, tracks,
    List.any_eq_true]

/-- After radar a channel is unavailable since then if it was on the list and free, and else since
it was before. -/
theorem status?_markEach_iff (now : Instant) (t : Table) (channels : List Channel) {c : Channel}
    {since : Instant} : (t.markEach now channels).2.status? c = some (.unavailable since) ↔
      t.status? c = some (.unavailable since) ∨
        now = since ∧ c ∈ channels ∧ t.tracks c = true ∧ t.isFree c = true := by
  rw [status?_markEach]
  by_cases hc : c ∈ channels
  · cases hs : t.status? c with
    | none => simp [hc, tracks_iff, hs]
    | some s => cases s <;> simp [hc, tracks_iff, isFree, hs, Status.struck, Status.isFree]
  · simp [hc]

theorem timing_markEach (now : Instant) (t : Table) (channels : List Channel) :
    (t.markEach now channels).2.timing = t.timing := by
  induction channels generalizing t with
  | nil => rfl
  | cons d rest ih => exact ih (t.mark now d)

theorem weather_markEach (now : Instant) (t : Table) (channels : List Channel) :
    (t.markEach now channels).2.weather = t.weather := by
  induction channels generalizing t with
  | nil => rfl
  | cons d rest ih => exact ih (t.mark now d)

theorem absence_markEach (now : Instant) (t : Table) (channels : List Channel) (c : Channel) :
    (t.markEach now channels).2.absence c = t.absence c := by
  simp only [absence, timing_markEach, weather_markEach]

end Table

end NonOccupancy

theorem Tuning.FreeIn.looked {now : Instant} {table table' : NonOccupancy.Table} {tu : Tuning}
    (h : tu.FreeIn table) (hl : NonOccupancy.Table.Looked now table table') : tu.FreeIn table' :=
  fun c hc => hl.isFree (h c hc)

end Hotspot
