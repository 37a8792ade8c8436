import Hotspot.Proofs.AccessPoint.Choice
import Hotspot.Proofs.Spectrum.Fitness
import Mathlib.Logic.Function.Basic

/-!
The ledger of one session: what it is like, what the layer below was told for it, and the events
that wait for it. Every step of an answer posts to the ledger of one session and leaves the others
alone; whatever a network is told to send on is fit for it when the step is over.
-/

set_option autoImplicit false
set_option relaxedAutoImplicit false

namespace Hotspot

open NonOccupancy (Table)

/-- The tuning that a network is to send on, at its start or after a switch that it announces. -/
def Command.carries? : Command → Option Tuning
  | .startNetwork parameters => some parameters.tuning
  | .announceSwitch target => some target
  | _ => none

def Entry.carries? : Entry → Option Tuning
  | .command _ c _ => c.carries?
  | _ => none

/-- What a line tells the layer below for a session, and whether it takes it. -/
def Entry.told? (id : SessionId) : Entry → Option (Command × Bool)
  | .command k c accepted => if k = id then some (c, accepted) else none
  | _ => none

/-- What the layer below was told for a session, the earliest first. -/
def Journal.commands (j : Journal) (id : SessionId) : List (Command × Bool) :=
  j.filterMap (Entry.told? id)

def Event.ifRefused (e : Event) (accepted : Bool) : List Event :=
  if accepted then [] else [e]

namespace Journal

@[simp] theorem commands_nil (id : SessionId) : commands [] id = [] := rfl

theorem commands_append (j j' : Journal) (id : SessionId) :
    (j ++ j').commands id = j.commands id ++ j'.commands id :=
  List.filterMap_append

private theorem commands_concat (j : Journal) (e : Entry) (id : SessionId) :
    commands (j ++ [e]) id = j.commands id ++ (e.told? id).toList := by
  rw [commands_append]
  cases h : e.told? id <;> simp [commands, h]

theorem mem_commands {j : Journal} {id : SessionId} {c : Command} {ok : Bool} :
    (c, ok) ∈ j.commands id ↔ .command id c ok ∈ j := by
  unfold commands
  rw [List.mem_filterMap]
  constructor
  · rintro ⟨e, he, htold⟩
    cases e with
    | command k c' ok' =>
      simp only [Entry.told?, Option.ite_none_right_eq_some, Option.some.injEq,
        Prod.mk.injEq] at htold
      obtain ⟨rfl, rfl, rfl⟩ := htold
      exact he
    | _ => cases htold
  · intro h
    exact ⟨_, h, by simp [Entry.told?]⟩

end Journal

/-- What became of the airspace at `now` while no radar was reported: a non-occupancy list that was
there already was looked at, no more. -/
structure Airspace.OnlyLooks (now : Instant) (a a' : Airspace) : Prop where
  domain : a'.domain = a.domain
  seeded : a.seeded = true → a'.seeded = true
  viewed : a.seeded = true → Table.Viewed now a.table a'.table

/-- The tuning can be sent on: it is fit by a non-occupancy list that is there. -/
def Airspace.Suits (now : Instant) (a : Airspace) (tu : Tuning) : Prop :=
  a.seeded = true ∧ tu.Fit now a.domain a.table

namespace Airspace

variable {now : Instant} {a a' a'' : Airspace} {tu : Tuning}

theorem OnlyLooks.refl (now : Instant) (a : Airspace) : OnlyLooks now a a :=
  ⟨rfl, fun h => h, fun _ => .refl now a.table⟩

private theorem OnlyLooks.trans (h : OnlyLooks now a a') (h' : OnlyLooks now a' a'') :
    OnlyLooks now a a'' where
  domain := h'.domain.trans h.domain
  seeded hd := h'.seeded (h.seeded hd)
  viewed hd := (h.viewed hd).trans (h'.viewed (h.seeded hd))

theorem Suits.onlyLooks (h : a.Suits now tu) (ht : OnlyLooks now a a') : a'.Suits now tu := by
  obtain ⟨hd, hfit⟩ := h
  refine ⟨ht.seeded hd, ?_⟩
  rw [ht.domain]
  exact hfit.viewed (ht.viewed hd)

end Airspace

/-- What became of the airspace at `now` while radar may have been reported: no bar was lifted. -/
structure Airspace.KeepsBars (now : Instant) (a a' : Airspace) : Prop where
  domain : a'.domain = a.domain
  seeded : a.seeded = true → a'.seeded = true
  barred : a.seeded = true → ∀ ch, a.table.Barred now ch → a'.table.Barred now ch

namespace Airspace

variable {now : Instant} {a a' a'' : Airspace}

theorem OnlyLooks.keepsBars (h : OnlyLooks now a a') : KeepsBars now a a' where
  domain := h.domain
  seeded := h.seeded
  barred hd _ hb := (h.viewed hd).looked.barred hb

theorem KeepsBars.trans (h : KeepsBars now a a') (h' : KeepsBars now a' a'') :
    KeepsBars now a a'' where
  domain := h'.domain.trans h.domain
  seeded hd := h'.seeded (h.seeded hd)
  barred hd ch hb := h'.barred (h.seeded hd) ch (h.barred hd ch hb)

end Airspace

structure Ledger where
  session : Option Session
  commands : List (Command × Bool)
  pending : List Event

/-- A rule for sessions: what one becomes, what the layer below is told and what is left to do. -/
abbrev Rule : Type := Session → Session → List (Command × Bool) → List Event → Prop

namespace Turn

variable {env : Surroundings} {now : Instant} {t t' t₁ t₂ : Turn} {s s' s₀ s₁ : Session}
  {id : SessionId} {cs cs' : List (Command × Bool)} {es es' : List Event} {tu : Tuning}

def SendsUsable (now : Instant) (t : Turn) : Prop :=
  ∀ e ∈ t.journal, ∀ tu, e.carries? = some tu → t.airspace.Suits now tu

/-- No radar was reported on the way, and what was told is fit if it was before. -/
structure KeepsUsable (now : Instant) (t t' : Turn) : Prop where
  onlyLooks : Airspace.OnlyLooks now t.airspace t'.airspace
  sendsUsable : t.SendsUsable now → t'.SendsUsable now

theorem KeepsUsable.trans (h : KeepsUsable now t t₁) (h' : KeepsUsable now t₁ t₂) :
    KeepsUsable now t t₂ :=
  ⟨h.onlyLooks.trans h'.onlyLooks, fun hp => h'.sendsUsable (h.sendsUsable hp)⟩

private theorem KeepsUsable.of_journal (ht : Airspace.OnlyLooks now t.airspace t'.airspace)
    (hj : ∀ e ∈ t'.journal, e ∈ t.journal ∨
      ∀ tu, e.carries? = some tu → t'.airspace.Suits now tu) : KeepsUsable now t t' := by
  refine ⟨ht, fun hp e he tu htu => ?_⟩
  rcases hj e he with hold | hnew
  · exact (hp e hold tu htu).onlyLooks ht
  · exact hnew tu htu

theorem KeepsUsable.of_eq (ha : t'.airspace = t.airspace) (hj : t'.journal = t.journal) :
    KeepsUsable now t t' := by
  refine .of_journal ?_ fun e he => .inl (hj ▸ he)
  rw [ha]
  exact .refl now t.airspace

theorem KeepsUsable.refl (now : Instant) (t : Turn) : KeepsUsable now t t :=
  .of_eq rfl rfl

theorem keepsUsable_record {e : Entry} (he : ∀ tu, e.carries? = some tu → t.airspace.Suits now tu) :
    KeepsUsable now t (t.record e) := by
  refine .of_journal (.refl now t.airspace) fun e' he' => ?_
  rcases List.mem_append.mp he' with hold | hnew
  · exact .inl hold
  · obtain rfl := List.mem_singleton.mp hnew
    exact .inr he

theorem keepsUsable_share {f : Airspace → Airspace}
    (h : Airspace.OnlyLooks now t.airspace (f t.airspace)) : KeepsUsable now t (t.share f) :=
  .of_journal h fun _ he => .inl he

theorem keepsUsable_withTable {table : Table} (h : Table.Viewed now t.airspace.table table) :
    KeepsUsable now t (t.withTable table) :=
  keepsUsable_share ⟨rfl, fun hd => hd, fun _ => h⟩

def pending (t : Turn) (id : SessionId) : List Event :=
  t.queue.filterMap fun p => if p.1 = id then some p.2 else none

def ledger (t : Turn) (id : SessionId) : Ledger :=
  ⟨t.session? id, t.journal.commands id, t.pending id⟩

/-- One session becomes what it is, the layer below is told commands for it, and events are left to
do for it; the others are left alone. -/
structure Posts (now : Instant) (id : SessionId) (s' : Session) (cs : List (Command × Bool))
    (es : List Event) (t t' : Turn) : Prop where
  ledger : t'.ledger = Function.update t.ledger id
    ⟨some s', (t.ledger id).commands ++ cs, (t.ledger id).pending ++ es⟩
  keepsUsable : KeepsUsable now t t'

namespace Posts

theorem own (h : Posts now id s cs es t t') : t'.ledger id =
    ⟨some s, (t.ledger id).commands ++ cs, (t.ledger id).pending ++ es⟩ := by
  rw [h.ledger, Function.update_self]

theorem other (h : Posts now id s cs es t t') {j : SessionId} (hj : j ≠ id) :
    t'.ledger j = t.ledger j := by
  rw [h.ledger, Function.update_of_ne hj]

theorem session (h : Posts now id s cs es t t') : t'.session? id = some s :=
  congrArg Ledger.session h.own

theorem trans (h : Posts now id s cs es t t₁) (h' : Posts now id s' cs' es' t₁ t₂) :
    Posts now id s' (cs ++ cs') (es ++ es') t t₂ := by
  refine ⟨?_, h.keepsUsable.trans h'.keepsUsable⟩
  rw [h'.ledger, h.own, h.ledger, Function.update_idem, List.append_assoc, List.append_assoc]

theorem andThen (h : Posts now id s cs es t t₁) (h' : Posts now id s' [] [] t₁ t₂) :
    Posts now id s' cs es t t₂ := by
  have hboth := h.trans h'
  rwa [List.append_nil, List.append_nil] at hboth

theorem before (h : Posts now id s cs es t t₁) (hl : t₂.ledger = t₁.ledger)
    (hh : KeepsUsable now t₁ t₂) : Posts now id s cs es t t₂ :=
  ⟨hl.trans h.ledger, h.keepsUsable.trans hh⟩

theorem of_ledger_eq (hs : t.session? id = some s) (hl : t'.ledger = t.ledger)
    (hh : KeepsUsable now t t') : Posts now id s [] [] t t' := by
  refine ⟨?_, hh⟩
  have hself : t.ledger id =
      ⟨some s, (t.ledger id).commands ++ [], (t.ledger id).pending ++ []⟩ := by
    rw [List.append_nil, List.append_nil, ← hs]
    rfl
  rw [hl, ← hself, Function.update_eq_self]

end Posts

abbrev Follows (R : Rule) (now : Instant) (id : SessionId) (s : Session) (t t' : Turn) : Prop :=
  ∃ s' cs es, R s s' cs es ∧ Posts now id s' cs es t t'

theorem Follows.keepsUsable {R : Rule} (h : Follows R now id s t t') : KeepsUsable now t t' := by
  obtain ⟨_, _, _, -, hposts⟩ := h
  exact hposts.keepsUsable

private theorem posts_of_each (hs : ∀ j, t'.session? j = if j = id then some s else t.session? j)
    (hj : ∀ j, t'.journal.commands j = t.journal.commands j ++ if j = id then cs else [])
    (hq : ∀ j, t'.pending j = t.pending j ++ if j = id then es else [])
    (hh : KeepsUsable now t t') : Posts now id s cs es t t' := by
  refine ⟨?_, hh⟩
  funext j
  rw [Turn.ledger, hs j, hj j, hq j]
  by_cases h : j = id
  · subst h
    simp [Turn.ledger]
  · simp [h, Turn.ledger]

private theorem session?_self (hs : t.session? id = some s) (j : SessionId) :
    t.session? j = if j = id then some s else t.session? j := by
  by_cases h : j = id
  · subst h
    simp [hs]
  · simp [h]

theorem posts_modify (now : Instant) (hs : t.session? id = some s) {f : Session → Session}
    (hf : ∀ s, (f s).id = s.id) : Posts now id (f s) [] [] t (t.modify id f) := by
  refine posts_of_each (fun j => ?_) (by simp [modify]) (by simp [pending, modify])
    (.of_eq rfl rfl)
  rw [session?_modify t id j hf]
  by_cases h : j = id
  · subst h
    simp [hs]
  · simp [h]

theorem ledger_record {e : Entry} (he : ∀ id, e.told? id = none) :
    (t.record e).ledger = t.ledger := by
  funext j
  have hj := t.journal.commands_concat e j
  rw [he j] at hj
  simp only [Option.toList_none, List.append_nil] at hj
  simp only [ledger, record, hj]
  rfl

theorem posts_record (hs : t.session? id = some s) {e : Entry} (he : ∀ id, e.told? id = none)
    (hc : e.carries? = none) : Posts now id s [] [] t (t.record e) := by
  refine .of_ledger_eq hs (ledger_record he) (keepsUsable_record fun tu htu => ?_)
  rw [hc] at htu
  cases htu

theorem posts_notify (now : Instant) (hs : t.session? id = some s) (j : SessionId) (n : Notice) :
    Posts now id s [] [] t (t.notify j n) :=
  posts_record hs (fun _ => rfl) rfl

theorem posts_enter (now : Instant) (hs : t.session? id = some s) (p : Phase) :
    Posts now id { s with phase := p } [] [] t (t.enter id p) := by
  have hphase : t.phase? id = some s.phase := by
    rw [Controller.phase?, hs]
    rfl
  unfold enter
  rw [hphase]
  dsimp only
  split
  · rename_i hp
    subst hp
    exact .of_ledger_eq hs rfl (.refl now t)
  · have hmoved : Posts now id { s with phase := p } [] [] t
        (t.modify id fun s => { s with phase := p }) :=
      posts_modify now hs (f := fun s => { s with phase := p }) fun _ => rfl
    exact hmoved.andThen (posts_record hmoved.session (fun _ => rfl) rfl)

theorem posts_told (now : Instant) (hs : t.session? id = some s) {c : Command} (ok : Bool)
    (hc : ∀ tu, c.carries? = some tu → t.airspace.Suits now tu) :
    Posts now id s [(c, ok)] [] t (t.record (.command id c ok)) := by
  refine posts_of_each (session?_self hs) (fun j => ?_) (by simp [pending, record])
    (keepsUsable_record hc)
  rw [record, Journal.commands_concat]
  by_cases h : j = id
  · simp [Entry.told?, h]
  · simp [Entry.told?, h, Ne.symm h]

theorem posts_enqueue (hs : t.session? id = some s) (e : Event) :
    Posts now id s [] [e] t (t.enqueue id e) := by
  refine posts_of_each (session?_self hs) (by simp [enqueue]) (fun j => ?_) (.of_eq rfl rfl)
  simp only [pending, enqueue, List.filterMap_append]
  by_cases h : j = id
  · simp [h]
  · simp [h, Ne.symm h]

theorem posts_commandElse (env : Surroundings) (now : Instant) (hs : t.session? id = some s)
    {c : Command} (e : Event) (hc : ∀ tu, c.carries? = some tu → t.airspace.Suits now tu) :
    ∃ ok, Posts now id s [(c, ok)] (e.ifRefused ok) t (t.commandElse env id c e) := by
  obtain ⟨ok, heq⟩ := exists_command_eq env t id c
  refine ⟨ok, ?_⟩
  rw [commandElse, heq]
  have htold : Posts now id s [(c, ok)] [] t (t.record (.command id c ok)) :=
    posts_told now hs ok hc
  cases ok with
  | true => exact htold
  | false => exact htold.trans (posts_enqueue htold.session e)

theorem usable_of_fit (h : tu.Fit now t.airspace.domain t.airspace.table) :
    (t.usable tu now).1 = true := by
  have hv := Table.viewed_available now t.airspace.table tu.channel tu.bonding
  have hfree : (t.airspace.table.available now tu.channel tu.bonding).1 = true := by
    have hall : ∀ c ∈ tu.bonding.channels tu.channel, _ := h.free.looked hv.looked
    simpa [Table.available, List.all_eq_true] using hall
  have hapart := h.apart
  rw [← hv.unavailable] at hapart
  have hall : tu.channels.all t.airspace.domain.contains = true := List.all_eq_true.mpr h.allowed
  unfold usable
  rw [if_pos hall]
  simp only [hfree, if_true, withTable, share, Bool.not_eq_true', List.any_eq_false]
  intro c hc
  simpa using hapart c hc

theorem usable_cases (t : Turn) (tu : Tuning) (now : Instant) :
    ∃ table, Table.Viewed now t.airspace.table table ∧ (t.usable tu now).2 = t.withTable table ∧
      ((t.usable tu now).1 = true → tu.Fit now t.airspace.domain table) := by
  unfold usable
  split
  · rename_i hall
    have ha := Table.viewed_available now t.airspace.table tu.channel tu.bonding
    cases hf : (t.airspace.table.available now tu.channel tu.bonding).1 with
    | false => exact ⟨_, ha, by simp [hf], by simp [hf]⟩
    | true =>
      have hu := Table.viewed_unavailable now
        (t.airspace.table.available now tu.channel tu.bonding).2
      refine ⟨_, ha.trans hu, by simp [hf, withTable, share], fun hok => ?_⟩
      refine ⟨List.all_eq_true.mp hall, fun c hc => ?_, fun c hc => ?_⟩
      · exact hu.looked.isFree (Table.isFree_of_available hf c hc)
      · rw [hu.unavailable]
        simp only [hf, if_true, withTable, share, Bool.not_eq_true', List.any_eq_false] at hok
        simpa using hok c hc
  · exact ⟨t.airspace.table, .refl now _, rfl, by simp⟩

/-- A place was found for a session by looking: it is fit, and the session becomes what it does. -/
structure Places (now : Instant) (id : SessionId) (s : Session) (t : Turn)
    (found : Option Tuning × Turn) : Prop where
  posts : Posts now id s [] [] t found.2
  fit (tu : Tuning) : found.1 = some tu →
    tu.Fit now found.2.airspace.domain found.2.airspace.table

private theorem places_select (env : Surroundings) (now : Instant)
    (hs : t.session? s.id = some s₀) :
    Places now s.id { s₀ with ceiling := some s₀.widest } t (t.select env s now) ∧
      ∀ tu, (t.select env s now).1 = some tu →
        tu.width.megahertz ≤ s.widest.megahertz ∧
          ∀ c ∈ tu.channels, s.settings.range.contains c = true := by
  have hm : Posts now s.id { s₀ with ceiling := some s₀.widest } [] [] t
      (t.modify s.id fun s => { s with ceiling := some s.widest }) :=
    posts_modify now hs (f := fun s => { s with ceiling := some s.widest }) fun _ => rfl
  rw [select]
  generalize (t.modify s.id fun s => { s with ceiling := some s.widest }) = m at *
  have hv := Selection.viewed_select? m.airspace.domain m.settings.policy s.settings.range now
    m.airspace.table s.widest (env.octet m.drawn) (tick now)
  have hfit (tu : Tuning) (h : _ = some tu) :=
    Selection.fit_select? m.airspace.domain m.settings.policy s.settings.range now
      m.airspace.table s.widest (env.octet m.drawn) (tick now) h
  have hwithin (tu : Tuning) (h : _ = some tu) :=
    Selection.within_select? m.airspace.domain m.settings.policy s.settings.range now
      m.airspace.table s.widest (env.octet m.drawn) (tick now) h
  dsimp only
  generalize Selection.select? m.airspace.domain m.settings.policy s.settings.range s.widest
    (env.octet m.drawn) (tick now) now m.airspace.table = found at *
  obtain ⟨choice, table⟩ := found
  have hlooked : Posts now s.id { s₀ with ceiling := some s₀.widest } [] [] t
      (m.withTable table) := hm.before rfl (keepsUsable_withTable hv)
  cases choice with
  | none => refine ⟨⟨hlooked, fun tu h => ?_⟩, fun tu h => ?_⟩ <;> cases h
  | some chosen =>
    refine ⟨⟨?_, fun tu h => hfit tu h⟩, fun tu h => hwithin tu h⟩
    have hdrawn : Posts now s.id { s₀ with ceiling := some s₀.widest } [] [] t
        { m.withTable table with drawn := (m.withTable table).drawn + 1 } :=
      hlooked.before rfl (.of_eq rfl rfl)
    exact hdrawn.andThen (posts_notify now hdrawn.session s.id _)

theorem places_choose (env : Surroundings) (now : Instant) (hs : t.session? s.id = some s₀)
    (hw : s₀.ceiling = some s₀.widest) : Places now s.id s₀ t (t.choose env s now) := by
  have hsame : { s₀ with ceiling := some s₀.widest } = s₀ := by rw [← hw]
  unfold choose
  split
  · have h := (places_select env now hs).1
    rwa [hsame] at h
  · rename_i c _
    obtain ⟨table, hv, heq, hfit⟩ := usable_cases t (Tuning.resolve c s.widest) now
    have hlooked : Posts now s.id s₀ [] [] t (t.withTable table) :=
      .of_ledger_eq hs rfl (keepsUsable_withTable hv)
    dsimp only
    rw [heq]
    split
    · rename_i hok
      refine ⟨hlooked, fun tu h => ?_⟩
      cases h
      exact hfit hok
    · have h := (places_select env now hlooked.session).1
      rw [hsame] at h
      exact ⟨hlooked.trans h.posts, h.fit⟩

theorem suits_iff {target : Tuning} : suits s target = true ↔
    target.width.megahertz ≤ s.widest.megahertz ∧
      ∀ ch ∈ target.channels, s.settings.range.contains ch = true := by
  rw [suits, Bool.and_eq_true, decide_eq_true_eq, List.all_eq_true]

theorem places_findPlace (env : Surroundings) (now : Instant) (hs : t.session? s.id = some s)
    {shared : Option Tuning}
    (hshared : ∀ tu, shared = some tu → tu.Fit now t.airspace.domain t.airspace.table) :
    ∃ w, (w = s.ceiling ∨ w = some s.widest) ∧
      Places now s.id { s with ceiling := w } t (findPlace env now t shared s) ∧
      ∀ tu, (findPlace env now t shared s).1 = some tu → suits s tu = true := by
  unfold findPlace
  split
  · rename_i target htarget
    obtain ⟨hsome, hsuits⟩ := Option.mem_filter_iff.mp htarget
    refine ⟨s.ceiling, .inl rfl, ⟨.of_ledger_eq hs rfl (.refl now t), fun tu h => ?_⟩,
      fun tu h => ?_⟩
    · cases h
      exact hshared target hsome
    · cases h
      exact hsuits
  · obtain ⟨hplaces, hwithin⟩ := places_select env now hs
    refine ⟨some s.widest, .inr rfl, hplaces, fun tu h => ?_⟩
    exact suits_iff.mpr (hwithin tu h)

end Turn

end Hotspot
