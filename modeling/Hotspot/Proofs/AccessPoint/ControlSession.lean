import Hotspot.Proofs.AccessPoint.Lasting

/-!
The control session that the layer below holds for a session. It is opened and given up in turn, and
it is there exactly while the session is not off the air, so that a number that is used again begins
without one.
-/

set_option autoImplicit false
set_option relaxedAutoImplicit false

namespace Hotspot

/-- What a command makes of the control session: it is there if the layer below opens it, and gone
once it is given up, whether the layer below agrees or not. -/
def Command.control? : Command × Bool → Option Bool
  | (.openControl, accepted) => if accepted then some true else none
  | (.closeControl, _) => some false
  | _ => none

/-- The control sessions that were opened and given up, the earliest first. -/
def Command.controls (cs : List (Command × Bool)) : List Bool :=
  cs.filterMap control?

/-- Opening and giving up take turns, from where there is something or not to where there is. -/
structure TakesTurns (before : Bool) (calls : List Bool) (after : Bool) : Prop where
  turns : (before :: calls).IsChain (· ≠ ·)
  last : calls.getLastD before = after

private theorem TakesTurns.refl (b : Bool) : TakesTurns b [] b :=
  ⟨.singleton b, rfl⟩

private theorem TakesTurns.single {a b : Bool} (h : a ≠ b) : TakesTurns a [b] b :=
  ⟨List.isChain_cons_cons.mpr ⟨h, .singleton b⟩, rfl⟩

private theorem TakesTurns.trans {a b c : Bool} {l l' : List Bool} (h : TakesTurns a l b)
    (h' : TakesTurns b l' c) : TakesTurns a (l ++ l') c := by
  -- By induction on the earlier turns, whose last one is where the later ones begin.
  induction l generalizing a with
  | nil =>
    obtain rfl : a = b := h.last
    exact h'
  | cons x l ih =>
    obtain ⟨hne, hrest⟩ := List.isChain_cons_cons.mp h.turns
    have hlast : l.getLastD x = b := by
      rw [← h.last, List.getLastD_cons]
    have htail := ih ⟨hrest, hlast⟩
    refine ⟨List.isChain_cons_cons.mpr ⟨hne, htail.turns⟩, ?_⟩
    rw [List.cons_append, List.getLastD_cons]
    exact htail.last

namespace Session

open Command (controls)

def Attached (s : Session) : Prop :=
  s.controlOpen = true ↔ s.phase ≠ .disconnected

/-- A session that was attached is attached behind the commands, and its control session was opened
and given up in turn on the way. -/
structure Holds (s s' : Session) (cs : List (Command × Bool)) : Prop where
  attached : s'.Attached
  turns : TakesTurns s.controlOpen (controls cs) s'.controlOpen

variable {s s₀ s' : Session} {tu : Tuning} {e : Event} {cs cs' : List (Command × Bool)}
  {es : List Event} {control ok : Bool}

private theorem Attached.off (h : s.Attached) (hp : s.phase = .disconnected) :
    s.controlOpen = false := by
  rw [← Bool.not_eq_true]
  intro hopen
  exact h.mp hopen hp

private theorem attached_of_open (hopen : s.controlOpen = true) (hp : s.phase ≠ .disconnected) :
    s.Attached :=
  iff_of_true hopen hp

private theorem attached_rested (s : Session) : s.rested.Attached := by
  have hoff : s.rested.phase = .disconnected := rfl
  exact iff_of_false Bool.false_ne_true fun h => h hoff

private theorem attached_fresh (id : SessionId) (settings : SessionSettings) :
    (Session.fresh id settings).Attached := by
  have hoff : (Session.fresh id settings).phase = .disconnected := rfl
  exact iff_of_false Bool.false_ne_true fun h => h hoff

private theorem controls_eq_nil (h : ∀ p ∈ cs, Command.control? p = none) : controls cs = [] :=
  List.filterMap_eq_nil_iff.mpr h

private theorem turns_closing (s : Session) (ok : Bool) :
    TakesTurns s.controlOpen (controls (s.closing ok)) false := by
  unfold closing
  cases s.controlOpen with
  | true => exact .single nofun
  | false => exact .refl false

private theorem turns_opening (hkept : s.controlOpen = true → control = true) :
    TakesTurns s.controlOpen (controls (s.opening control)) control := by
  unfold opening
  cases hopen : s.controlOpen with
  | true =>
    obtain rfl := hkept hopen
    exact .refl true
  | false =>
    cases control with
    | true => exact .single nofun
    | false => exact .refl false

private theorem turns_append {a b c : Bool} (h : TakesTurns a (controls cs) b)
    (h' : TakesTurns b (controls cs') c) : TakesTurns a (controls (cs ++ cs')) c := by
  have hsplit : controls (cs ++ cs') = controls cs ++ controls cs' := List.filterMap_append
  rw [hsplit]
  exact h.trans h'

private theorem turns_before {a b : Bool} (h : TakesTurns a (controls cs) b)
    (hcs : ∀ p ∈ cs', Command.control? p = none) : TakesTurns a (controls (cs ++ cs')) b := by
  refine turns_append h ?_
  rw [controls_eq_nil hcs]
  exact .refl b

private theorem holds_rested (s : Session) (ok : Bool) : Holds s s.rested (s.closing ok) :=
  ⟨attached_rested s, turns_closing s ok⟩

private theorem Attached.stay (h : s.Attached) (hp : s.phase ≠ .disconnected)
    (hopen : s'.controlOpen = s.controlOpen) (hp' : s'.phase ≠ .disconnected)
    (hcs : ∀ p ∈ cs, Command.control? p = none) : Holds s s' cs := by
  have hthere : s'.controlOpen = true := hopen.trans (h.mpr hp)
  refine ⟨attached_of_open hthere hp', ?_⟩
  rw [controls_eq_nil hcs, hopen]
  exact .refl s.controlOpen

private theorem holds_setOut (hopen : s'.controlOpen = true) (hp : s'.phase ≠ .disconnected)
    (hcs : ∀ p ∈ cs, Command.control? p = none) : Holds s s' (s.opening true ++ cs) := by
  refine ⟨attached_of_open hopen hp, ?_⟩
  rw [hopen]
  exact turns_before (turns_opening fun _ => rfl) hcs

private theorem Attached.conclude (h : s.Attached) (hc : Concludes e s s' cs es) :
    Holds s s' cs := by
  cases hc with
  | ignore => exact ⟨h, .refl _⟩
  | rest _ _ ok => exact holds_rested s ok
  | move target _ leaving =>
    have hon : s.phase ≠ .disconnected := by simp [leaving]
    exact h.stay hon rfl hon (by simp [Command.control?])
  | abandon target _ ok leaving =>
    have hon : s.phase ≠ .disconnected := by simp [leaving]
    exact h.stay hon rfl nofun (by simp [Command.control?])

private theorem turns_failsAtOnce (h : s.FailsAtOnce cs) :
    TakesTurns s.controlOpen (controls cs) false := by
  obtain ⟨control, refused, ok, hkept, hrefused, rfl⟩ := h
  have hsilent : ∀ p ∈ refused, Command.control? p = none := by
    intro p hp
    obtain ⟨parameters, rfl⟩ := hrefused p hp
    rfl
  rw [← List.append_assoc]
  exact turns_append (turns_before (turns_opening hkept) hsilent)
    (turns_closing { s with controlOpen := control } ok)

private theorem Attached.readies (h : s.Attached) (hr : Readies tu s s₀ cs) :
    s₀.controlOpen = true ∧ TakesTurns s.controlOpen (controls cs) true := by
  cases hr with
  | tuned _ parameters off opened =>
    subst opened
    exact ⟨rfl, turns_before (turns_opening fun _ => rfl) (by simp [Command.control?])⟩
  | started on tuned =>
    have hopen : s.controlOpen = true := h.mpr (by simp [on])
    exact ⟨hopen, hopen ▸ .refl true⟩
  | arrived on =>
    have hopen : s.controlOpen = true := h.mpr (by simp [on])
    exact ⟨hopen, hopen ▸ .refl true⟩

private theorem Attached.goOn (h : s.Attached) (hr : Readies tu s s₀ cs)
    (hopen : s'.controlOpen = s₀.controlOpen) (hp : s'.phase ≠ .disconnected)
    (hcs : ∀ p ∈ cs', Command.control? p = none) : Holds s s' (cs ++ cs') := by
  obtain ⟨hready, hturns⟩ := h.readies hr
  have hthere : s'.controlOpen = true := hopen.trans hready
  refine ⟨attached_of_open hthere hp, ?_⟩
  rw [hthere]
  exact turns_before hturns hcs

private theorem Attached.flee (h : s.Attached) (on : s.phase ≠ .disconnected)
    (hf : Flees s s' cs es) : Holds s s' cs := by
  cases hf with
  | stop => exact h.stay on rfl nofun (by simp [Command.control?])
  | leave w target _ width told =>
    refine h.stay on rfl nofun fun p hp => ?_
    obtain rfl := told p hp
    rfl
  | announce => exact h.stay on rfl on (by simp [Command.control?])

private theorem Attached.awaken (h : s.Attached) (on : s.phase ≠ .disconnected)
    (ha : WaitOver s s' cs es) : Holds s s' cs := by
  cases ha with
  | send | stop => exact h.stay on rfl nofun (by simp [Command.control?])

private theorem Attached.sessionStep (h : s.Attached) (hc : SessionStep s s' cs es) :
    Holds s s' cs := by
  have hsilent : ∀ p ∈ ([] : List (Command × Bool)), Command.control? p = none :=
    List.forall_mem_nil _
  cases hc with
  | ignore => exact ⟨h, .refl _⟩
  | conclude e _ _ _ _ concludes => exact h.conclude concludes
  | failAtOnce _ w _ off width failsAtOnce =>
    exact ⟨attached_rested s, turns_failsAtOnce failsAtOnce⟩
  | quit _ ok => exact holds_rested s ok
  | scan _ _ channels ok off opened =>
    subst opened
    exact holds_setOut rfl nofun (by simp [Command.control?])
  | launch _ _ control parameters ok starts opened =>
    rcases opened with ⟨off, rfl, rfl⟩ | ⟨selects, rfl, rfl⟩
    · exact holds_setOut rfl nofun (by simp [Command.control?])
    · have hon : s.phase ≠ .disconnected := by simp [selects]
      exact h.stay hon rfl nofun (by simp [Command.control?])
  | miss _ w selects =>
    have hon : s.phase ≠ .disconnected := by simp [selects]
    exact h.stay hon rfl hon hsilent
  | listen _ _ _ _ readies | start _ _ _ _ readies =>
    rw [← List.append_nil cs]
    exact h.goOn readies rfl nofun hsilent
  | refuse _ _ _ _ ok readies => exact h.goOn readies rfl nofun (by simp [Command.control?])
  | confirm _ tuning starts =>
    have hon : s.phase ≠ .disconnected := by simp [starts]
    exact h.stay hon rfl hon hsilent
  | stop _ ok on =>
    have hon : s.phase ≠ .disconnected := by rcases on with on | on <;> simp [on]
    exact h.stay hon rfl nofun (by simp [Command.control?])
  | depart _ target on => exact h.stay (by simp [on]) rfl nofun hsilent
  | associate _ stations on =>
    have hon : s.phase ≠ .disconnected := by simp [on]
    exact h.stay hon rfl hon hsilent
  | flee _ _ _ _ on flees =>
    have hon : s.phase ≠ .disconnected := by rcases on with on | on <;> simp [on]
    exact h.flee hon flees
  | awaken _ _ _ _ on waitOver => exact h.awaken (by simp [on]) waitOver

end Session

/-- Behind its commands the session of a ledger is attached, and its control session was opened and
given up in turn. -/
structure Ledger.Attaches (before : Bool) (l : Ledger) : Prop where
  attached (s : Session) : l.session = some s → s.Attached
  turns : TakesTurns before (Command.controls l.commands) (l.session.any (·.controlOpen))

namespace Controller

open Command (controls)

variable {c : Controller} {op : Operation}

def attached (c : Controller) (id : SessionId) : Bool :=
  (c.session? id).any (·.controlOpen)

private theorem endures_attaches (before : SessionId → Bool) :
    Turn.Endures fun id l => l.Attaches (before id) := by
  constructor
  · intro id cs e es h
    exact ⟨h.attached, h.turns⟩
  · intro id s₁ s₂ cs cs' e es es' h hconcludes
    have hholds := (h.attached s₁ rfl).conclude hconcludes
    refine ⟨?_, Session.turns_append h.turns hholds.turns⟩
    rintro s ⟨⟩
    exact hholds.attached

theorem attached_perform_of_untimed (htime : op.now? = none)
    (hall : ∀ id s, c.session? id = some s → s.Attached) (id : SessionId) :
    (c.perform op).1.attached id = c.attached id := by
  unfold attached
  rcases session?_untimed_cases (c := c) htime id with
    hsame | ⟨hnone, settings, hnew⟩ | ⟨⟨s, hs, hoff⟩, hgone⟩
  · rw [hsame]
  · rw [hnone, hnew]
    rfl
  · rw [hs, hgone]
    exact ((hall id s hs).off hoff).symm

theorem attaches_perform (hs : c.Sound) (hall : ∀ id s, c.session? id = some s → s.Attached)
    (op : Operation) (id : SessionId) :
    Ledger.Attaches (c.attached id)
      ⟨(c.perform op).1.session? id, (c.perform op).2.commands id, []⟩ := by
  cases htime : op.now? with
  | none =>
    have hsilent : (c.perform op).2 = [] := journal_perform_of_untimed htime
    have hsame := attached_perform_of_untimed htime hall id
    refine ⟨fun s hnew => ?_, ?_⟩
    · rcases session?_perform_of_untimed htime hnew with hold | ⟨-, settings, rfl⟩
      · exact hall id s hold
      · exact Session.attached_fresh id settings
    · rw [hsilent]
      exact ⟨.singleton _, hsame.symm⟩
  | some now =>
    refine endures_perform (endures_attaches c.attached) hs (fun k => ?_) ?_ htime id
    · exact ⟨hall k, .refl _⟩
    · intro s s' cs es hopen hstep
      have hholds := (hall s.id s hopen).sessionStep hstep
      have hbefore : c.attached s.id = s.controlOpen := by
        rw [attached, hopen]
        rfl
      refine ⟨?_, hbefore ▸ hholds.turns⟩
      rintro x ⟨⟩
      exact hholds.attached

theorem attached_after (hs : c.Sound) (hall : ∀ id s, c.session? id = some s → s.Attached)
    (ops : List Operation) : ∀ id s, (c.after ops).session? id = some s → s.Attached := by
  induction ops using List.reverseRecOn with
  | nil => exact hall
  | append_singleton ops op ih =>
    rw [after_concat]
    intro id
    exact (attaches_perform (sound_after hs ops) ih op id).attached

theorem turns_history (hs : c.Sound) (hall : ∀ id s, c.session? id = some s → s.Attached)
    (ops : List Operation) (id : SessionId) :
    TakesTurns (c.attached id) (controls ((c.history ops).commands id))
      ((c.after ops).attached id) := by
  induction ops using List.reverseRecOn with
  | nil => exact .refl _
  | append_singleton ops op ih =>
    have hall' := attached_after hs hall ops
    have hlast := (attaches_perform (sound_after hs ops) hall' op id).turns
    rw [history_concat, Journal.commands_append, after_concat]
    exact Session.turns_append ih hlast

/-- Between operations there is a control session for exactly the sessions that are not off the air.
Whatever numbers are used again, the control sessions opened for one and those given up take turns
from the first operation on, the first is opened, and one is left exactly if a session with the
number holds it. A session that is closed has none. -/
theorem control_takes_turns {settings : Settings} {domain : Domain}
    (h : create settings domain = .ok c) (ops : List Operation) :
    (∀ s ∈ (c.after ops).sessions, s.controlOpen = true ↔ s.phase ≠ .disconnected) ∧
      (∀ id, TakesTurns false (controls ((c.history ops).commands id))
        (((c.after ops).session? id).any (·.controlOpen))) ∧
      ∀ id c', (c.after ops).closeSession id = .ok c' →
        ∃ s, (c.after ops).session? id = some s ∧ s.controlOpen = false := by
  have hs := sound_create h
  have hnone : ∀ id, c.session? id = none := by
    obtain ⟨table, -, rfl⟩ := create_eq h
    exact fun _ => rfl
  have hall : ∀ id s, c.session? id = some s → s.Attached := by
    intro id s hopen
    cases (hnone id).symm.trans hopen
  have hattached := attached_after hs hall ops
  refine ⟨fun s hmem => ?_, fun id => ?_, fun id c' hclose => ?_⟩
  · exact hattached s.id s (session?_of_mem (sound_after hs ops).scene.nodup hmem)
  · have hturns := turns_history hs hall ops id
    rw [attached, hnone id] at hturns
    exact hturns
  · obtain ⟨⟨s, hopen, hoff⟩, -⟩ := closeSession_eq hclose
    exact ⟨s, hopen, (hattached id s hopen).off hoff⟩

open TwoChannels in
open FourChannels (send) in
/-- A session listens, stops and is closed; another one gets its number and listens too. -/
def reused : List Operation :=
  [.openSession accessPoint, send 0 0 (.tunedStartRequest (single 52)), send 1000 0 .stopRequest,
    send 2000 0 .networkStopped, .closeSession 0, .openSession accessPoint,
    send 3000 0 (.tunedStartRequest (single 52))]

open TwoChannels in
theorem control_takes_turns_reused : create {} domain = .ok controller ∧
    controls ((controller.history reused).commands 0) = [true, false, true] ∧
    TakesTurns false [true, false, true]
      (((controller.after reused).session? 0).any (·.controlOpen)) := by
  have hcalls : controls ((controller.history reused).commands 0) = [true, false, true] := by
    decide +kernel
  obtain ⟨-, hturns, -⟩ := control_takes_turns created reused
  exact ⟨created, hcalls, hcalls ▸ hturns 0⟩

end Controller

end Hotspot
