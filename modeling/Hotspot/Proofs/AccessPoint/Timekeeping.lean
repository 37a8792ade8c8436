import Hotspot.Proofs.AccessPoint.ListEvolution
import Hotspot.Proofs.AccessPoint.JournalWrites

/-!
The timer serves the runs of listening. It is started when a run is recorded, for as long as the run
takes, and stopped when a run is discarded. A run that is completed leaves it alone, and so does a
session that joins one.
-/

set_option autoImplicit false
set_option relaxedAutoImplicit false

namespace Hotspot

open Turn (WritesTimed RunStep Writes)

private theorem Turn.timer_warnings (chs : List Channel) (ids : List SessionId) :
    Journal.timer (warnings chs ids) = [] := by
  apply List.filter_eq_nil_iff.mpr
  intro e he
  obtain ⟨id, -, rfl⟩ := List.mem_map.mp he
  simp [Entry.isTimer]

private theorem Turn.WritesTimed.runStep {S : SessionId → Prop} {now : Instant} {t t' : Turn}
    (h : WritesTimed S now t t') (hj : t.journal.timer = []) :
    RunStep now t.airspace.run t'.airspace.run t'.journal.timer := by
  obtain ⟨more, hmore, -, hstep⟩ := h.journal
  rwa [hmore, Journal.timer_append, hj, List.nil_append]

private theorem Turn.Writes.timer {S : SessionId → Prop} {t t' : Turn} (h : Writes S t t')
    (hj : t.journal.timer = []) : t'.journal.timer = [] := by
  obtain ⟨more, hmore, hconcerns⟩ := h.journal
  rw [hmore, Journal.timer_append, hj, Journal.timer_eq_nil hconcerns, List.nil_append]

namespace Controller

/-- What an operation does with the run of listening, and what it asks of the timer. -/
inductive UsesTimer (c : Controller) (op : Operation) : Controller × Journal → Prop
  | stay (c' : Controller) (j : Journal) (same : c'.airspace.run = c.airspace.run)
      (pending : c.completes? op = none) (quiet : j.timer = []) : UsesTimer c op (c', j)
  | begin (c' : Controller) (j : Journal) (run : ListeningRun) (idle : c.airspace.run = none)
      (recorded : c'.airspace.run = some run) (time : op.now? = some run.startedAt)
      (armed : j.timer = [.armed run.duration]) : UsesTimer c op (c', j)
  | discard (c' : Controller) (j : Journal) (run : ListeningRun)
      (running : c.airspace.run = some run) (gone : c'.airspace.run = none)
      (pending : c.completes? op = none) (disarmed : j.timer = [.disarmed]) : UsesTimer c op (c', j)
  | complete (c' : Controller) (j : Journal) (run : ListeningRun)
      (completed : c.completes? op = some run) (gone : c'.airspace.run = none)
      (quiet : j.timer = []) : UsesTimer c op (c', j)

variable {c : Controller} {op : Operation} {env : Surroundings} {now : Instant} {id : SessionId}
  {s : Session} {e : Event}

private theorem usesTimer_of_runStep {c' : Controller} {j : Journal} (htime : op.now? = some now)
    (hpending : c.completes? op = none)
    (hstep : RunStep now c.airspace.run c'.airspace.run j.timer) : c.UsesTimer op (c', j) := by
  generalize hbefore : c.airspace.run = before at hstep
  generalize hafter : c'.airspace.run = after at hstep
  generalize hlines : j.timer = lines at hstep
  cases hstep with
  | stay => exact .stay c' j (hafter.trans hbefore.symm) hpending hlines
  | begun run hat => exact .begin c' j run hbefore hafter (hat ▸ htime) hlines
  | discarded run => exact .discard c' j run hbefore hafter hpending hlines

private theorem usesTimer_drain_onListeningOver (hs : c.Sound) (n : Nat)
    (hcompletes : c.completes? op = c.airspace.run) :
    c.UsesTimer op (((c.turn.onListeningOver env).drain env now n).toController,
      ((c.turn.onListeningOver env).drain env now n).journal) := by
  cases hrun : c.airspace.run with
  | none =>
    have hidle := writes_drain_of_idle hs hrun env now n
    exact .stay _ _ hidle.run (hcompletes.trans hrun) (hidle.timer rfl)
  | some run =>
    have hover := writes_drain_onListeningOver hs hrun env now n
    exact .complete _ _ run (hcompletes.trans hrun) hover.run (hover.timer rfl)

private theorem usesTimer_dispatch (hs : c.Sound) (h : c.session? id = some s) :
    c.UsesTimer (.dispatch env now id e) (c.perform (.dispatch env now id e)) := by
  have htime : (Operation.dispatch env now id e).now? = some now := rfl
  rw [perform_dispatch h]
  cases hreport : s.reports? e with
  | some chs =>
    have hpending : c.completes? (.dispatch env now id e) = none := by
      cases e <;> simp_all [completes?, Session.awaits, Session.reports?]
    obtain ⟨t₁, hj, ha, hwrites⟩ := exists_dispatch_of_reports hs h hreport env now
    have hquiet : t₁.journal.timer = [] := by
      rw [hj]
      exact Turn.timer_warnings chs _
    have hrun : t₁.airspace.run = c.airspace.run := by
      rw [ha]
      rfl
    exact usesTimer_of_runStep htime hpending (hrun ▸ hwrites.runStep hquiet)
  | none =>
    cases hover : s.awaits e with
    | false =>
      have hpending : c.completes? (.dispatch env now id e) = none := by
        simp [completes?, h, hover]
      have hwrites := writesTimed_dispatch hs h hreport hover env now
      exact usesTimer_of_runStep htime hpending (hwrites.runStep rfl)
    | true =>
      obtain ⟨n, hsettle, -⟩ := Turn.settle_enqueue env now e hs.queue h
      have hreact := Turn.react_of_awaits env now (t := c.turn) h hover
      rw [hsettle, hreact]
      exact usesTimer_drain_onListeningOver hs n (by simp [completes?, h, hover])

private theorem usesTimer_of_untimed (htime : op.now? = none) (hop : op.relocates = false) :
    c.UsesTimer op (c.perform op) := by
  have hpending : c.completes? op = none := by
    cases op with
    | dispatch | listeningOver => cases htime
    | _ => rfl
  have hquiet : (c.perform op).2.timer = [] := by
    rw [journal_perform_of_untimed htime, Journal.timer_nil]
  rcases airspace_perform_of_untimed (c := c) htime with hsame | ⟨domain, table, rfl, -⟩
  · have hrun : (c.perform op).1.airspace.run = c.airspace.run := congrArg Airspace.run hsame
    show c.UsesTimer op ((c.perform op).1, (c.perform op).2)
    exact .stay _ _ hrun hpending hquiet
  · cases hop

theorem usesTimer_perform (hs : c.Sound) (hop : op.relocates = false) :
    c.UsesTimer op (c.perform op) := by
  cases op with
  | openSession | closeSession | setDomain => exact usesTimer_of_untimed rfl hop
  | dispatch env now id e =>
    cases h : c.session? id with
    | none =>
      rw [perform_dispatch_of_none h]
      exact .stay c [] rfl (by simp [completes?, h]) rfl
    | some s => exact usesTimer_dispatch hs h
  | listeningOver env now => exact usesTimer_drain_onListeningOver hs _ rfl

/-- The runs of listening that ended in operations one after the other, each with whether it was
completed. -/
def ended (c : Controller) : List Operation → List (ListeningRun × Bool)
  | [] => []
  | op :: ops =>
    match c.airspace.run, (c.perform op).1.airspace.run with
    | some run, none => (run, (c.completes? op).isSome) :: (c.perform op).1.ended ops
    | _, _ => (c.perform op).1.ended ops

end Controller

namespace ListeningRun

def start (run : ListeningRun) : Entry :=
  .armed run.duration

/-- All that a run asks of the timer that has ended, completed or not. -/
def calls : ListeningRun × Bool → Journal
  | (run, true) => [run.start]
  | (run, false) => [run.start, .disarmed]

end ListeningRun

namespace Controller

variable {c : Controller}

theorem timer_history (hs : c.Sound) {ops : List Operation}
    (hstay : ∀ op ∈ ops, op.relocates = false) :
    c.airspace.run.toList.map ListeningRun.start ++ (c.history ops).timer =
      (c.ended ops).flatMap ListeningRun.calls ++
        (c.after ops).airspace.run.toList.map ListeningRun.start := by
  -- By induction on the run from its beginning. The run of listening that is under way stands for a
  -- start of the timer whose end is still to come, on both sides.
  induction ops generalizing c with
  | nil => simp [ended]
  | cons op ops ih =>
    have hrest := ih (sound_perform hs op) fun o ho => hstay o (List.mem_cons_of_mem op ho)
    have hafter : c.after (op :: ops) = (c.perform op).1.after ops := rfl
    rw [history, Journal.timer_append, hafter, ended]
    have husesTimer := usesTimer_perform hs (hstay op List.mem_cons_self)
    generalize c.perform op = result at husesTimer hrest ⊢
    cases husesTimer with
    | stay c' j hsame hpending hquiet =>
      rw [hsame] at hrest ⊢
      rw [hquiet, List.nil_append, hrest]
      cases c.airspace.run <;> rfl
    | begin c' j run hidle hrecorded htime harmed =>
      rw [hrecorded] at hrest ⊢
      rw [hidle, harmed]
      exact hrest
    | discard c' j run hrunning hover hpending hdisarmed =>
      rw [hover] at hrest ⊢
      rw [hrunning, hdisarmed, hpending]
      exact congrArg ([run.start, .disarmed] ++ ·) hrest
    | complete c' j run hcompleted hover hquiet =>
      rw [hover] at hrest ⊢
      rw [run_of_completes? hcompleted, hquiet, hcompleted]
      exact congrArg ([run.start] ++ ·) hrest

/-- While the domain stays, every operation begins, discards or completes one run at most, and asks
of the timer what belongs to that. On the whole the timer is started once for each run, for as long
as the run takes, and stopped once for each run that ended without being completed; who joins a run
never starts it. -/
theorem timer_serves_runs {settings : Settings} {domain : Domain}
    (h : create settings domain = .ok c) {ops : List Operation}
    (hstay : ∀ op ∈ ops, op.relocates = false) :
    (∀ done op, done ++ [op] <+: ops → (c.after done).UsesTimer op ((c.after done).perform op)) ∧
      (c.history ops).timer = (c.ended ops).flatMap ListeningRun.calls ++
        (c.after ops).airspace.run.toList.map ListeningRun.start ∧
      ∀ done op, done ++ [op] <+: ops → (c.after done).airspace.run.isSome = true →
        ∀ d, .armed d ∉ ((c.after done).perform op).2 := by
  have hs := sound_create h
  have husesTimer (done : List Operation) (op : Operation) (hdone : done ++ [op] <+: ops) :
      (c.after done).UsesTimer op ((c.after done).perform op) := by
    have hmem : op ∈ ops := hdone.subset (List.mem_append_right done (List.mem_singleton_self op))
    exact usesTimer_perform (sound_after hs done) (hstay op hmem)
  refine ⟨husesTimer, ?_, ?_⟩
  · have hidle : c.airspace.run = none := by
      obtain ⟨table, -, rfl⟩ := create_eq h
      rfl
    have hall := timer_history hs hstay
    rwa [hidle] at hall
  · intro done op hdone hrunning d hmem
    have hop := husesTimer done op hdone
    have htimer : .armed d ∈ ((c.after done).perform op).2.timer :=
      List.mem_filter.mpr ⟨hmem, rfl⟩
    generalize (c.after done).perform op = result at hop htimer
    cases hop with
    | begin c' j run hidle => simp [hidle] at hrunning
    | stay c' j _ _ hquiet | complete c' j _ _ _ hquiet => simp [hquiet] at htimer
    | discard c' j _ _ _ _ hdisarmed => simp [hdisarmed] at htimer

open FourChannels in
theorem timer_serves_heardOut : create {} domain = .ok controller ∧
    (∀ op ∈ heardOut, op.relocates = false) ∧
    (∀ done op, done ++ [op] <+: heardOut →
      (controller.after done).UsesTimer op ((controller.after done).perform op)) ∧
    (controller.history heardOut).timer = [.armed (.seconds 60)] := by
  have hstay : ∀ op ∈ heardOut, op.relocates = false := by decide +kernel
  obtain ⟨husesTimer, htimer, -⟩ := timer_serves_runs created hstay
  have hruns : (controller.ended heardOut).flatMap ListeningRun.calls ++
      (controller.after heardOut).airspace.run.toList.map ListeningRun.start =
        [.armed (.seconds 60)] := by
    decide +kernel
  exact ⟨created, hstay, husesTimer, htimer.trans hruns⟩

end Controller

end Hotspot
