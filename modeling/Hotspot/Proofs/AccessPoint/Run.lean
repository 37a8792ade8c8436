import Hotspot.Proofs.AccessPoint.Effect
import Mathlib.Data.List.Induction

/-!
Runs of a controller: operations in any order, each with its own answers from the layer below. What
every effect of an operation keeps holds throughout every run.
-/

set_option autoImplicit false
set_option relaxedAutoImplicit false

namespace Hotspot

namespace Scene

theorem Managed.cases {σ σ' : Scene} (h : Managed σ σ') :
    (σ'.airspace = σ.airspace ∧ ∀ id st, σ'.stance id = some st →
        σ.stance id = some st ∨ st = .initial) ∨
      ((∃ domain table, σ'.airspace = .fresh domain table) ∧
        ∀ id st, σ'.stance id = some st → σ.stance id = some st ∧ st.phase = .disconnected) := by
  cases h with
  | same => exact .inl ⟨rfl, fun _ _ h => .inl h⟩
  | opened id ids hfresh hadded =>
    refine .inl ⟨rfl, fun j st hst => ?_⟩
    dsimp only at hst
    split at hst
    · exact .inr (Option.some.inj hst).symm
    · exact .inl hst
  | closed id st hfound hoff =>
    refine .inl ⟨rfl, fun j o hst => ?_⟩
    dsimp only at hst
    split at hst
    · cases hst
    · exact .inl hst
  | moved domain table hoff =>
    exact .inr ⟨⟨domain, table, rfl⟩, fun id st hst => ⟨hst, hoff id st hst⟩⟩

private theorem Managed.skip {σ σ' : Scene} (h : Managed σ σ') : σ'.skip = σ.skip := by
  cases h <;> rfl

private theorem Managed.nodup {σ σ' : Scene} (h : Managed σ σ') (hn : σ.ids.Nodup) :
    σ'.ids.Nodup := by
  cases h with
  | same => exact hn
  | opened id ids hfresh hadded => exact hadded.nodup_iff.mpr (List.nodup_cons.mpr ⟨hfresh, hn⟩)
  | closed => exact hn.filter _
  | moved => exact hn

private theorem Managed.sound {σ σ' : Scene} (h : Managed σ σ') (hs : σ.Sound) : σ'.Sound := by
  rcases h.cases with ⟨hair, hst⟩ | ⟨⟨domain, table, hair⟩, hst⟩
  · refine ⟨h.nodup hs.nodup, hair ▸ hs.unseeded, fun id st hid => ?_⟩
    rw [hair]
    rcases hst id st hid with hold | rfl
    · exact hs.proper id st hold
    · exact .initial σ.airspace
  · refine ⟨h.nodup hs.nodup, fun _ => by rw [hair]; exact ⟨rfl, rfl⟩, fun id st hid => ?_⟩
    obtain ⟨hold, hp⟩ := hst id st hid
    exact ⟨fun h => absurd hp h, (hs.proper id st hold).target, fun h => nomatch hp.symm.trans h⟩

end Scene

namespace Controller

variable {c : Controller}

private theorem Effect.sound {op : Operation} {result : Controller × Journal}
    (h : c.Effect op result) (hs : c.scene.Sound) : result.1.scene.Sound := by
  cases h with
  | manage c' _ _ how => exact how.sound hs
  | move now σ c' j _ _ _ reported path => exact path.sound (reported.sound hs)
  | strike now channels σ c' j _ _ _ strikes path => exact path.sound (strikes.sound hs)
  | complete now run σ c' j _ _ _ running completes path =>
    exact path.sound (completes.sound running hs)

theorem sound_perform (hs : c.Sound) (op : Operation) : (c.perform op).1.Sound :=
  ⟨(effect_perform hs op).1.sound hs.scene, (effect_perform hs op).2⟩

theorem create_eq {settings : Settings} {domain : Domain} (h : create settings domain = .ok c) :
    ∃ table, (domain.validate = .ok () ∧
        NonOccupancy.Table.ofDomain settings.timing domain = .ok table) ∧
      c = ⟨settings, .fresh domain table, [], 0, []⟩ := by
  unfold create at h
  cases hs : settings.validate with
  | error fault =>
    rw [hs] at h
    cases h
  | ok _ =>
    rw [hs] at h
    cases hd : domain.validate with
    | error fault =>
      rw [hd] at h
      cases h
    | ok _ =>
      rw [hd] at h
      cases ht : NonOccupancy.Table.ofDomain settings.timing domain with
      | error fault =>
        rw [ht] at h
        cases h
      | ok table =>
        rw [ht] at h
        cases h
        exact ⟨table, ⟨rfl, rfl⟩, rfl⟩

theorem sound_create {settings : Settings} {domain : Domain} (h : create settings domain = .ok c) :
    c.Sound := by
  obtain ⟨table, -, rfl⟩ := create_eq h
  exact ⟨⟨List.nodup_nil, fun _ => ⟨rfl, rfl⟩, fun _ _ h => nomatch h⟩, rfl⟩

def after (c : Controller) (ops : List Operation) : Controller :=
  ops.foldl (fun c op => (c.perform op).1) c

@[simp] theorem after_nil (c : Controller) : c.after [] = c := rfl

theorem after_append (c : Controller) (ops more : List Operation) :
    c.after (ops ++ more) = (c.after ops).after more :=
  List.foldl_append

theorem after_concat (c : Controller) (ops : List Operation) (op : Operation) :
    c.after (ops ++ [op]) = ((c.after ops).perform op).1 :=
  c.after_append ops [op]

theorem sound_after (hs : c.Sound) (ops : List Operation) : (c.after ops).Sound := by
  induction ops using List.reverseRecOn with
  | nil => exact hs
  | append_singleton ops op ih =>
    rw [after_concat]
    exact sound_perform ih op

private theorem Effect.skip {op : Operation} {result : Controller × Journal}
    (h : c.Effect op result) : result.1.scene.skip = c.scene.skip := by
  cases h with
  | manage c' _ _ how => exact how.skip
  | move now σ c' j _ _ _ reported path => exact path.skip.trans reported.skip
  | strike now channels σ c' j _ _ _ strikes path => exact path.skip.trans strikes.skip
  | complete now run σ c' j _ _ _ _ completes path => exact path.skip.trans completes.skip

theorem skip_perform (hs : c.Sound) (op : Operation) :
    (c.perform op).1.settings.skipListening = c.settings.skipListening :=
  (effect_perform hs op).1.skip

theorem skip_after (hs : c.Sound) (ops : List Operation) :
    (c.after ops).settings.skipListening = c.settings.skipListening := by
  induction ops using List.reverseRecOn with
  | nil => rfl
  | append_singleton ops op ih =>
    rw [after_concat, skip_perform (sound_after hs ops) op, ih]

def history (c : Controller) : List Operation → Journal
  | [] => []
  | op :: ops => (c.perform op).2 ++ (c.perform op).1.history ops

@[simp] theorem history_nil (c : Controller) : c.history [] = [] := rfl

theorem history_append (c : Controller) (ops more : List Operation) :
    c.history (ops ++ more) = c.history ops ++ (c.after ops).history more := by
  induction ops generalizing c with
  | nil => rfl
  | cons op ops ih =>
    rw [List.cons_append, history, ih, history, List.append_assoc]
    rfl

theorem history_concat (c : Controller) (ops : List Operation) (op : Operation) :
    c.history (ops ++ [op]) = c.history ops ++ ((c.after ops).perform op).2 := by
  rw [history_append, history, history_nil, List.append_nil]

/-- If one operation keeps a property of the controller and its history exactly when it does no
harm, the property holds throughout a run exactly if no operation of the run does harm. -/
theorem recorded_throughout_iff {P : Controller → Journal → Prop}
    {H : Controller → Journal → Operation → Prop} (hs : c.Sound) (hp : P c [])
    (step : ∀ c j op, c.Sound → P c j →
      (P (c.perform op).1 (j ++ (c.perform op).2) ↔ ¬ H c j op)) (ops : List Operation) :
    (∀ done, done <+: ops → P (c.after done) (c.history done)) ↔
      ∀ done op, done ++ [op] <+: ops → ¬ H (c.after done) (c.history done) op := by
  constructor
  · intro h done op hdone
    have hbefore := h done ((List.prefix_append done [op]).trans hdone)
    have hafter := h (done ++ [op]) hdone
    rw [after_concat, history_concat] at hafter
    exact (step _ _ op (sound_after hs done) hbefore).mp hafter
  · intro h done
    -- By induction on the run from its end: the step needs the property before it.
    induction done using List.reverseRecOn with
    | nil => exact fun _ => hp
    | append_singleton done op ih =>
      intro hdone
      have hbefore := ih ((List.prefix_append done [op]).trans hdone)
      rw [after_concat, history_concat]
      exact (step _ _ op (sound_after hs done) hbefore).mpr (h done op hdone)

theorem throughout_iff {P : Controller → Prop} {H : Controller → Operation → Prop}
    (hs : c.Sound) (hp : P c)
    (step : ∀ c op, c.Sound → P c → (P (c.perform op).1 ↔ ¬ H c op)) (ops : List Operation) :
    (∀ done, done <+: ops → P (c.after done)) ↔
      ∀ done op, done ++ [op] <+: ops → ¬ H (c.after done) op :=
  recorded_throughout_iff (P := fun c _ => P c) (H := fun c _ op => H c op) hs hp
    (fun c _ op => step c op) ops

end Controller

namespace FourChannels

def domain : Domain :=
  ⟨"TT", .fcc, [52, 56, 60, 64].map fun ch => ⟨ch, true, false, 20⟩⟩

def controller : Controller :=
  ⟨{}, .fresh domain ⟨{}, [52, 56, 60, 64].map fun ch => ⟨ch, .usable⟩, []⟩, [], 0, []⟩

theorem created : Controller.create {} domain = .ok controller := rfl

def accessPoint (first : Channel) : SessionSettings :=
  { name := "net", address := ⟨[2, 0, 0, 0, 0, 1], rfl⟩, range := { first } }

def willing : Surroundings := ⟨fun _ _ _ => true, fun _ => 0, []⟩

def send (millis : Nat) (id : SessionId) (e : Event) : Operation :=
  .dispatch willing (Duration.millis millis : Nat) id e

def joined : List Operation :=
  [.openSession (accessPoint 64), .openSession (accessPoint 52),
    send 0 0 (.tunedStartRequest ⟨52, .mhz80, .firstOfFour⟩),
    send 0 1 (.tunedStartRequest ⟨52, .mhz20, .alone⟩)]

def heardOut : List Operation :=
  joined ++ [.listeningOver willing (Duration.millis 60000 : Nat)]

theorem quiet_of_mem_joined (c : Controller) {op : Operation} (h : op ∈ joined) :
    c.reports? op = none ∧ c.completes? op = none ∧ op.heard? = none := by
  simp only [joined, send, List.mem_cons, List.not_mem_nil, or_false] at h
  rcases h with rfl | rfl | rfl | rfl <;>
    simp [Controller.reports?, Controller.completes?, Session.reports?, Session.awaits,
      Operation.heard?, Event.heard?]

theorem quiet_of_mem_heardOut (c : Controller) {op : Operation} (h : op ∈ heardOut) :
    c.reports? op = none ∧ op.heard? = none := by
  rcases List.mem_append.mp h with h | h
  · obtain ⟨hreport, -, hheard⟩ := quiet_of_mem_joined c h
    exact ⟨hreport, hheard⟩
  · obtain rfl := List.mem_singleton.mp h
    exact ⟨rfl, rfl⟩

end FourChannels

namespace TwoChannels

open FourChannels (willing send)

def domain : Domain :=
  ⟨"TT", .fcc, [⟨36, false, false, 20⟩, ⟨52, true, false, 20⟩]⟩

def controller : Controller :=
  ⟨{}, .fresh domain ⟨{}, [⟨52, .usable⟩], []⟩, [], 0, []⟩

theorem created : Controller.create {} domain = .ok controller := rfl

def accessPoint : SessionSettings :=
  { name := "net", address := ⟨[2, 0, 0, 0, 0, 1], rfl⟩, channel := .fixed 52 }

abbrev single (ch : Channel) : Tuning := ⟨ch, .mhz20, .alone⟩

def moving : List Operation :=
  [.openSession accessPoint, send 0 0 (.tunedStartRequest (single 52)),
    send 1000 0 (.radarDetected [52])]

def sending : List Operation :=
  [.openSession accessPoint, send 0 0 (.tunedStartRequest (single 52)),
    .listeningOver willing (Duration.millis 60000 : Nat)]

end TwoChannels

end Hotspot
