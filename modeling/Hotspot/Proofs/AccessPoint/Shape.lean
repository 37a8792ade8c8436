import Hotspot.Proofs.AccessPoint.Lasting

/-!
The shape of a session: what it holds in each phase. Every step gives a session the shape of the
phase it ends in, whatever the step is.
-/

set_option autoImplicit false
set_option relaxedAutoImplicit false

namespace Hotspot

namespace Session

def Pristine (s : Session) : Prop :=
  s.target = none ∧ s.listeningAnnounced = false ∧ s.listeningEndAnnounced = false ∧
    s.stations = []

def Shaped (s : Session) : Prop :=
  match s.phase with
  | .disconnected | .selecting => s.tuning = none ∧ s.Pristine
  | .starting => s.tuning.isSome = true ∧ s.Pristine
  | .listening => s.tuning.isSome = true ∧ s.target = none ∧ s.listeningAnnounced = true ∧
      s.listeningEndAnnounced = false
  | .started | .disconnecting => s.tuning.isSome = true

variable {s s₀ s' : Session} {tu : Tuning} {e : Event} {cs : List (Command × Bool)}
  {es : List Event}

theorem shaped_iff_of_off (hp : s.phase = .disconnected ∨ s.phase = .selecting) :
    s.Shaped ↔ s.tuning = none ∧ s.Pristine := by
  rcases hp with hp | hp <;> simp only [Shaped, hp]

theorem shaped_iff_of_starting (hp : s.phase = .starting) :
    s.Shaped ↔ s.tuning.isSome = true ∧ s.Pristine := by
  simp only [Shaped, hp]

theorem shaped_iff_of_listening (hp : s.phase = .listening) :
    s.Shaped ↔ s.tuning.isSome = true ∧ s.target = none ∧ s.listeningAnnounced = true ∧
      s.listeningEndAnnounced = false := by
  simp only [Shaped, hp]

private theorem shaped_iff_of_on (hp : s.phase = .started ∨ s.phase = .disconnecting) :
    s.Shaped ↔ s.tuning.isSome = true := by
  rcases hp with hp | hp <;> simp only [Shaped, hp]

private theorem Shaped.tuned (h : s.Shaped) (hp : s.phase = .listening ∨ s.phase = .started) :
    s.tuning.isSome = true := by
  rcases hp with hp | hp
  · exact ((shaped_iff_of_listening hp).mp h).1
  · exact (shaped_iff_of_on (.inl hp)).mp h

private theorem shaped_rested (s : Session) : s.rested.Shaped := by
  have hp : s.rested.phase = .disconnected := rfl
  exact (shaped_iff_of_off (.inl hp)).mpr ⟨rfl, rfl, rfl, rfl, rfl⟩

private theorem Shaped.conclude (h : s.Shaped) (hc : Concludes e s s' cs es) : s'.Shaped := by
  cases hc with
  | ignore | move => exact h
  | rest => exact shaped_rested s
  | abandon target s ok leaving =>
    have htuned := (shaped_iff_of_on (.inr leaving)).mp h
    exact (shaped_iff_of_on (.inr rfl)).mpr htuned

private theorem Shaped.readies (h : s.Shaped) (hr : Readies tu s s₀ cs) :
    s₀.tuning = some tu ∧ s₀.target = none ∧ s₀.listeningEndAnnounced = false := by
  cases hr with
  | tuned _ _ off =>
    obtain ⟨-, htarget, -, hunended, -⟩ := (shaped_iff_of_off (.inl off)).mp h
    exact ⟨rfl, htarget, hunended⟩
  | started on tuned =>
    obtain ⟨-, htarget, -, hunended, -⟩ := (shaped_iff_of_starting on).mp h
    exact ⟨tuned, htarget, hunended⟩
  | arrived => exact ⟨rfl, rfl, rfl⟩

private theorem Shaped.flee (h : s.Shaped) (on : s.phase = .listening ∨ s.phase = .started)
    (hf : Flees s s' cs es) : s'.Shaped := by
  have htuned := h.tuned on
  cases hf with
  | stop | leave => exact (shaped_iff_of_on (.inr rfl)).mpr htuned
  | announce w target started =>
    exact (shaped_iff_of_on (s := { s with ceiling := w, target := some target })
      (.inl started)).mpr htuned

private theorem Shaped.awaken (h : s.Shaped) (on : s.phase = .listening)
    (ha : WaitOver s s' cs es) : s'.Shaped := by
  have htuned := h.tuned (.inl on)
  cases ha with
  | send => exact (shaped_iff_of_on (.inl rfl)).mpr htuned
  | stop => exact (shaped_iff_of_on (.inr rfl)).mpr htuned

private theorem Shaped.sessionStep (h : s.Shaped) (hc : SessionStep s s' cs es) : s'.Shaped := by
  cases hc with
  | ignore => exact h
  | conclude e _ _ _ _ concludes => exact h.conclude concludes
  | failAtOnce | quit => exact shaped_rested s
  | scan _ _ channels ok off =>
    have hidle := (shaped_iff_of_off (.inl off)).mp h
    exact (shaped_iff_of_off (.inr rfl)).mpr hidle
  | launch _ _ control parameters ok starts =>
    obtain ⟨-, hpristine⟩ := (shaped_iff_of_off starts).mp h
    exact (shaped_iff_of_starting rfl).mpr ⟨rfl, hpristine⟩
  | miss _ w selects =>
    have hidle := (shaped_iff_of_off (.inr selects)).mp h
    exact (shaped_iff_of_off (s := { s with ceiling := w }) (.inr selects)).mpr hidle
  | listen tu _ s₀ _ readies =>
    obtain ⟨htuned, htarget, hunended⟩ := h.readies readies
    refine (shaped_iff_of_listening rfl).mpr ⟨?_, htarget, rfl, hunended⟩
    exact Option.isSome_of_eq_some htuned
  | refuse tu _ s₀ _ ok readies =>
    obtain ⟨htuned, -⟩ := h.readies readies
    exact (shaped_iff_of_on (.inr rfl)).mpr (Option.isSome_of_eq_some htuned)
  | start tu _ s₀ _ readies =>
    obtain ⟨htuned, -⟩ := h.readies readies
    exact (shaped_iff_of_on (.inl rfl)).mpr (Option.isSome_of_eq_some htuned)
  | confirm _ tu starts =>
    obtain ⟨-, hpristine⟩ := (shaped_iff_of_starting starts).mp h
    exact (shaped_iff_of_starting (s := { s with tuning := some tu }) starts).mpr
      ⟨rfl, hpristine⟩
  | stop _ ok on => exact (shaped_iff_of_on (.inr rfl)).mpr (h.tuned on)
  | depart _ target on => exact (shaped_iff_of_on (.inr rfl)).mpr (h.tuned (.inr on))
  | associate _ stations on =>
    exact (shaped_iff_of_on (s := { s with stations }) (.inl on)).mpr (h.tuned (.inr on))
  | flee _ _ _ _ on flees => exact h.flee on flees
  | awaken _ _ _ _ on waitOver => exact h.awaken on waitOver

theorem lasting_shaped : Lasting fun s _ _ => s.Shaped where
  fresh id settings := by
    have hp : (Session.fresh id settings).phase = .disconnected := rfl
    exact (shaped_iff_of_off (.inl hp)).mpr ⟨rfl, rfl, rfl, rfl, rfl⟩
  sessionStep h hc := h.sessionStep hc
  conclude h hc := h.conclude hc

end Session

namespace Controller

variable {c : Controller}

/-- Between operations no event waits, and every session has the shape of its phase. -/
theorem shaped_after {settings : Settings} {domain : Domain}
    (h : create settings domain = .ok c) (ops : List Operation) :
    (c.after ops).queue = [] ∧ ∀ s ∈ (c.after ops).sessions, s.Shaped := by
  have hsound := sound_after (sound_create h) ops
  refine ⟨hsound.queue, fun s hs => ?_⟩
  have hopen := session?_of_mem hsound.scene.nodup hs
  exact lasting_after h Session.lasting_shaped ops s.id s hopen

open TwoChannels in
theorem shaped_after_moving : create {} domain = .ok controller ∧
    (controller.after moving).queue = [] ∧ ∀ s ∈ (controller.after moving).sessions, s.Shaped :=
  ⟨created, shaped_after created moving⟩

end Controller

end Hotspot
