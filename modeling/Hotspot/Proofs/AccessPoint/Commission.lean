import Hotspot.Proofs.AccessPoint.Lasting

/-!
Whoever waits for the layer below has asked it for what it waits for. A command that is not taken
leaves an event instead, which ends the wait before the operation is over.
-/

set_option autoImplicit false
set_option relaxedAutoImplicit false

namespace Hotspot

namespace Command

def lastTaken? (cs : List (Command × Bool)) : Option Command :=
  (cs.filter (·.2)).getLast?.map (·.1)

private theorem lastTaken?_concat_true (cs : List (Command × Bool)) (c : Command) :
    lastTaken? (cs ++ [(c, true)]) = some c := by
  have htaken : [(c, true)].filter (·.2) = [(c, true)] := rfl
  rw [lastTaken?, List.filter_append, htaken, List.getLast?_concat]
  rfl

def serves : Command → Phase → Bool
  | .scan _, .selecting => true
  | .startNetwork _, .starting => true
  | .stopNetwork, .disconnecting => true
  | .changeChannel _, .disconnecting => true
  | _, _ => false

end Command

namespace Session

open Command (lastTaken?)

def awaitsReport (s : Session) : Prop :=
  s.phase = .selecting ∨ s.phase = .starting ∨ s.phase = .disconnecting

/-- A session that waits has asked for what it waits for, or an event that ends its wait is left to
do. -/
def Commissioned (s : Session) (cs : List (Command × Bool)) (es : List Event) : Prop :=
  s.awaitsReport → (∃ c, lastTaken? cs = some c ∧ c.serves s.phase = true) ∨
    ∃ e ∈ es, e.settles s.phase = true

variable {s s₀ s' : Session} {tu : Tuning} {e : Event} {c : Command}
  {cs cs' : List (Command × Bool)} {es es' : List Event}

private theorem commissioned_of_settled
    (hp : s.phase = .disconnected ∨ s.phase = .listening ∨ s.phase = .started) :
    s.Commissioned cs es := by
  intro hwaits
  rcases hp with hp | hp | hp <;> simp [awaitsReport, hp] at hwaits

private theorem commissioned_of_mem (he : e ∈ es) (hsettles : e.settles s.phase = true) :
    s.Commissioned cs es := by
  intro _
  exact .inr ⟨e, he, hsettles⟩

private theorem commissioned_of_told (es : List Event) (ok : Bool) (hc : c.serves s.phase = true)
    (he : e.settles s.phase = true) :
    s.Commissioned (cs ++ [(c, ok)]) (es ++ e.ifRefused ok) := by
  intro _
  cases ok with
  | true => exact .inl ⟨c, Command.lastTaken?_concat_true cs c, hc⟩
  | false => exact .inr ⟨e, List.mem_append_right es (List.mem_singleton_self e), he⟩

private theorem commissioned_of_told_two {first : Command × Bool} (es : List Event) (ok : Bool)
    (hc : c.serves s.phase = true) (he : e.settles s.phase = true) :
    s.Commissioned (cs ++ [first, (c, ok)]) (es ++ e.ifRefused ok) := by
  have hsplit : cs ++ [first, (c, ok)] = (cs ++ [first]) ++ [(c, ok)] := by
    rw [List.append_assoc]
    rfl
  rw [hsplit]
  exact commissioned_of_told es ok hc he

private theorem Commissioned.conclude (h : s.Commissioned cs (e :: es))
    (hc : Concludes e s s' cs' es') : s'.Commissioned (cs ++ cs') (es ++ es') := by
  cases hc with
  | ignore _ _ unknown =>
    intro hwaits
    rw [List.append_nil, List.append_nil]
    refine (h hwaits).imp_right ?_
    rintro ⟨x, hx, hsettles⟩
    -- The event that is handled settles nothing, so it is not the one that counts.
    rcases List.mem_cons.mp hx with rfl | hx
    · rw [unknown] at hsettles
      cases hsettles
    · exact ⟨x, hx, hsettles⟩
  | rest => exact commissioned_of_settled (.inl rfl)
  | move target _ leaving =>
    intro _
    refine .inl ⟨.changeChannel target, Command.lastTaken?_concat_true cs _, ?_⟩
    rw [leaving]
    rfl
  | abandon target _ ok leaving => exact commissioned_of_told_two es ok rfl rfl

private theorem commissioned_flees (cs : List (Command × Bool))
    (on : s.phase = .listening ∨ s.phase = .started) (hf : Flees s s' cs' es) :
    s'.Commissioned (cs ++ cs') es := by
  cases hf with
  | stop w ok => exact commissioned_of_told [] ok rfl rfl
  | leave w target => exact commissioned_of_mem (List.mem_singleton_self _) rfl
  | announce => exact commissioned_of_settled (.inr on)

private theorem commissioned_waitOver (cs : List (Command × Bool)) (ha : WaitOver s s' cs' es) :
    s'.Commissioned (cs ++ cs') es := by
  cases ha with
  | send => exact commissioned_of_settled (.inr (.inr rfl))
  | stop => exact commissioned_of_told_two [] _ rfl rfl

private theorem Commissioned.sessionStep (h : s.Commissioned cs []) (hc : SessionStep s s' cs' es) :
    s'.Commissioned (cs ++ cs') es := by
  cases hc with
  | ignore =>
    rw [List.append_nil]
    exact h
  | conclude e _ _ _ _ concludes =>
    -- With nothing left to do the session has asked for what it waits for.
    have hwaits : s.Commissioned cs [e] := fun hw => (h hw).imp_right nofun
    exact hwaits.conclude concludes
  | failAtOnce | quit => exact commissioned_of_settled (.inl rfl)
  | scan _ told channels ok off =>
    rw [← List.append_assoc]
    exact commissioned_of_told [] ok rfl rfl
  | launch _ told control parameters ok starts =>
    rw [← List.append_assoc]
    exact commissioned_of_told [] ok rfl rfl
  | miss _ w selects =>
    refine commissioned_of_mem (List.mem_singleton_self _) ?_
    have hp : ({ s with ceiling := w } : Session).phase = .selecting := selects
    rw [hp]
    rfl
  | listen => exact commissioned_of_settled (.inr (.inl rfl))
  | refuse tu _ s₀ told ok readies =>
    rw [← List.append_assoc]
    exact commissioned_of_told [] ok rfl rfl
  | start => exact commissioned_of_settled (.inr (.inr rfl))
  | confirm =>
    rw [List.append_nil]
    exact h
  | stop _ ok on => exact commissioned_of_told [] ok rfl rfl
  | depart => exact commissioned_of_mem (List.mem_singleton_self _) rfl
  | associate _ stations on => exact commissioned_of_settled (.inr (.inr on))
  | flee _ _ _ _ on flees => exact commissioned_flees cs on flees
  | awaken _ _ _ _ on waitOver => exact commissioned_waitOver cs waitOver

private theorem lasting_commissioned : Lasting Commissioned where
  fresh _ _ := commissioned_of_settled (.inl rfl)
  sessionStep h hc := h.sessionStep hc
  conclude h hc := h.conclude hc

end Session

namespace TwoChannels

open FourChannels (send)

def rigid : Surroundings where
  accepts _ _ c := c = .stopNetwork || !c.serves .disconnecting
  octet _ := 0
  kept := []

def stuck : List Operation :=
  [.openSession accessPoint, send 0 0 (.tunedStartRequest (single 52)),
    .dispatch rigid (Duration.millis 1000 : Nat) 0 (.radarDetected [52])]

end TwoChannels

namespace Controller

open Command (lastTaken?)

variable {c : Controller}

/-- Between operations, the last command that was taken for a session that waits is the one whose
completion it waits for. -/
theorem commissioned_after {settings : Settings} {domain : Domain}
    (h : create settings domain = .ok c) (ops : List Operation) :
    ∀ s ∈ (c.after ops).sessions,
      (s.phase = .selecting → ∃ channels,
        lastTaken? (c.commanded ops s.id) = some (.scan channels)) ∧
      (s.phase = .starting → ∃ parameters,
        lastTaken? (c.commanded ops s.id) = some (.startNetwork parameters)) ∧
      (s.phase = .disconnecting → lastTaken? (c.commanded ops s.id) = some .stopNetwork ∨
        ∃ target, lastTaken? (c.commanded ops s.id) = some (.changeChannel target)) := by
  intro s hs
  have hsound := sound_after (sound_create h) ops
  have hopen := session?_of_mem hsound.scene.nodup hs
  have hlast := lasting_after h Session.lasting_commissioned ops s.id s hopen
  have hserved (hwaits : s.awaitsReport) :
      ∃ cmd, lastTaken? (c.commanded ops s.id) = some cmd ∧ cmd.serves s.phase = true :=
    (hlast hwaits).resolve_right nofun
  refine ⟨fun hp => ?_, fun hp => ?_, fun hp => ?_⟩
  · obtain ⟨cmd, hcmd, hserves⟩ := hserved (.inl hp)
    rw [hp] at hserves
    cases cmd with
    | scan channels => exact ⟨channels, hcmd⟩
    | _ => cases hserves
  · obtain ⟨cmd, hcmd, hserves⟩ := hserved (.inr (.inl hp))
    rw [hp] at hserves
    cases cmd with
    | startNetwork parameters => exact ⟨parameters, hcmd⟩
    | _ => cases hserves
  · obtain ⟨cmd, hcmd, hserves⟩ := hserved (.inr (.inr hp))
    rw [hp] at hserves
    cases cmd with
    | stopNetwork => exact .inl hcmd
    | changeChannel target => exact .inr ⟨target, hcmd⟩
    | _ => cases hserves

open TwoChannels in
theorem commissioned_after_stuck : create {} domain = .ok controller ∧
    ∃ s ∈ (controller.after stuck).sessions, s.phase = .disconnecting ∧
      (lastTaken? (controller.commanded stuck s.id) = some .stopNetwork ∨
        ∃ target, lastTaken? (controller.commanded stuck s.id) = some (.changeChannel target)) := by
  have hleaves : ∃ s ∈ (controller.after stuck).sessions, s.phase = .disconnecting := by
    decide +kernel
  obtain ⟨s, hs, hp⟩ := hleaves
  exact ⟨created, s, hs, hp, (commissioned_after created stuck s hs).2.2 hp⟩

end Controller

end Hotspot
