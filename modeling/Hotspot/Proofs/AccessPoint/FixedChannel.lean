import Hotspot.Proofs.AccessPoint.NetworkStarts

/-!
Whether a session that is bound to a channel is started there. After the scan, the channel is tried
at the widest width that its number allows. If that cannot be used, no narrower width is tried, and
the session takes whatever automatic choice finds.
-/

set_option autoImplicit false
set_option relaxedAutoImplicit false

namespace Hotspot

open Session (Tries)

private theorem Tuning.channel_resolve (ch : Channel) (w : Width) :
    (resolve ch w).channel = ch := by
  unfold resolve
  cases hfound : w.ladder.findSome? fun w =>
      (Bonding.of? ch w).map fun b => (⟨ch, w, b⟩ : Tuning) with
  | none => rfl
  | some tu =>
    obtain ⟨w', -, hw'⟩ := List.exists_of_findSome?_eq_some hfound
    obtain ⟨b, -, rfl⟩ := Option.map_eq_some_iff.mp hw'
    rfl

/-- A session is tuned to what was chosen, unless nothing was, which it has yet to hear, or its
start was refused. -/
inductive Ledger.Settles (choice : Option Tuning) : Ledger → Prop
  | tuned (s : Session) (cs : List (Command × Bool)) (tuned : s.tuning = choice) :
      Settles choice ⟨some s, cs, []⟩
  | missed (s : Session) (cs : List (Command × Bool)) (nothing : choice = none)
      (selects : s.phase = .selecting) : Settles choice ⟨some s, cs, [.selectionFailed]⟩
  | refused (s : Session) (cs : List (Command × Bool)) (es : List Event)
      (parameters : StartParameters) (told : (.startNetwork parameters, false) ∈ cs) :
      Settles choice ⟨some s, cs, es⟩

private theorem Session.Tries.settles {choice : Option Tuning} {s s' : Session}
    {cs : List (Command × Bool)} {es : List Event} (h : Tries choice s s' cs es)
    (hp : s.phase = .selecting) : Ledger.Settles choice ⟨some s', cs, es⟩ := by
  cases h with
  | launch _ parameters ok =>
    cases ok with
    | true => exact .tuned _ _ rfl
    | false => exact .refused _ _ _ parameters List.mem_cons_self
  | miss => exact .missed _ _ rfl hp

private theorem Turn.endures_settles (choice : Option Tuning) (id : SessionId) :
    Turn.Endures fun k l => k = id → l.Settles choice := by
  constructor
  · intro k cs e es h hk
    cases h hk
  · intro k s s' cs cs' e es es' h hconcludes hk
    cases h hk with
    | missed _ _ nothing selects =>
      cases hconcludes with
      | ignore _ _ unknown =>
        rw [selects] at unknown
        cases unknown
      | rest => exact .tuned _ _ nothing.symm
    | refused _ _ _ parameters told =>
      exact .refused _ _ _ parameters (List.mem_append_left cs' told)

namespace Controller

variable {c : Controller} {s : Session}

def tuning? (c : Controller) (id : SessionId) : Option Tuning :=
  (c.session? id).bind (·.tuning)

private theorem tuning?_scanComplete (hs : c.Sound) (hv : c.airspace.domain.validate = .ok ())
    (h : c.session? s.id = some s) (hp : s.phase = .selecting) (env : Surroundings)
    (now : Instant) (found : List Network)
    (haccepted : ∀ parameters, .command s.id (.startNetwork parameters) false ∉
      (c.perform (.dispatch env now s.id (.scanComplete true found))).2) :
    (c.perform (.dispatch env now s.id (.scanComplete true found))).1.tuning? s.id =
      (c.turn.choose env s now).1 := by
  have hseeded := (proper_of_session? hs h).seeded (by simp [Session.stance, hp])
  have hqueue := (sound_perform hs (.dispatch env now s.id (.scanComplete true found))).queue
  obtain ⟨s', cs, es, htries, hposts⟩ :=
    Turn.tries_onScanComplete env now (t := c.turn) h hseeded hv
  have hreact : c.turn.react env now s.id (.scanComplete true found) =
      c.turn.onScanComplete env s true now := by
    rw [Turn.react_of_not_arrives (t := c.turn) h (by simp [Turn.Arrives]), Turn.handle,
      show c.turn.session? s.id = some s from h]
    simp [hp]
  obtain ⟨n, hsettle, -⟩ := Turn.settle_enqueue env now (.scanComplete true found) hs.queue h
  have hclosing := (closing_react hs h env now (.scanComplete true found)).1
  rw [hreact] at hclosing
  -- What the answer settled is kept by the closing events behind it.
  have hsettles := (Turn.drain_endures env now
    (Turn.endures_settles (c.turn.choose env s now).1 s.id) n hclosing fun k hk => ?_).1 s.id rfl
  · rw [perform_dispatch h, hsettle, hreact] at haccepted hqueue ⊢
    generalize hend : (c.turn.onScanComplete env s true now).drain env now n = t at *
    have hpending : t.pending s.id = [] := by
      have hq : t.queue = [] := hqueue
      simp [Turn.pending, hq]
    unfold Turn.ledger at hsettles
    rw [hpending] at hsettles
    unfold tuning?
    generalize t.session? s.id = o at *
    generalize hcs : t.journal.commands s.id = cs at hsettles
    cases hsettles with
    | tuned _ _ htuned => exact htuned
    | refused _ _ _ parameters told =>
      exact absurd (Journal.mem_commands.mp (hcs ▸ told)) (haccepted parameters)
  · subst hk
    rw [hposts.own, ledger_turn hs]
    exact htries.settles hp

/-- At some width up to the widest, the channel can be used. -/
def Keepable (c : Controller) (now : Instant) (s : Session) (ch : Channel) : Prop :=
  ∃ w, w.megahertz ≤ s.widest.megahertz ∧ (c.turn.usable (Tuning.resolve ch w) now).1 = true

/-- The channel can be used, but not at the widest, and automatic choice does not come back to
it. -/
structure DropsFixed (c : Controller) (env : Surroundings) (now : Instant) (s : Session)
    (ch : Channel) : Prop where
  keepable : c.Keepable now s ch
  blocked : (c.turn.usable (Tuning.resolve ch s.widest) now).1 = false
  elsewhere : ∀ tu, c.found? env s now = some tu → tu.channel ≠ ch

/-- Whatever was done before, after the scan of a session that is bound to a channel and whose start
is taken: if the channel can be used at the widest, the session is tuned to it at the widest. If it
can be used at all, the session is tuned to it, exactly if the session does not forgo it; and the
session is tuned to another channel only if its own cannot be used at any width, exactly if it
forgoes its own for none. -/
theorem bound_channel_kept_iff {settings : Settings} {domain : Domain}
    (h : create settings domain = .ok c) (ops : List Operation)
    (hsess : (c.after ops).session? s.id = some s) (hp : s.phase = .selecting) {ch : Channel}
    (hch : s.settings.channel = .fixed ch) (env : Surroundings) (now : Instant)
    (found : List Network)
    (haccepted : ∀ parameters, .command s.id (.startNetwork parameters) false ∉
      ((c.after ops).perform (.dispatch env now s.id (.scanComplete true found))).2) :
    (((c.after ops).turn.usable (Tuning.resolve ch s.widest) now).1 = true →
        ((c.after ops).perform (.dispatch env now s.id (.scanComplete true found))).1.tuning? s.id =
          some (Tuning.resolve ch s.widest)) ∧
      (((c.after ops).Keepable now s ch → ∃ tu,
          ((c.after ops).perform
            (.dispatch env now s.id (.scanComplete true found))).1.tuning? s.id = some tu ∧
          tu.channel = ch) ↔
        ¬ (c.after ops).DropsFixed env now s ch) ∧
      ((∀ tu, ((c.after ops).perform
            (.dispatch env now s.id (.scanComplete true found))).1.tuning? s.id = some tu →
          tu.channel ≠ ch → ¬ (c.after ops).Keepable now s ch) ↔
        ∀ tu, (c.after ops).found? env s now = some tu →
          ¬ (c.after ops).DropsFixed env now s ch) := by
  have hs : (c.after ops).Sound := sound_after (sound_create h) ops
  have hv := (agrees_after h ops).sound
  rw [tuning?_scanComplete hs hv hsess hp env now found haccepted,
    Turn.choose_of_fixed (t := (c.after ops).turn) hv hch]
  cases husable : ((c.after ops).turn.usable (Tuning.resolve ch s.widest) now).1 with
  | true =>
    -- While the channel can be used at its widest, nothing is dropped and the rest is immediate.
    have hnever (hdrops : (c.after ops).DropsFixed env now s ch) : False := by
      rw [hdrops.blocked] at husable
      cases husable
    refine ⟨fun _ => rfl, ⟨fun _ => hnever, fun _ _ => ⟨_, rfl, Tuning.channel_resolve ch _⟩⟩,
      fun _ _ _ => hnever, fun _ tu htu hother => ?_⟩
    cases htu
    exact absurd (Tuning.channel_resolve ch _) hother
  | false =>
    refine ⟨nofun, ⟨fun hkeeps hdrops => ?_, fun hnot hkeepable => ?_⟩,
      fun hall tu htu hdrops => ?_, fun hnone tu htu hother hkeepable => ?_⟩
    · obtain ⟨tu, htu, hsame⟩ := hkeeps hdrops.keepable
      exact hdrops.elsewhere tu htu hsame
    · by_contra hno
      exact hnot ⟨hkeepable, husable, fun tu htu hsame => hno ⟨tu, htu, hsame⟩⟩
    · exact hall tu htu (hdrops.elsewhere tu htu) hdrops.keepable
    · refine hnone tu htu ⟨hkeepable, husable, fun tu' htu' => ?_⟩
      cases htu.symm.trans htu'
      exact hother

end Controller

namespace TwoChannels

open FourChannels (willing send)

def scanning (width : Width) : List Operation :=
  [.openSession { accessPoint with width }, send 0 0 .startRequest]

def scanner (width : Width) : Session :=
  { Session.fresh 0 { accessPoint with width } with phase := .selecting, controlOpen := true }

theorem bound_channel_kept_narrow :
    Controller.create {} domain = .ok controller ∧
      (controller.after (scanning .mhz20)).session? 0 = some (scanner .mhz20) ∧
      (controller.after (scanning .mhz20)).Keepable (Duration.millis 1000 : Nat)
        (scanner .mhz20) 52 ∧
      ∃ tu, ((controller.after (scanning .mhz20)).perform
        (send 1000 0 (.scanComplete true []))).1.tuning? 0 = some tu ∧ tu.channel = 52 := by
  have hsess : (controller.after (scanning .mhz20)).session? 0 = some (scanner .mhz20) := rfl
  have hwidest : ((controller.after (scanning .mhz20)).turn.usable
      (Tuning.resolve 52 (scanner .mhz20).widest) (Duration.millis 1000 : Nat)).1 = true := by
    decide +kernel
  have haccepted : ∀ p ∈ ((controller.after (scanning .mhz20)).perform
      (send 1000 0 (.scanComplete true []))).2.commands 0, p.2 = true := by decide +kernel
  have hkeepable : (controller.after (scanning .mhz20)).Keepable (Duration.millis 1000 : Nat)
      (scanner .mhz20) 52 := ⟨_, Nat.le_refl _, hwidest⟩
  obtain ⟨-, hkept, -⟩ := Controller.bound_channel_kept_iff (s := scanner .mhz20) created
    (scanning .mhz20) hsess rfl rfl willing (Duration.millis 1000 : Nat) [] fun parameters hmem =>
      Bool.false_ne_true (haccepted (_, false) (Journal.mem_commands.mpr hmem))
  refine ⟨created, hsess, hkeepable, hkept.mpr (fun hdrops => ?_) hkeepable⟩
  cases hwidest.symm.trans hdrops.blocked

/-- Two channels wide, it is started on channel 36, although channel 52 by itself can be used. -/
theorem bound_channel_not_kept_wide :
    Controller.create {} domain = .ok controller ∧
      (controller.after (scanning .mhz40)).session? 0 = some (scanner .mhz40) ∧
      (controller.after (scanning .mhz40)).Keepable (Duration.millis 1000 : Nat)
        (scanner .mhz40) 52 ∧
      (∃ parameters, .command 0 (.startNetwork parameters) true ∈
        ((controller.after (scanning .mhz40)).perform (send 1000 0 (.scanComplete true []))).2) ∧
      ((controller.after (scanning .mhz40)).perform
        (send 1000 0 (.scanComplete true []))).1.tuning? 0 = some (single 36) := by
  have htaken : .command 0 (.startNetwork (controller.turn.startParameters
      (.fresh 0 { accessPoint with width := .mhz40 }) (single 36))) true ∈
        ((controller.after (scanning .mhz40)).perform
          (send 1000 0 (.scanComplete true []))).2 := by decide +kernel
  exact ⟨created, rfl, ⟨.mhz20, by decide, by decide +kernel⟩, ⟨_, htaken⟩, by decide +kernel⟩

end TwoChannels

end Hotspot
