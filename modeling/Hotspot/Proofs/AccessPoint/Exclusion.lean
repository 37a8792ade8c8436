import Hotspot.Proofs.AccessPoint.NetworkStarts

/-!
The Japanese rules and the channels on which networks are started. Automatic choice keeps to the
rules on every channel that it bonds. A start on a given tuning and a session that is bound to a
channel go by whether the tuning is usable, and that says nothing about the rules.
-/

set_option autoImplicit false
set_option relaxedAutoImplicit false

namespace Hotspot.Controller

variable {c : Controller} {env : Surroundings} {now : Instant} {s : Session} {tu : Tuning}

private theorem permitted_of_found? (hv : c.airspace.domain.validate = .ok ())
    (h : c.found? env s now = some tu) :
    ∀ e ∈ tu.channels, c.settings.policy.excludes c.airspace.domain e = false := by
  have hpicks := (Selection.Quest.exists_choice_iff (q := c.quest s now) hv).mp ⟨_, h⟩
  intro e he
  exact (hpicks.offered.whole e he).1.permitted

def Forbids (c : Controller) (tu : Tuning) : Prop :=
  ∃ e ∈ tu.channels, c.settings.policy.excludes c.airspace.domain e = true

/-- A network is started on channels of which one is excluded: a start on a given tuning that is
usable is asked for, or the scan is over of a session that is bound to a channel and can use it at
its widest. -/
inductive StartsExcluded (c : Controller) : Operation → Prop
  | given (env : Surroundings) (now : Instant) (id : SessionId) (s : Session) (target : Tuning)
      (session : c.session? id = some s) (off : s.phase = .disconnected)
      (opens : c.turn.opensOn env now s target = true) (forbids : c.Forbids target) :
      StartsExcluded c (.dispatch env now id (.tunedStartRequest target))
  | bound (env : Surroundings) (now : Instant) (id : SessionId) (s : Session) (ch : Channel)
      (found : List Network) (session : c.session? id = some s) (selects : s.phase = .selecting)
      (bound : s.settings.channel = .fixed ch)
      (usable : (c.turn.usable (Tuning.resolve ch s.widest) now).1 = true)
      (forbids : c.Forbids (Tuning.resolve ch s.widest)) :
      StartsExcluded c (.dispatch env now id (.scanComplete true found))

private theorem exists_launches_of_startsExcluded {op : Operation} (hs : c.Sound)
    (hv : c.airspace.domain.validate = .ok ()) (h : c.StartsExcluded op) :
    ∃ k tu, tu ∈ launches ((c.perform op).2.commands k) ∧ c.Forbids tu := by
  cases h with
  | given env now id s target session off opens forbids =>
    refine ⟨id, target, (mem_launches_perform hs hv).mpr ⟨env, now, _, s, rfl, session, ?_⟩,
      forbids⟩
    simp [Turn.launched, off, opens]
  | bound env now id s ch found session selects bound usable forbids =>
    refine ⟨id, Tuning.resolve ch s.widest,
      (mem_launches_perform hs hv).mpr ⟨env, now, _, s, rfl, session, ?_⟩, forbids⟩
    have hchosen := Turn.choose_of_fixed (t := c.turn) hv bound env now
    rw [if_pos usable] at hchosen
    simp [Turn.launched, selects, hchosen]

private theorem startsExcluded_of_mem_launches {op : Operation} {k : SessionId} (hs : c.Sound)
    (hv : c.airspace.domain.validate = .ok ()) (h : tu ∈ launches ((c.perform op).2.commands k))
    (hforbids : c.Forbids tu) : c.StartsExcluded op := by
  obtain ⟨env, now, e, s, rfl, hsess, hlaunched⟩ := (mem_launches_perform hs hv).mp h
  -- Selection never chooses an excluded channel, which leaves the two ways round it.
  have hfound : c.found? env s now ≠ some tu := by
    intro hfound
    obtain ⟨e, he, hexcluded⟩ := hforbids
    rw [permitted_of_found? hv hfound e he] at hexcluded
    cases hexcluded
  unfold Turn.launched at hlaunched
  split at hlaunched
  · rename_i target hp
    split at hlaunched
    · rename_i hopens
      obtain rfl := List.mem_singleton.mp hlaunched
      exact .given env now k s tu hsess hp hopens hforbids
    · exact absurd hlaunched List.not_mem_nil
  · rename_i found hp
    rw [Option.mem_toList] at hlaunched
    cases hch : s.settings.channel with
    | auto =>
      rw [Turn.choose_of_auto hch] at hlaunched
      exact absurd hlaunched hfound
    | fixed ch =>
      rw [Turn.choose_of_fixed (t := c.turn) hv hch] at hlaunched
      split at hlaunched
      · rename_i husable
        cases hlaunched
        exact .bound env now k s ch found hsess hp hch husable hforbids
      · exact absurd hlaunched hfound
  · exact absurd hlaunched List.not_mem_nil

/-- Whatever was done before, an operation starts no network on a channel that the Japanese rules
exclude, exactly if it does not venture to: if it is neither a start on a given tuning that is
usable and has such a channel, nor the end of a scan for a session that is bound to a channel and
whose usable tuning has one. -/
theorem excluded_not_started_iff {settings : Settings} {domain : Domain}
    (h : create settings domain = .ok c) (ops : List Operation) (op : Operation) :
    (∀ k parameters ok,
      .command k (.startNetwork parameters) ok ∈ ((c.after ops).perform op).2 →
        ∀ e ∈ parameters.tuning.channels,
          (c.after ops).settings.policy.excludes (c.after ops).airspace.domain e = false) ↔
      ¬ (c.after ops).StartsExcluded op := by
  have hs : (c.after ops).Sound := sound_after (sound_create h) ops
  have hv := (agrees_after h ops).sound
  constructor
  · intro hall hstarts
    obtain ⟨k, tu, hlaunches, e, he, hexcluded⟩ :=
      exists_launches_of_startsExcluded hs hv hstarts
    obtain ⟨parameters, ok, hmem, rfl⟩ := mem_launches.mp hlaunches
    rw [hall k parameters ok (Journal.mem_commands.mp hmem) e he] at hexcluded
    cases hexcluded
  · intro hnot k parameters ok hmem e he
    by_contra hexcluded
    have hlaunches := mem_launches.mpr ⟨parameters, ok, Journal.mem_commands.mpr hmem, rfl⟩
    exact hnot
      (startsExcluded_of_mem_launches hs hv hlaunches ⟨e, he, Bool.not_eq_false _ ▸ hexcluded⟩)

end Hotspot.Controller

namespace Hotspot

open FourChannels (willing send)
open TwoChannels (single)

namespace WithoutW53

def domain : Domain :=
  ⟨"TT", .mkk, [⟨36, false, true, 20⟩, ⟨52, true, true, 20⟩]⟩

def settings : Settings := { policy := { withoutW53 := true } }

def controller : Controller :=
  ⟨settings, .fresh domain ⟨{}, [⟨52, .usable⟩], []⟩, [], 0, []⟩

private theorem created : Controller.create settings domain = .ok controller := rfl

def scanning (settings : SessionSettings) : List Operation :=
  [.openSession settings, send 0 0 .startRequest]

def scanned : Operation := send 1000 0 (.scanComplete true [])

theorem excluded_not_started_auto :
    Controller.create settings domain = .ok controller ∧
      (∃ parameters ok, .command 0 (.startNetwork parameters) ok ∈
        ((controller.after (scanning (FourChannels.accessPoint 1))).perform scanned).2 ∧
          parameters.tuning = single 36) ∧
      ∀ k parameters ok, .command k (.startNetwork parameters) ok ∈
          ((controller.after (scanning (FourChannels.accessPoint 1))).perform scanned).2 →
        ∀ e ∈ parameters.tuning.channels, settings.policy.excludes domain e = false := by
  have hlaunches : single 36 ∈ launches ((((controller.after
      (scanning (FourChannels.accessPoint 1))).perform scanned).2).commands 0) := by
    decide +kernel
  obtain ⟨parameters, ok, hmem, htuning⟩ := mem_launches.mp hlaunches
  refine ⟨created, ⟨parameters, ok, Journal.mem_commands.mp hmem, htuning⟩,
    (Controller.excluded_not_started_iff created (scanning (FourChannels.accessPoint 1))
      scanned).mpr fun hstarts => ?_⟩
  cases hstarts with
  | bound _ _ _ s ch _ session _ bound =>
    cases session
    cases bound

/-- A session that is bound to channel 52 is started there. -/
theorem excluded_started_bound :
    Controller.create settings domain = .ok controller ∧
      settings.policy.excludes domain 52 = true ∧
      ∃ parameters ok, .command 0 (.startNetwork parameters) ok ∈
        ((controller.after (scanning TwoChannels.accessPoint)).perform scanned).2 ∧
          52 ∈ parameters.tuning.channels := by
  have hlaunches : single 52 ∈ launches ((((controller.after
      (scanning TwoChannels.accessPoint)).perform scanned).2).commands 0) := by
    decide +kernel
  obtain ⟨parameters, ok, hmem, htuning⟩ := mem_launches.mp hlaunches
  refine ⟨created, rfl, parameters, ok, Journal.mem_commands.mp hmem, ?_⟩
  rw [htuning]
  decide

end WithoutW53

end Hotspot
