import Hotspot.AccessPoint.Service
import Hotspot.Proofs.AccessPoint.Timekeeping
import Mathlib.Algebra.Group.Nat.Defs

/-!
A service under watch: every call to its timer is counted, and every countdown knows which call
began it. Countdowns may run on and send their expiry after they were given up, and expiries wait as
long as they like. Still the controller hears of an expiry only if the countdown was begun by the
latest call, and only once; so a run of listening is never over early.
-/

set_option autoImplicit false
set_option relaxedAutoImplicit false

namespace Hotspot

/-- A countdown, and how many calls to the timer came before the one that began it. -/
structure Launch where
  place : Nat
  countdown : Countdown
  deriving DecidableEq

/-- A service with all that happened to its timer. -/
structure Watch where
  service : Service
  /-- Every call to the timer, the earliest first. -/
  calls : Journal
  /-- Countdowns that have not sent their expiry, also such as were given up. -/
  running : List Launch
  /-- Countdowns whose expiry waits to be delivered. -/
  sent : List Launch
  /-- Where the countdowns were begun whose expiry the controller has heard of. -/
  heeded : List Nat
  deriving DecidableEq

namespace Watch

/-- What can happen to a service. The timer may also be called by others than the controller, and
any countdown under way may ring once it is due. -/
inductive Act
  | openSession (settings : SessionSettings)
  | closeSession (id : SessionId)
  | dispatch (env : Surroundings) (id : SessionId) (event : Event)
  | shutdown
  | arm (duration : Duration)
  | disarm
  | pass (duration : Duration)
  | ring (index : Nat)
  | deliver (env : Surroundings)

/-- Somebody else than the controller starts the timer. -/
def Act.arms : Act → Bool
  | .arm _ => true
  | _ => false

def start (controller : Controller) : Watch :=
  ⟨.start controller, [], [], [], []⟩

def call (w : Watch) (e : Entry) : Watch :=
  match e with
  | .armed d =>
    { w with
      service := w.service.obey [e]
      calls := w.calls ++ [e]
      running := w.running ++
        [⟨w.calls.length, w.service.timer.arm.generation, w.service.now + (d : Nat)⟩] }
  | .disarmed => { w with service := w.service.obey [e], calls := w.calls ++ [e] }
  | _ => w

def obey (w : Watch) (j : Journal) : Watch :=
  j.foldl call w

/-- One of the countdowns under way sends its expiry, if it is due. -/
def ring (w : Watch) (index : Nat) : Watch :=
  match w.running[index]? with
  | none => w
  | some l =>
    if l.countdown.due ≤ w.service.now then
      { w with
        service := { w.service with
          countdown := if w.service.countdown = some l.countdown then none else w.service.countdown
          expiries := w.service.expiries ++ [l.countdown.generation] }
        running := w.running.eraseIdx index
        sent := w.sent ++ [l] }
    else w

/-- The expiry that has waited longest is delivered. -/
def deliver (env : Surroundings) (w : Watch) : Watch :=
  match w.service.expiries, w.sent with
  | generation :: waiting, l :: rest =>
    let service := { w.service with expiries := waiting }
    let result := service.expire env generation
    let told : Watch :=
      if service.timer.heeds generation then
        { w with
          service := { service with timer := service.timer.expire }
          sent := rest
          heeded := w.heeded ++ [l.place] }
      else { w with service, sent := rest }
    { told.obey result.2 with service := result.1 }
  | _, _ => w

def act (w : Watch) : Act → Watch
  | .openSession settings =>
    match w.service.openSession settings with
    | .ok (_, service) => { w with service }
    | .error _ => w
  | .closeSession id =>
    match w.service.closeSession id with
    | .ok service => { w with service }
    | .error _ => w
  | .dispatch env id e =>
    match w.service.dispatch env id e with
    | .ok (service, journal) => { w.obey journal with service }
    | .error _ => w
  | .shutdown =>
    match w.service.shutdown with
    | .ok service => { w.call .disarmed with service }
    | .error _ => w
  | .arm d => w.call (.armed d)
  | .disarm => w.call .disarmed
  | .pass d => { w with service := { w.service with now := w.service.now + (d : Nat) } }
  | .ring index => w.ring index
  | .deliver env => w.deliver env

def after (w : Watch) (acts : List Act) : Watch :=
  acts.foldl act w

private theorem after_concat (w : Watch) (acts : List Act) (a : Act) :
    w.after (acts ++ [a]) = (w.after acts).act a :=
  List.foldl_append

end Watch

namespace Service

private theorem obey_comm {f : Service → Service} (hf : ∀ s e, (f s).obey [e] = f (s.obey [e]))
    (s : Service) (j : Journal) : (f s).obey j = f (s.obey j) := by
  induction j generalizing s with
  | nil => rfl
  | cons e rest ih =>
    have hcons (s : Service) : s.obey (e :: rest) = (s.obey [e]).obey rest := rfl
    rw [hcons, hcons, hf]
    exact ih _

private theorem obey_controller (s : Service) (c : Controller) (j : Journal) :
    ({ s with controller := c } : Service).obey j = { s.obey j with controller := c } :=
  obey_comm (f := fun s => { s with controller := c }) (fun _ e => by cases e <;> rfl) s j

private theorem obey_expiries (s : Service) (expiries : List UInt64) (j : Journal) :
    ({ s with expiries } : Service).obey j = { s.obey j with expiries } :=
  obey_comm (f := fun s => { s with expiries }) (fun _ e => by cases e <;> rfl) s j

private theorem now_obey (s : Service) (j : Journal) : (s.obey j).now = s.now := by
  induction j generalizing s with
  | nil => rfl
  | cons e rest ih =>
    have hone : (s.obey [e]).now = s.now := by cases e <;> rfl
    exact (ih (s.obey [e])).trans hone

private theorem expire_expiries (env : Surroundings) (s : Service) (expiries : List UInt64)
    (generation : UInt64) : (({ s with expiries } : Service).expire env generation).1 =
      { (s.expire env generation).1 with expiries } := by
  unfold expire
  dsimp only
  split
  · exact obey_expiries
      { s with
        controller := (s.controller.listeningOver env s.now).1
        timer := s.timer.expire } expiries _
  · rfl

private theorem now_expire (env : Surroundings) (s : Service) (generation : UInt64) :
    (s.expire env generation).1.now = s.now := by
  unfold expire
  split
  · exact now_obey _ _
  · rfl

private theorem deliver_fst (env : Surroundings) (s : Service) : (s.deliver env).1 =
    s.expiries.foldl (fun s generation => (s.expire env generation).1)
      { s with expiries := [] } := by
  refine (List.foldl_hom Prod.fst ?_).symm
  exact fun _ _ => rfl

private theorem now_deliver (env : Surroundings) (s : Service) : (s.deliver env).1.now = s.now := by
  rw [deliver_fst]
  generalize s.expiries = waiting
  have hkept (s : Service) : (waiting.foldl (fun s g => (s.expire env g).1) s).now = s.now := by
    induction waiting generalizing s with
    | nil => rfl
    | cons g rest ih => exact (ih _).trans (now_expire env s g)
  exact hkept _

private theorem now_ring (s : Service) : s.ring.now = s.now := by
  unfold ring
  split
  · split <;> rfl
  · rfl

private theorem sleep_of_due {s : Service} {k : Countdown} {d : Duration} (env : Surroundings)
    (hk : s.countdown = some k) (hdue : k.due ≤ s.now + (d : Nat)) : (s.sleep env d).1 =
      { (({ s with now := max s.now k.due } : Service).ring.deliver env).1 with
        now := s.now + (d : Nat) } := by
  unfold sleep
  dsimp only
  split
  · rename_i k' hk'
    obtain rfl : k' = k := Option.some.inj (hk'.symm.trans hk)
    rw [if_pos hdue]
  · rename_i hnone
    cases hk.symm.trans hnone

private theorem sleep_of_not_due {s : Service} {d : Duration} (env : Surroundings)
    (h : ∀ k, s.countdown = some k → ¬ k.due ≤ s.now + (d : Nat)) :
    (s.sleep env d).1 = { (s.deliver env).1 with now := s.now + (d : Nat) } := by
  unfold sleep
  dsimp only
  split
  · rename_i k hk
    rw [if_neg (h k hk)]
  · rfl

private theorem openSession_eq (s : Service) (settings : SessionSettings) :
    s.openSession settings = if s.stopped = true then .error .stopped else
      (s.controller.openSession settings).map fun r => (r.1, { s with controller := r.2 }) := by
  unfold openSession
  by_cases hstopped : s.stopped = true
  · rw [if_pos hstopped, if_pos hstopped]
    rfl
  · rw [if_neg hstopped, if_neg hstopped]
    cases s.controller.openSession settings <;> rfl

private theorem closeSession_eq (s : Service) (id : SessionId) :
    s.closeSession id = if s.stopped = true then .error .stopped else
      (s.controller.closeSession id).map fun c => { s with controller := c } := by
  unfold closeSession
  by_cases hstopped : s.stopped = true
  · rw [if_pos hstopped, if_pos hstopped]
    rfl
  · rw [if_neg hstopped, if_neg hstopped]
    cases s.controller.closeSession id <;> rfl

private theorem dispatch_eq (env : Surroundings) (s : Service) (id : SessionId) (e : Event) :
    s.dispatch env id e = if s.stopped = true then .error .stopped else
      (s.controller.dispatch env s.now id e).map fun r =>
        (({ s with controller := r.1 }).obey r.2, r.2) := by
  unfold dispatch
  by_cases hstopped : s.stopped = true
  · rw [if_pos hstopped, if_pos hstopped]
    rfl
  · rw [if_neg hstopped, if_neg hstopped]
    cases s.controller.dispatch env s.now id e <;> rfl

end Service

namespace Watch

variable {w : Watch} {e : Entry} {j : Journal} {l : Launch} {env : Surroundings}

private theorem call_of_not_timer (he : e.isTimer = false) (w : Watch) : w.call e = w := by
  cases e with
  | armed | disarmed => cases he
  | _ => rfl

private theorem obey_induction {P : Watch → Prop}
    (hcall : ∀ w e, e.isTimer = true → P w → P (w.call e))
    (hw : P w) (j : Journal) : P (w.obey j) := by
  induction j generalizing w with
  | nil => exact hw
  | cons e rest ih =>
    have hnext : P (w.call e) := by
      cases he : e.isTimer with
      | true => exact hcall w e he hw
      | false => rwa [call_of_not_timer he]
    exact ih hnext

private theorem obey_timer (w : Watch) (j : Journal) : w.obey j.timer = w.obey j := by
  induction j generalizing w with
  | nil => rfl
  | cons e rest ih =>
    have hcons (j : Journal) : w.obey (e :: j) = (w.call e).obey j := rfl
    cases he : e.isTimer with
    | true =>
      rw [Journal.timer, List.filter_cons_of_pos he, hcons, hcons]
      exact ih _
    | false =>
      rw [Journal.timer, List.filter_cons_of_neg (by simp [he]), hcons, call_of_not_timer he]
      exact ih w

private theorem service_call (w : Watch) (e : Entry) : (w.call e).service = w.service.obey [e] := by
  cases e <;> rfl

private theorem service_obey (w : Watch) (j : Journal) : (w.obey j).service = w.service.obey j := by
  induction j generalizing w with
  | nil => rfl
  | cons e rest ih =>
    have hrest := ih (w.call e)
    rw [service_call] at hrest
    exact hrest

private theorem calls_call (he : e.isTimer = true) (w : Watch) : (w.call e).calls = w.calls ++
    [e] := by
  cases e with
  | armed | disarmed => rfl
  | _ => cases he

private theorem calls_prefix_obey (w : Watch) (j : Journal) : w.calls <+: (w.obey j).calls := by
  refine obey_induction (P := fun w' => w.calls <+: w'.calls) ?_ (List.prefix_refl _) j
  intro w' e he hprefix
  rw [calls_call he]
  exact hprefix.trans (List.prefix_append _ _)

/-- The controller has become another one, and the timer has done what the journal says. -/
def proceed (w : Watch) (c : Controller) (j : Journal) : Watch :=
  { w.obey j with service := { (w.obey j).service with controller := c } }

def Act.operation? (now : Instant) : Act → Option Operation
  | .openSession settings => some (.openSession settings)
  | .closeSession id => some (.closeSession id)
  | .dispatch env id e => some (.dispatch env now id e)
  | _ => none

private theorem act_of_operation {a : Act} {op : Operation}
    (h : a.operation? w.service.now = some op) : w.act a = w ∨
      w.act a = w.proceed (w.service.controller.perform op).1
        (w.service.controller.perform op).2 := by
  by_cases hstopped : w.service.stopped = true
  · left
    cases a with
    | openSession settings => simp only [act, Service.openSession_eq, if_pos hstopped]
    | closeSession id => simp only [act, Service.closeSession_eq, if_pos hstopped]
    | dispatch env id e => simp only [act, Service.dispatch_eq, if_pos hstopped]
    | _ => cases h
  · cases a with
    | openSession settings =>
      cases h
      simp only [act, Service.openSession_eq, if_neg hstopped, Controller.perform]
      cases w.service.controller.openSession settings with
      | error fault => exact .inl rfl
      | ok result => exact .inr rfl
    | closeSession id =>
      cases h
      simp only [act, Service.closeSession_eq, if_neg hstopped, Controller.perform]
      cases w.service.controller.closeSession id with
      | error fault => exact .inl rfl
      | ok result => exact .inr rfl
    | dispatch env id e =>
      cases h
      simp only [act, Service.dispatch_eq, if_neg hstopped, Controller.perform, proceed,
        service_obey, ← Service.obey_controller]
      cases w.service.controller.dispatch env w.service.now id e with
      | error fault => exact .inl rfl
      | ok result => exact .inr rfl
    | _ => cases h

def take (w : Watch) (rest : List Launch) : Watch :=
  { w with
    service := { w.service with expiries := rest.map (·.countdown.generation) }
    sent := rest }

def heed (w : Watch) (l : Launch) : Watch :=
  { w with
    service := { w.service with timer := w.service.timer.expire }
    heeded := w.heeded ++ [l.place] }

private theorem deliver_of_nil (hsent : w.sent = [])
    (hwaits : w.service.expiries = w.sent.map (·.countdown.generation)) (env : Surroundings) :
    w.deliver env = w := by
  rw [hsent] at hwaits
  rw [deliver, hwaits]
  rfl

private theorem deliver_of_heeds {rest : List Launch} (hsent : w.sent = l :: rest)
    (hwaits : w.service.expiries = w.sent.map (·.countdown.generation)) (env : Surroundings) :
    w.deliver env =
      if w.service.timer.heeds l.countdown.generation = true then
        ((w.take rest).heed l).proceed
          (w.service.controller.listeningOver env w.service.now).1
          (w.service.controller.listeningOver env w.service.now).2
      else w.take rest := by
  rw [hsent, List.map_cons] at hwaits
  simp only [deliver, hwaits, hsent, Service.expire]
  split
  · simp only [proceed, service_obey, ← Service.obey_controller]
    rfl
  · rfl

/-- What the timer and the countdowns know agrees with the calls that were made. -/
structure Tallied (w : Watch) : Prop where
  generation : w.service.timer.generation = UInt64.ofNat w.calls.length
  launched (l : Launch) : l ∈ w.running ∨ l ∈ w.sent →
    l.place < w.calls.length ∧ l.countdown.generation = UInt64.ofNat (l.place + 1)
  expiries : w.service.expiries = w.sent.map (·.countdown.generation)
  current (k : Countdown) : w.service.countdown = some k → ∃ l ∈ w.running, l.countdown = k
  heeded (place : Nat) : place ∈ w.heeded → place < w.calls.length
  once : w.heeded.Nodup
  armed : w.service.timer.armed = true ↔
    ∃ place d, w.calls.drop place = [.armed d] ∧ place ∉ w.heeded

private theorem drop_concat_eq_singleton {calls : Journal} {e x : Entry} {place : Nat} :
    (calls ++ [e]).drop place = [x] ↔ place = calls.length ∧ e = x := by
  constructor
  · intro h
    have hlength := congrArg List.length h
    simp only [List.length_drop, List.length_append, List.length_singleton] at hlength
    obtain rfl : place = calls.length := by omega
    simpa using h
  · rintro ⟨rfl, rfl⟩
    simp

private theorem length_of_drop {calls : Journal} {x : Entry} {place : Nat}
    (h : calls.drop place = [x]) : calls.length = place + 1 := by
  have hlength := congrArg List.length h
  simp only [List.length_drop, List.length_singleton] at hlength
  omega

namespace Tallied

private theorem start (c : Controller) : (Watch.start c).Tallied where
  generation := rfl
  launched _ h := by simp [Watch.start] at h
  expiries := rfl
  current _ h := nomatch h
  heeded _ h := absurd h List.not_mem_nil
  once := List.nodup_nil
  armed := by simp [Watch.start, Service.start]

/-! One more call leaves what was known in order. -/

private theorem generation_concat (h : w.Tallied) (e : Entry) :
    w.service.timer.generation + 1 = UInt64.ofNat (w.calls ++ [e]).length := by
  rw [h.generation, List.length_append, List.length_singleton]
  exact (UInt64.ofNat_add w.calls.length 1).symm

private theorem launched_concat (h : w.Tallied) (e : Entry) (hl : l ∈ w.running ∨ l ∈ w.sent) :
    l.place < (w.calls ++ [e]).length ∧ l.countdown.generation = UInt64.ofNat (l.place + 1) := by
  obtain ⟨hplace, hgeneration⟩ := h.launched l hl
  refine ⟨?_, hgeneration⟩
  rw [List.length_append]
  exact Nat.lt_add_right _ hplace

private theorem heeded_concat (h : w.Tallied) (e : Entry) {place : Nat} (hp : place ∈ w.heeded) :
    place < (w.calls ++ [e]).length := by
  rw [List.length_append]
  exact Nat.lt_add_right _ (h.heeded place hp)

private theorem call_armed (h : w.Tallied) (d : Duration) : (w.call (.armed d)).Tallied := by
  have hlater : w.calls.length < (w.calls ++ [Entry.armed d]).length := by simp
  constructor
  case generation => exact h.generation_concat (.armed d)
  case launched =>
    intro l hl
    have hl : (l ∈ w.running ∨ l ∈ w.sent) ∨ l = ⟨w.calls.length,
        w.service.timer.arm.generation, w.service.now + (d : Nat)⟩ := by
      simpa [Watch.call, or_right_comm] using hl
    rcases hl with hl | rfl
    · exact h.launched_concat _ hl
    · refine ⟨hlater, ?_⟩
      have hnext := h.generation_concat (.armed d)
      rwa [List.length_append, List.length_singleton] at hnext
  case expiries => exact h.expiries
  case current =>
    rintro k ⟨⟩
    exact ⟨_, List.mem_append_right _ (List.mem_singleton_self _), rfl⟩
  case heeded => exact fun place hp => h.heeded_concat _ hp
  case once => exact h.once
  case armed =>
    refine iff_of_true rfl ⟨w.calls.length, d, drop_concat_eq_singleton.mpr ⟨rfl, rfl⟩, ?_⟩
    intro hmem
    exact Nat.lt_irrefl _ (h.heeded _ hmem)

private theorem call_disarmed (h : w.Tallied) : (w.call .disarmed).Tallied where
  generation := h.generation_concat .disarmed
  launched _ hl := h.launched_concat .disarmed hl
  expiries := h.expiries
  current := nofun
  heeded _ hp := h.heeded_concat .disarmed hp
  once := h.once
  armed := by
    refine iff_of_false nofun ?_
    rintro ⟨place, d, hdrop, -⟩
    cases (drop_concat_eq_singleton.mp hdrop).2

private theorem call (h : w.Tallied) (he : e.isTimer = true) : (w.call e).Tallied := by
  cases e with
  | armed d => exact h.call_armed d
  | disarmed => exact h.call_disarmed
  | _ => cases he

private theorem proceed (h : w.Tallied) (c : Controller) (j : Journal) :
    (w.proceed c j).Tallied := by
  have hobeyed : (w.obey j).Tallied := obey_induction (fun _ _ he hw => hw.call he) h j
  exact ⟨hobeyed.generation, hobeyed.launched, hobeyed.expiries, hobeyed.current, hobeyed.heeded,
    hobeyed.once, hobeyed.armed⟩

/-- An expiry is heeded exactly if nothing was asked of the timer since its countdown was begun, and
it was not heeded before. -/
private theorem heeds_iff (h : w.Tallied) (hcalls : w.calls.length < 2 ^ 64)
    (hl : l ∈ w.running ∨ l ∈ w.sent) :
    w.service.timer.heeds l.countdown.generation = true ↔
      (∃ d, w.calls.drop l.place = [.armed d]) ∧ l.place ∉ w.heeded := by
  obtain ⟨hplace, hgeneration⟩ := h.launched l hl
  have hlatest : w.service.timer.generation = l.countdown.generation ↔
      w.calls.length = l.place + 1 := by
    rw [h.generation, hgeneration]
    refine ⟨fun heq => ?_, fun heq => by rw [heq]⟩
    have hnat := congrArg UInt64.toNat heq
    rwa [UInt64.toNat_ofNat', UInt64.toNat_ofNat', Nat.mod_eq_of_lt hcalls,
      Nat.mod_eq_of_lt (by omega)] at hnat
  rw [CountdownTimer.heeds, Bool.and_eq_true, beq_iff_eq, hlatest, h.armed]
  constructor
  · rintro ⟨⟨place, d, hdrop, hfresh⟩, hlength⟩
    have hsame := length_of_drop hdrop
    obtain rfl : place = l.place := by omega
    exact ⟨⟨d, hdrop⟩, hfresh⟩
  · rintro ⟨⟨d, hdrop⟩, hfresh⟩
    exact ⟨⟨l.place, d, hdrop, hfresh⟩, length_of_drop hdrop⟩

private theorem take (h : w.Tallied) {rest : List Launch} (hsent : w.sent = l :: rest) :
    (w.take rest).Tallied where
  generation := h.generation
  launched o ho := by
    refine h.launched o (ho.imp_right fun hmem => ?_)
    rw [hsent]
    exact List.mem_cons_of_mem l hmem
  expiries := rfl
  current := h.current
  heeded := h.heeded
  once := h.once
  armed := h.armed

private theorem heed (h : w.Tallied) (hplace : l.place < w.calls.length) (hlatest : ∃ d,
    w.calls.drop l.place = [.armed d]) (hfresh : l.place ∉ w.heeded) : (w.heed l).Tallied where
  generation := h.generation
  launched := h.launched
  expiries := h.expiries
  current := h.current
  heeded place hp := by
    rcases List.mem_append.mp hp with hp | hp
    · exact h.heeded place hp
    · rw [List.mem_singleton.mp hp]
      exact hplace
  once := by
    have hnodup := h.once.concat hfresh
    rwa [List.concat_eq_append] at hnodup
  armed := by
    refine iff_of_false nofun ?_
    rintro ⟨place, d, hdrop, hnew⟩
    obtain ⟨d', hdrop'⟩ := hlatest
    have hlength : w.calls.length = place + 1 := length_of_drop hdrop
    have hlength' := length_of_drop hdrop'
    obtain rfl : place = l.place := by omega
    exact hnew (List.mem_append_right _ (List.mem_singleton_self _))

private theorem heed_take (h : w.Tallied) (hcalls : w.calls.length < 2 ^ 64) {rest : List Launch}
    (hsent : w.sent = l :: rest)
    (hheeds : w.service.timer.heeds l.countdown.generation = true) :
    ((w.take rest).heed l).Tallied := by
  have hl : l ∈ w.sent := by
    rw [hsent]
    exact List.mem_cons_self
  obtain ⟨hlatest, hfresh⟩ := (h.heeds_iff hcalls (.inr hl)).mp hheeds
  exact (h.take hsent).heed (h.launched l (.inr hl)).1 hlatest hfresh

private theorem ring (h : w.Tallied) (index : Nat) : (w.ring index).Tallied := by
  unfold Watch.ring
  split
  · exact h
  · rename_i l hl
    have hmem := List.mem_of_getElem? hl
    split
    · refine ⟨h.generation, ?_, ?_, ?_, h.heeded, h.once, h.armed⟩
      · intro o ho
        apply h.launched
        rcases ho with ho | ho
        · exact .inl (List.mem_of_mem_eraseIdx ho)
        · rcases List.mem_append.mp ho with ho | ho
          · exact .inr ho
          · exact .inl (List.mem_singleton.mp ho ▸ hmem)
      · simp [h.expiries]
      · intro k hk
        dsimp only at hk
        split at hk
        · cases hk
        · rename_i hother
          obtain ⟨o, ho, rfl⟩ := h.current k hk
          refine ⟨o, ?_, rfl⟩
          obtain ⟨i, hi⟩ := List.getElem?_of_mem ho
          refine List.mem_eraseIdx_iff_getElem?.mpr ⟨i, ?_, hi⟩
          rintro rfl
          rw [hl] at hi
          cases hi
          exact hother hk
    · exact h

private theorem deliver (h : w.Tallied) (hcalls : w.calls.length < 2 ^ 64) (env : Surroundings) :
    (w.deliver env).Tallied := by
  cases hsent : w.sent with
  | nil =>
    rw [deliver_of_nil hsent h.expiries]
    exact h
  | cons l rest =>
    rw [deliver_of_heeds hsent h.expiries]
    split
    · rename_i hheeds
      exact (h.heed_take hcalls hsent hheeds).proceed _ _
    · exact h.take hsent

private theorem pass (h : w.Tallied) (d : Duration) : (w.act (.pass d)).Tallied :=
  ⟨h.generation, h.launched, h.expiries, h.current, h.heeded, h.once, h.armed⟩

private theorem act (h : w.Tallied) (hcalls : w.calls.length < 2 ^ 64) (a : Act) :
    (w.act a).Tallied := by
  have hasked {op : Operation} (hop : a.operation? w.service.now = some op) :
      (w.act a).Tallied := by
    rcases act_of_operation hop with heq | heq <;> rw [heq]
    · exact h
    · exact h.proceed _ _
  cases a with
  | openSession | closeSession | dispatch => exact hasked rfl
  | shutdown =>
    have hcalled := h.call_disarmed
    unfold Watch.act Service.shutdown
    dsimp only
    split
    · rename_i service hok
      split at hok
      · cases hok
      · cases hok
        exact ⟨hcalled.generation, hcalled.launched, hcalled.expiries, hcalled.current,
          hcalled.heeded, hcalled.once, hcalled.armed⟩
    · exact h
  | arm d => exact h.call_armed d
  | disarm => exact h.call_disarmed
  | pass d => exact h.pass d
  | ring index => exact h.ring index
  | deliver env => exact h.deliver hcalls env

end Tallied

private theorem calls_prefix_act (w : Watch) (a : Act) : w.calls <+: (w.act a).calls := by
  have hasked {op : Operation} (hop : a.operation? w.service.now = some op) :
      w.calls <+: (w.act a).calls := by
    rcases act_of_operation hop with heq | heq
    · have hsame : (w.act a).calls = w.calls := congrArg Watch.calls heq
      exact hsame ▸ List.prefix_refl _
    · rw [heq]
      exact calls_prefix_obey w _
  cases a with
  | openSession | closeSession | dispatch => exact hasked rfl
  | shutdown =>
    unfold act
    dsimp only
    split
    · exact List.prefix_append _ _
    · exact List.prefix_refl _
  | arm d => exact List.prefix_append _ _
  | disarm => exact List.prefix_append _ _
  | pass d => exact List.prefix_refl _
  | ring index =>
    unfold act ring
    dsimp only
    split
    · exact List.prefix_refl _
    · split <;> exact List.prefix_refl _
  | deliver env =>
    unfold act deliver
    dsimp only
    split
    · refine List.IsPrefix.trans ?_ (calls_prefix_obey _ _)
      split <;> exact List.prefix_refl _
    · exact List.prefix_refl _

theorem tallied_after (c : Controller) (acts : List Act)
    (hcalls : ((start c).after acts).calls.length < 2 ^ 64) :
    ((start c).after acts).Tallied := by
  induction acts using List.reverseRecOn with
  | nil => exact .start c
  | append_singleton acts a ih =>
    rw [after_concat] at hcalls ⊢
    have hbefore := (calls_prefix_act ((start c).after acts) a).length_le
    have hfew : ((start c).after acts).calls.length < 2 ^ 64 := by omega
    exact (ih hfew).act hfew a

/-- The countdown that was begun by the latest call to the timer is due when the run is over that is
recorded; no countdown has rung before it was due. -/
structure Timely (w : Watch) : Prop where
  sound : w.service.controller.Sound
  due (run : ListeningRun) (l : Launch) (d : Duration) :
    w.service.controller.airspace.run = some run → l ∈ w.running ∨ l ∈ w.sent →
      w.calls.drop l.place = [.armed d] →
        l.countdown.due = run.startedAt + (run.duration : Nat)
  rung (l : Launch) : l ∈ w.sent → l.countdown.due ≤ w.service.now

namespace Timely

private theorem start {c : Controller} (hs : c.Sound) : (Watch.start c).Timely where
  sound := hs
  due _ _ _ _ hl := by simp [Watch.start] at hl
  rung _ hl := absurd hl List.not_mem_nil

private theorem proceed (h : w.Timely) (ht : w.Tallied) {op : Operation} {c : Controller}
    (hop : w.service.controller.UsesTimer op (c, j)) (hs : c.Sound)
    (hnow : ∀ now, op.now? = some now → now = w.service.now) : (w.proceed c j).Timely := by
  -- The controller asks for one thing of the timer at most.
  rw [Watch.proceed, ← obey_timer]
  cases hop with
  | stay _ _ hsame _ hquiet =>
    rw [hquiet]
    refine ⟨hs, fun run l d hrun => ?_, h.rung⟩
    have hrun : c.airspace.run = some run := hrun
    exact h.due run l d (hsame ▸ hrun)
  | begin _ _ run hidle hrecorded htime harmed =>
    rw [harmed]
    refine ⟨hs, fun run' l d hrun hl hdrop => ?_, h.rung⟩
    obtain rfl : run = run' := Option.some.inj (hrecorded.symm.trans hrun)
    have hplace : l.place = w.calls.length := (drop_concat_eq_singleton.mp hdrop).1
    have hl : (l ∈ w.running ∨ l ∈ w.sent) ∨ l = ⟨w.calls.length,
        w.service.timer.arm.generation, w.service.now + (run.duration : Nat)⟩ := by
      simpa [obey, call, or_right_comm] using hl
    rcases hl with hold | rfl
    · have hbefore := (ht.launched l hold).1
      omega
    · rw [hnow run.startedAt htime]
  | discard _ _ run _ hover _ hdisarmed =>
    rw [hdisarmed]
    refine ⟨hs, fun run' l d hrun => ?_, h.rung⟩
    cases hover.symm.trans hrun
  | complete _ _ run _ hover hquiet =>
    rw [hquiet]
    refine ⟨hs, fun run' l d hrun => ?_, h.rung⟩
    cases hover.symm.trans hrun

private theorem disarm (h : w.Timely) : (w.call .disarmed).Timely where
  sound := h.sound
  due _ _ _ _ _ hdrop := nomatch (drop_concat_eq_singleton.mp hdrop).2
  rung := h.rung

private theorem take (h : w.Timely) {rest : List Launch} (hsent : w.sent = l :: rest) :
    (w.take rest).Timely := by
  have hmem {o : Launch} (ho : o ∈ rest) : o ∈ w.sent := by
    rw [hsent]
    exact List.mem_cons_of_mem l ho
  exact ⟨h.sound, fun run o d hrun ho => h.due run o d hrun (ho.imp_right hmem),
    fun o ho => h.rung o (hmem ho)⟩

private theorem ring (h : w.Timely) (index : Nat) : (w.ring index).Timely := by
  unfold Watch.ring
  split
  · exact h
  · rename_i l hl
    split
    · rename_i hdue
      have hmem := List.mem_of_getElem? hl
      refine ⟨h.sound, fun run o d hrun ho => h.due run o d hrun ?_, fun o ho => ?_⟩
      · rcases ho with ho | ho
        · exact .inl (List.mem_of_mem_eraseIdx ho)
        · rcases List.mem_append.mp ho with ho | ho
          · exact .inr ho
          · exact .inl (List.mem_singleton.mp ho ▸ hmem)
      · rcases List.mem_append.mp ho with ho | ho
        · exact h.rung o ho
        · rw [List.mem_singleton.mp ho]
          exact hdue
    · exact h

private theorem deliver (h : w.Timely) (ht : w.Tallied) (hcalls : w.calls.length < 2 ^ 64)
    (env : Surroundings) : (w.deliver env).Timely := by
  cases hsent : w.sent with
  | nil =>
    rw [deliver_of_nil hsent ht.expiries]
    exact h
  | cons l rest =>
    rw [deliver_of_heeds hsent ht.expiries]
    split
    · rename_i hheeds
      let op : Operation := .listeningOver env w.service.now
      have htaken := h.take hsent
      have hheeded : ((w.take rest).heed l).Timely := ⟨htaken.sound, htaken.due, htaken.rung⟩
      have husesTimer : w.service.controller.UsesTimer op (w.service.controller.perform op) :=
        Controller.usesTimer_perform h.sound rfl
      have hsound := Controller.sound_perform h.sound op
      exact hheeded.proceed (ht.heed_take hcalls hsent hheeds) husesTimer hsound
        fun now hnow => (Option.some.inj hnow).symm
    · exact h.take hsent

private theorem act (h : w.Timely) (ht : w.Tallied) (hcalls : w.calls.length < 2 ^ 64) {a : Act}
    (ha : a.arms = false) : (w.act a).Timely := by
  have hasked {op : Operation} (hop : a.operation? w.service.now = some op) :
      (w.act a).Timely := by
    rcases act_of_operation hop with heq | heq <;> rw [heq]
    · exact h
    · have hstays : op.relocates = false ∧ ∀ now, op.now? = some now → now = w.service.now := by
        cases a <;> cases hop <;> simp [Operation.relocates, Operation.now?, eq_comm]
      exact h.proceed ht (Controller.usesTimer_perform h.sound hstays.1)
        (Controller.sound_perform h.sound op) hstays.2
  cases a with
  | openSession | closeSession | dispatch => exact hasked rfl
  | shutdown =>
    have hdisarmed := h.disarm
    unfold Watch.act Service.shutdown
    dsimp only
    split
    · rename_i service hok
      split at hok
      · cases hok
      · cases hok
        exact ⟨hdisarmed.sound, hdisarmed.due, hdisarmed.rung⟩
    · exact h
  | arm d => cases ha
  | disarm => exact h.disarm
  | pass d =>
    refine ⟨h.sound, h.due, fun l hl => ?_⟩
    exact Int.le_trans (h.rung l hl) (Int.le_add_of_nonneg_right (Int.natCast_nonneg d))
  | ring index => exact h.ring index
  | deliver env => exact h.deliver ht hcalls env

end Timely

theorem timely_after {c : Controller} (hs : c.Sound) {acts : List Act}
    (hcalls : ((start c).after acts).calls.length < 2 ^ 64)
    (hown : ∀ a ∈ acts, a.arms = false) : ((start c).after acts).Timely := by
  induction acts using List.reverseRecOn with
  | nil => exact .start hs
  | append_singleton acts a ih =>
    rw [after_concat] at hcalls ⊢
    have hbefore := (calls_prefix_act ((start c).after acts) a).length_le
    have hfew : ((start c).after acts).calls.length < 2 ^ 64 := by omega
    have htimely := ih hfew fun o ho => hown o (List.mem_append_left [a] ho)
    exact htimely.act (tallied_after c acts hfew) hfew
      (hown a (List.mem_append_right acts (List.mem_singleton_self a)))

/-- How the expiry that has waited longest is received. -/
structure Receives (env : Surroundings) (w : Watch) (l : Launch) : Prop where
  waiting : w.service.expiries.head? = some l.countdown.generation
  heeds_iff : w.service.timer.heeds l.countdown.generation = true ↔
    (∃ d, w.calls.drop l.place = [.armed d]) ∧ l.place ∉ w.heeded
  once : w.heeded.Nodup
  passed : w.service.timer.heeds l.countdown.generation = true →
    (w.act (.deliver env)).service.controller =
        (w.service.controller.listeningOver env w.service.now).1 ∧
      (w.act (.deliver env)).heeded = w.heeded ++ [l.place]
  dropped : w.service.timer.heeds l.countdown.generation = false →
    (w.act (.deliver env)).service = { w.service with expiries := w.service.expiries.tail } ∧
      (w.act (.deliver env)).heeded = w.heeded

private theorem Tallied.receives (h : w.Tallied) (hcalls : w.calls.length < 2 ^ 64)
    {rest : List Launch} (hsent : w.sent = l :: rest) (env : Surroundings) : w.Receives env l := by
  have hdeliver := deliver_of_heeds hsent h.expiries env
  have hl : l ∈ w.sent := by
    rw [hsent]
    exact List.mem_cons_self
  have hwaits : w.service.expiries = l.countdown.generation ::
      rest.map (·.countdown.generation) := by
    rw [h.expiries, hsent, List.map_cons]
  constructor
  case waiting => rw [hwaits, List.head?_cons]
  case heeds_iff => exact h.heeds_iff hcalls (.inr hl)
  case once => exact h.once
  case passed =>
    intro hheeds
    have hact : w.act (.deliver env) = w.deliver env := rfl
    rw [hact, hdeliver, if_pos hheeds]
    have hobeyed := obey_induction (P := fun w' => w'.heeded = ((w.take rest).heed l).heeded)
      (fun w' e _ hw' => by cases e <;> exact hw') rfl
      (w.service.controller.listeningOver env w.service.now).2
    exact ⟨rfl, hobeyed⟩
  case dropped =>
    intro hheeds
    have hact : w.act (.deliver env) = w.deliver env := rfl
    rw [hact, hdeliver, if_neg (by simp [hheeds]), hwaits]
    exact ⟨rfl, rfl⟩

/-- The countdown that the service knows of rings like any other. -/
private theorem Tallied.exists_ring_eq (h : w.Tallied) :
    ∃ index, (w.act (.ring index)).service = w.service.ring := by
  cases hk : w.service.countdown with
  | none =>
    refine ⟨w.running.length, ?_⟩
    have hnone : w.running[w.running.length]? = none := List.getElem?_eq_none (Nat.le_refl _)
    show (w.ring w.running.length).service = w.service.ring
    simp only [Watch.ring, hnone, Service.ring, hk]
  | some k =>
    obtain ⟨l, hl, rfl⟩ := h.current k hk
    obtain ⟨index, hindex⟩ := List.getElem?_of_mem hl
    refine ⟨index, ?_⟩
    show (w.ring index).service = w.service.ring
    simp only [Watch.ring, hindex, Service.ring, hk]
    split <;> simp

private theorem deliver_sent {rest : List Launch} (hsent : w.sent = l :: rest)
    (hwaits : w.service.expiries = w.sent.map (·.countdown.generation)) (env : Surroundings) :
    (w.deliver env).sent = rest ∧ (w.deliver env).service =
      { (w.service.expire env l.countdown.generation).1 with
        expiries := rest.map (·.countdown.generation) } := by
  rw [deliver_of_heeds hsent hwaits, Service.expire]
  split
  · refine ⟨?_, ?_⟩
    · exact obey_induction (P := fun w' => w'.sent = rest) (fun w' e _ hw' => by
        cases e <;> exact hw') rfl _
    · rw [← Service.obey_expiries]
      simp only [proceed, service_obey, ← Service.obey_controller]
      rfl
  · exact ⟨rfl, rfl⟩

private theorem service_deliver_all
    (hwaits : w.service.expiries = w.sent.map (·.countdown.generation)) (env : Surroundings) :
    (w.after (List.replicate w.sent.length (.deliver env))).service =
      (w.service.deliver env).1 := by
  generalize hsent : w.sent = launches at hwaits ⊢
  -- By induction on the expiries that wait. Delivering one leaves the others, here as in the
  -- service.
  induction launches generalizing w with
  | nil =>
    rw [Service.deliver_fst, hwaits]
    show w.service = { w.service with expiries := [] }
    rw [← List.map_nil, ← hwaits]
  | cons l rest ih =>
    obtain ⟨hrest, hservice⟩ := deliver_sent hsent (hsent ▸ hwaits) env
    have hwaits' : (w.deliver env).service.expiries = rest.map (·.countdown.generation) := by
      rw [hservice]
    have hlater := ih hrest hwaits'
    rw [Service.deliver_fst, hwaits', hservice] at hlater
    rw [Service.deliver_fst, hwaits, List.map_cons, List.foldl_cons, Service.expire_expiries]
    exact hlater

def rouse (env : Surroundings) (w : Watch) (d : Duration) : List Act :=
  List.replicate w.sent.length (.deliver env) ++ [.pass d]

private theorem not_arms_of_mem_rouse {a : Act} {d : Duration} (h : a ∈ w.rouse env d) :
    a.arms = false := by
  rcases List.mem_append.mp h with h | h
  · rw [List.eq_of_mem_replicate h]
    rfl
  · rw [List.mem_singleton.mp h]
    rfl

private theorem service_rouse (hwaits : w.service.expiries = w.sent.map (·.countdown.generation))
    (env : Surroundings) (d : Duration) : (w.after (w.rouse env d)).service =
      { (w.service.deliver env).1 with now := w.service.now + (d : Nat) } := by
  rw [rouse, after_concat, ← Service.now_deliver env w.service, ← service_deliver_all hwaits env]
  rfl

/-- While the service sleeps, the countdown it knows of may ring, and what waits is delivered. -/
theorem Tallied.exists_sleep_eq (h : w.Tallied) (env : Surroundings) (d : Duration) :
    ∃ acts : List Act, (∀ a ∈ acts, a.arms = false) ∧
      (w.after acts).service = (w.service.sleep env d).1 := by
  by_cases hdue : ∃ k, w.service.countdown = some k ∧ k.due ≤ w.service.now + (d : Nat)
  · obtain ⟨k, hk, hdue⟩ := hdue
    -- Time passes until the countdown is due, unless it is already, and then up to the end.
    obtain ⟨early, hearly⟩ := Int.le.dest (Int.le_max_left w.service.now k.due)
    have hwake : max w.service.now k.due ≤ w.service.now + (d : Nat) :=
      Int.max_le.mpr ⟨Int.le_add_of_nonneg_right (Int.natCast_nonneg d), hdue⟩
    obtain ⟨late, hlate⟩ := Int.le.dest hwake
    have hpassed := h.pass early
    obtain ⟨index, hring⟩ := hpassed.exists_ring_eq
    have hrung : ((w.act (.pass early)).act (.ring index)).Tallied := hpassed.ring index
    have hservice : ((w.act (.pass early)).act (.ring index)).service =
        ({ w.service with now := max w.service.now k.due } : Service).ring := by
      rw [hring, ← hearly]
      rfl
    refine ⟨.pass early :: .ring index :: ((w.act (.pass early)).act (.ring index)).rouse env late,
      ?_, ?_⟩
    · simp only [List.forall_mem_cons]
      exact ⟨rfl, rfl, fun a => not_arms_of_mem_rouse⟩
    · rw [Service.sleep_of_due env hk hdue, ← hlate]
      refine (service_rouse hrung.expiries env late).trans ?_
      rw [hservice, Service.now_ring]
  · have hnot (k : Countdown) (hk : w.service.countdown = some k) :
        ¬ k.due ≤ w.service.now + (d : Nat) := fun hle => hdue ⟨k, hk, hle⟩
    refine ⟨w.rouse env d, fun a => not_arms_of_mem_rouse, ?_⟩
    rw [service_rouse h.expiries, Service.sleep_of_not_due env hnot]

open Controller (create) in
/-- Whoever calls the timer, however long countdowns that were given up run on and however long
expiries wait: an expiry reaches the controller exactly if its countdown was begun by the latest
call to the timer and has not reached it before; any other one changes nothing. If only the
controller starts the timer, a run that is over by the timer has lasted as long as it should. -/
theorem expiry_heeded_iff {settings : Settings} {domain : Domain} {c : Controller}
    (h : create settings domain = .ok c) (acts : List Act)
    (hcalls : ((start c).after acts).calls.length < 2 ^ 64) {rest : List Launch}
    (hsent : ((start c).after acts).sent = l :: rest) (env : Surroundings) :
    ((start c).after acts).Receives env l ∧
      ((∀ a ∈ acts, a.arms = false) →
        ((start c).after acts).service.timer.heeds l.countdown.generation = true →
          ∀ run, ((start c).after acts).service.controller.airspace.run = some run →
            run.startedAt + (run.duration : Nat) ≤ ((start c).after acts).service.now) := by
  have htallied := tallied_after c acts hcalls
  refine ⟨htallied.receives hcalls hsent env, ?_⟩
  intro hown hheeds run hrun
  have htimely := timely_after (Controller.sound_create h) hcalls hown
  have hl : l ∈ ((start c).after acts).sent := by
    rw [hsent]
    exact List.mem_cons_self
  obtain ⟨⟨d, hlatest⟩, -⟩ := (htallied.heeds_iff hcalls (.inr hl)).mp hheeds
  rw [← htimely.due run l d hrun (.inr hl) hlatest]
  exact htimely.rung l hl

open TwoChannels in
open FourChannels (willing) in
def ringing : List Act :=
  [.openSession accessPoint, .dispatch willing 0 (.tunedStartRequest (single 52)),
    .pass (.seconds 60), .ring 0]

open TwoChannels in
open Controller (create) in
open FourChannels (willing) in
theorem expiry_heeded_ringing : create {} domain = .ok controller ∧
    ((start controller).after ringing).calls.length < 2 ^ 64 ∧
    ((start controller).after ringing).sent = [⟨0, 1, Duration.seconds 60⟩] ∧
    ((start controller).after ringing).Receives willing ⟨0, 1, Duration.seconds 60⟩ ∧
    ∃ run, ((start controller).after ringing).service.controller.airspace.run = some run ∧
      run.startedAt + (run.duration : Nat) ≤ ((start controller).after ringing).service.now := by
  have hcalls : ((start controller).after ringing).calls.length < 2 ^ 64 := by decide +kernel
  have hsent : ((start controller).after ringing).sent = [⟨0, 1, Duration.seconds 60⟩] := by
    decide +kernel
  have hown : ∀ a ∈ ringing, a.arms = false := by decide +kernel
  have hheeds : ((start controller).after ringing).service.timer.heeds 1 = true := by
    decide +kernel
  have hrun : ((start controller).after ringing).service.controller.airspace.run =
      some ⟨52, [52], .seconds 60, 0⟩ := by
    decide +kernel
  obtain ⟨hreceives, hlasted⟩ := expiry_heeded_iff created ringing hcalls hsent willing
  exact ⟨created, hcalls, hsent, hreceives, _, hrun, hlasted hown hheeds _ hrun⟩

end Watch

end Hotspot
