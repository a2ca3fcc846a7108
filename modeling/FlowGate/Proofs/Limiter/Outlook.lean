/-
# A call with nobody else around

A caller that naps cannot choose when it wakes up. The script may wake it early, let no time pass,
or put the clock back; only other calls are kept out here. What the caller has before it is then its
outlook: the clock, and what the script has in store for the naps to come. `Solo` is a run in which
only this caller acts, seen from its next reading: what is still to happen during its nap counts as
having happened.
-/

import FlowGate.Proofs.Limiter.Alone

namespace FlowGate.Limiter

open Time (Duration ManualClock)

/-- What a caller has before it: the clock, and what happens during the naps to come. -/
structure Outlook where
  clock : ManualClock
  script : List (List Incident) := []

namespace Outlook

/-- The clock after an incident during a nap; another call does not by itself move it. -/
def happen (span : Duration) (clock : ManualClock) : Incident → ManualClock
  | .advance other => clock.advance other
  | .set instant => clock.set instant
  | .full => clock.advance span
  | .call => clock

/-- What a caller has before it when it wakes up from a nap. -/
def nap (outlook : Outlook) (span : Duration) : Outlook :=
  match outlook.script with
  | [] => { clock := outlook.clock.sleep span }
  | entry :: script => ⟨entry.foldl (happen span) (outlook.clock.note span), script⟩

/-- What a caller has before it after so many naps of one length. -/
def naps (outlook : Outlook) (span : Duration) : Nat → Outlook
  | 0 => outlook
  | times + 1 => (outlook.nap span).naps span times

/-- Nobody else calls during the naps to come. -/
def Undisturbed (outlook : Outlook) : Prop := ∀ entry ∈ outlook.script, .call ∉ entry

variable {outlook : Outlook} {span : Duration}

theorem nap_of_unscripted (unscripted : outlook.script = []) :
    outlook.nap span = { clock := outlook.clock.sleep span } := by
  rw [nap, unscripted]

theorem nap_of_scripted {entry : List Incident} {script : List (List Incident)}
    (scripted : outlook.script = entry :: script) :
    outlook.nap span = ⟨entry.foldl (happen span) (outlook.clock.note span), script⟩ := by
  rw [nap, scripted]

theorem Undisturbed.nap (still : outlook.Undisturbed) : (outlook.nap span).Undisturbed := by
  cases scripted : outlook.script with
  | nil =>
      rw [nap_of_unscripted scripted]
      intro entry listed
      cases listed
  | cons entry script =>
      rw [nap_of_scripted scripted]
      intro other listed
      exact still other (scripted ▸ List.mem_cons_of_mem entry listed)

theorem Undisturbed.naps (still : outlook.Undisturbed) (times : Nat) :
    (outlook.naps span times).Undisturbed := by
  induction times generalizing outlook with
  | zero => exact still
  | succ times ih => exact ih still.nap

theorem record_foldl_happen (entry : List Incident) (clock : ManualClock) :
    (entry.foldl (happen span) clock).naps = clock.naps := by
  induction entry generalizing clock with
  | nil => rfl
  | cons incident entry ih =>
      refine (ih (happen span clock incident)).trans ?_
      cases incident <;> rfl

/-- Whatever happens meanwhile, every nap is noted once, with the length that was asked for. -/
theorem record_naps (times : Nat) :
    (outlook.naps span times).clock.naps = List.replicate times span ++ outlook.clock.naps := by
  induction times generalizing outlook with
  | zero => rfl
  | succ times ih =>
      have noted : (outlook.nap span).clock.naps = span :: outlook.clock.naps := by
        cases scripted : outlook.script with
        | nil =>
            rw [nap_of_unscripted scripted]
            rfl
        | cons entry script =>
            rw [nap_of_scripted scripted]
            exact record_foldl_happen entry (outlook.clock.note span)
      refine ih.trans ?_
      rw [noted, List.replicate_succ', List.append_assoc]
      rfl

/-- Without a script the clock moves over every nap. -/
theorem naps_of_unscripted (unscripted : outlook.script = []) (times : Nat) :
    outlook.naps span times = { clock := outlook.clock.sleepTimes span times } := by
  induction times generalizing outlook with
  | zero =>
      obtain ⟨clock, script⟩ := outlook
      cases unscripted
      rfl
  | succ times ih =>
      rw [naps, nap_of_unscripted unscripted, ih rfl]
      rfl

end Outlook

/-! ## The steps of a call with nobody else around -/

namespace Run

/-- A run in which a single call acts on this limiter, on a clock that works; on its next reading
the caller finds this outlook. -/
structure Solo (run : Run) (limiter : Limiter) (outlook : Outlook) (call : Call) : Prop where
  limiter_eq : run.world.limiter = limiter
  clock_eq : run.top.pending.foldl (Outlook.happen run.top.nap) run.world.clock = outlook.clock
  script_eq : run.world.script = outlook.script
  works : run.world.answers = none
  call_eq : run.top.call = call
  undisturbed : .call ∉ run.top.pending
  alone : run.below = []

namespace Solo

variable {run : Run} {limiter : Limiter} {outlook : Outlook} {call : Call} {effect : Effect}
  {stage : Stage}

/-- Whatever is still to happen during the nap happens, and the caller wakes up. -/
theorem wakes (solo : Solo run limiter outlook call) (standing : call.progress = .underway stage) :
    ∃ stages awake, Leads stages run awake ∧ Solo awake limiter outlook call ∧
      awake.top.pending = [] := by
  obtain ⟨pending, same⟩ : ∃ pending, run.top.pending = pending := ⟨_, rfl⟩
  induction pending generalizing run with
  | nil => exact ⟨[], run, .nil, solo, same⟩
  | cons incident pending ih =>
      obtain ⟨clock, happened⟩ : ∃ clock,
          Outlook.happen run.top.nap run.world.clock incident = clock := ⟨_, rfl⟩
      have moved : run.next = .inl { run with
          world := { run.world with clock }
          top := { run.top with pending } } := by
        cases incident with
        | advance span => simp only [next, same, ← happened, Outlook.happen]
        | set instant => simp only [next, same, ← happened, Outlook.happen]
        | full => simp only [next, same, ← happened, Outlook.happen]
        | call => exact absurd (same ▸ List.mem_cons_self) solo.undisturbed
      have shows := solo.clock_eq
      rw [same, List.foldl_cons, happened] at shows
      have still : .call ∉ pending := fun listed =>
        solo.undisturbed (same ▸ List.mem_cons_of_mem incident listed)
      obtain ⟨stages, awake, leads, woken⟩ := @ih
        { run with world := { run.world with clock }, top := { run.top with pending } }
        ⟨solo.limiter_eq, shows, solo.script_eq, solo.works, solo.call_eq, still, solo.alone⟩ rfl
      exact ⟨stage :: stages, awake, .cons (solo.call_eq ▸ standing) moved leads, woken⟩

theorem stepCall_eq (solo : Solo run limiter outlook call) (awake : run.top.pending = [])
    (steps : limiter.step call (some outlook.clock.now) = effect) :
    (run.world.stepCall run.top.call).1.limiter = effect.limiter ∧
      (run.world.stepCall run.top.call).1.clock = outlook.clock ∧
      (run.world.stepCall run.top.call).1.script = outlook.script ∧
      (run.world.stepCall run.top.call).1.answers = none ∧
      (run.world.stepCall run.top.call).2 = effect.call := by
  have shows : run.world.clock = outlook.clock := by
    have same := solo.clock_eq
    rwa [awake] at same
  have reading : run.world.reading = some outlook.clock.now := by
    rw [World.reading, solo.works, shows]
  simp only [World.stepCall, solo.limiter_eq, solo.call_eq, reading, steps]
  exact ⟨trivial, shows, solo.script_eq, solo.works, trivial⟩

/-- The call goes on to a stage where it need not sleep. -/
theorem goesOn (solo : Solo run limiter outlook call) (standing : call.progress = .underway stage)
    (steps : limiter.step call (some outlook.clock.now) = effect) {stage' : Stage}
    (reached : effect.call.progress = .underway stage')
    (notBlocked : ∀ place, stage' ≠ .blocked place) :
    ∃ stages after, 0 < stages.length ∧ Leads stages run after ∧
      Solo after effect.limiter outlook effect.call := by
  obtain ⟨stages, awake, leads, woken, up⟩ := solo.wakes standing
  obtain ⟨tiers, time, script, answers, stepped⟩ := woken.stepCall_eq up steps
  have moved := next_of_goesOn up (by rw [stepped, reached]) notBlocked
  refine ⟨stages ++ [stage], _, by simp, leads.trans (.cons (woken.call_eq ▸ standing) moved .nil),
    tiers, time, script, answers, stepped, List.not_mem_nil, woken.alone⟩

/-- The call falls asleep on a tier; whatever the script has in store for the nap is to come. -/
theorem sleeps (solo : Solo run limiter outlook call) (standing : call.progress = .underway stage)
    (still : outlook.Undisturbed) (steps : limiter.step call (some outlook.clock.now) = effect)
    {place : Nat} {tier : Tier} (reached : effect.call.progress = .underway (.blocked place))
    (here : effect.limiter.tiers[place]? = some tier) :
    ∃ stages after, 0 < stages.length ∧ Leads stages run after ∧
      Solo after effect.limiter (outlook.nap tier.nap) effect.call := by
  obtain ⟨stages, awake, leads, woken, up⟩ := solo.wakes standing
  obtain ⟨tiers, time, script, answers, stepped⟩ := woken.stepCall_eq up steps
  have interval : effect.limiter.interval place = tier.interval := by
    rw [Limiter.interval, here]
    rfl
  have moved := next_of_sleeps up (by rw [stepped, reached])
  refine ⟨stages ++ [stage], _, by simp, leads.trans (.cons (woken.call_eq ▸ standing) moved .nil),
    ?_⟩
  rw [stepped]
  cases scripted : outlook.script with
  | nil =>
      rw [Outlook.nap_of_unscripted scripted]
      simp only [World.sleep, script, scripted, tiers, interval]
      exact ⟨rfl, by rw [← time]; rfl, rfl, answers, rfl, List.not_mem_nil, woken.alone⟩
  | cons entry rest =>
      rw [Outlook.nap_of_scripted scripted]
      simp only [World.sleep, script, scripted, tiers, interval]
      exact ⟨rfl, by rw [← time]; rfl, rfl, answers, rfl,
        still entry (scripted ▸ List.mem_cons_self), woken.alone⟩

/-- The call returns, and so ends the run. A call that slept has the time since it started for its
delay. -/
theorem leaves (solo : Solo run limiter outlook call)
    (standing : call.progress = .underway .leaving) :
    ∃ after delay, run.Ends after (.returned delay) ∧
      delay.toNat = (if call.slept then outlook.clock.now.toNat - call.start.toNat else 0) ∧
      after.limiter.tiers = limiter.tiers ∧ after.clock = outlook.clock ∧
      after.script = outlook.script := by
  obtain ⟨stages, awake, leads, woken, up⟩ := solo.wakes standing
  obtain ⟨tiers, time, script, -, stepped⟩ :=
    woken.stepCall_eq up (step_eq_act limiter outlook.clock.now standing)
  have ends := next_of_returns up woken.alone (by rw [stepped]; rfl)
  refine ⟨_, if call.slept then Word.subSat outlook.clock.now call.start else 0,
    ⟨stages.length + 1, ?_, by simp⟩, ?_, ?_, time, script⟩
  · rw [finish_of_leads leads, finish, ends]
  · rw [apply_ite UInt64.toNat, Word.toNat_subSat, UInt64.toNat_zero]
  · rw [tiers]
    rfl

end Solo

/-- A run that leads on for any number of steps does not end. -/
theorem not_ends_of_leads {run : Run}
    (endless : ∀ steps, ∃ stages after, steps ≤ stages.length ∧ Leads stages run after)
    (after : World) (ending : Ending) : ¬ run.Ends after ending := by
  rintro ⟨steps, finished, ended⟩
  obtain ⟨stages, later, long, leads⟩ := endless steps
  have stays := finish_of_le long (by rwa [finished])
  have goesOn := finish_of_leads leads 0
  rw [Nat.add_zero, stays, finished] at goesOn
  exact ended (congrArg Prod.snd goesOn)

theorem ends_of_leads {stages : List Stage} {run last : Run} {after : World} {ending : Ending}
    (leads : Leads stages run last) (ends : last.Ends after ending) : run.Ends after ending := by
  obtain ⟨steps, finished, ended⟩ := ends
  exact ⟨stages.length + steps, (finish_of_leads leads steps).trans finished, ended⟩

end Run

end FlowGate.Limiter
