/-
# Calls that are awaited and calls on a clock moved by hand

A call that is awaited goes through a loop of its own, tier by tier, and through an inner loop where
it is blocked; a call on a clock moved by hand goes on step by step, and a stage tells where it
stands. Nothing but what happens at a tier and at the end is common to them. That they come to the
same is shown here: to every stage belongs what is then left of the loops, and a step of the call
leaves what is left after it. The naps are told by the same rule in both, so that under virtual time
the runtime shows the clock's instant whenever a reading is taken.

The two give up at different moments, so nothing is said here of calls that do not end. On a limiter
that was built every call ends, as long as the clock does not go round.
-/

import FlowGate.Limiter.Executor
import FlowGate.Proofs.Limiter.Alone

namespace FlowGate.Limiter

open Config (Rule)
open Time (Duration ManualClock)

/-! ## What happens at a tier -/

section Tier

variable {limiter after : Limiter} {place : Nat}

/-- A caller that is blocked is told to sleep for as long as it would be told at any later look. -/
theorem retry_of_consume {retry : Duration}
    (admitted : limiter.consume place = (after, .ok (some retry))) :
    retry = .ofMillis (after.interval place) := by
  rw [consume, lock_eq_tiers] at admitted
  cases here : limiter.tiers[place]? with
  | none => simp [here] at admitted
  | some tier =>
      simp only [here, Prod.mk.injEq, Except.ok.injEq, Option.ite_none_right_eq_some,
        Option.some.injEq] at admitted
      obtain ⟨rfl, -, rfl⟩ := admitted
      rw [interval, getElem?_putTier_self here]
      rfl

theorem tierCount_consume (limiter : Limiter) (place : Nat) :
    (limiter.consume place).1.tierCount = limiter.tierCount := by
  rw [consume]
  split <;> rfl

theorem interval_putTier {tier next : Tier} (here : limiter.tiers[place]? = some tier)
    (same : next.rule = tier.rule) :
    (limiter.putTier place next).interval place = limiter.interval place := by
  rw [interval, interval, getElem?_putTier_self here, here]
  simp [Tier.interval, same]

/-- A look leaves the number of tiers and the time to sleep on this one as they were. -/
theorem lookAgain_keeps (limiter : Limiter) (place : Nat) (now : UInt64) :
    (limiter.lookAgain place now).1.tierCount = limiter.tierCount ∧
      (limiter.lookAgain place now).1.interval place = limiter.interval place := by
  rw [lookAgain, lock_eq_tiers]
  cases here : limiter.tiers[place]? with
  | none => exact ⟨rfl, rfl⟩
  | some tier =>
      cases computed : tier.credit now with
      | error fault =>
          simp only [computed]
          exact ⟨rfl, rfl⟩
      | ok credit =>
          simp only [computed]
          exact ⟨rfl, interval_putTier here (Tier.credit_rule computed)⟩

end Tier

/-! ## What is left of the loops -/

namespace Executor

variable {σ : Type} (runtime : Runtime σ)

/-- What is left of an awaited call that has these tiers before it. -/
def goOn (executor : Executor σ) (start : UInt64) (delayed : Bool) (places : List Nat) :
    Executor σ × Ending :=
  match executor.passAll runtime delayed places with
  | (executor, _, some ending) => (executor, ending)
  | (executor, delayed, none) => executor.finish runtime start delayed

/-- The tiers from a place on. -/
def placesFrom (executor : Executor σ) (place : Nat) : List Nat :=
  List.range' place (executor.limiter.tierCount - place)

/-- What is left of an awaited call that is about to sleep on a tier, for so many naps. -/
def wait (executor : Executor σ) (start : UInt64) (delayed : Bool) (place naps : Nat) :
    Executor σ × Ending :=
  match executor.sleepOff runtime place (.ofMillis (executor.limiter.interval place)) naps with
  | (executor, some ending) => (executor, ending)
  | (executor, none) => executor.goOn runtime start delayed (executor.placesFrom (place + 1))

/-- What is left of the loops for a call that has come this far; if it is blocked, it is about to
sleep and has so many naps before it. -/
def resume (executor : Executor σ) (call : Call) (naps : Nat) : Executor σ × Ending :=
  match call.progress with
  | .underway .arriving =>
    executor.goOn runtime (runtime.now executor.state) call.slept (executor.placesFrom 0)
  | .underway (.charging place) =>
    executor.goOn runtime call.start call.slept (place :: executor.placesFrom (place + 1))
  | .underway (.blocked place) => executor.wait runtime call.start call.slept place naps
  | .underway .leaving => executor.finish runtime call.start call.slept
  | .returned delay => (executor, .returned delay)
  | .failed _ cause => (executor, .failed cause)

/-- The state in which a call at a stage takes its reading: one that is blocked sleeps before. -/
def woken (executor : Executor σ) : Stage → σ
  | .blocked place =>
    runtime.sleep (.ofMillis (executor.limiter.interval place)) executor.state
  | _ => executor.state

/-- The executor after a step of a call. -/
def took (executor : Executor σ) (stage : Stage) (effect : Effect) : Executor σ where
  limiter := effect.limiter
  state := executor.woken runtime stage
  events := executor.events ++ effect.events

/-- The naps before a call after a step at a stage. -/
def napsAfter (naps : Nat) : Stage → Nat
  | .blocked _ => naps
  | _ => patience

variable {executor : Executor σ} {call : Call} {effect : Effect}

theorem control_eq (executor : Executor σ) :
    executor.control runtime = executor.resume runtime Call.fresh patience := by
  rw [control, List.range_eq_range']
  rfl

theorem resume_of_ne_blocked {stage : Stage} (standing : call.progress = .underway stage)
    (notBlocked : ∀ place, stage ≠ .blocked place) (first second : Nat) :
    executor.resume runtime call first = executor.resume runtime call second := by
  cases stage with
  | blocked place => exact absurd rfl (notBlocked place)
  | arriving => simp only [resume, standing]
  | charging place => simp only [resume, standing]
  | leaving => simp only [resume, standing]

/-- A call that has dealt with the tiers before a place goes on with those that follow. -/
theorem resume_stageFrom (executor : Executor σ) {limiter : Limiter}
    (count : executor.limiter.tierCount = limiter.tierCount) (call : Call) (place naps : Nat) :
    executor.resume runtime (call.movedTo (limiter.stageFrom place)) naps =
      executor.goOn runtime call.start call.slept (executor.placesFrom place) := by
  by_cases inside : place < limiter.tierCount
  · have more : limiter.tierCount - place = limiter.tierCount - (place + 1) + 1 := by omega
    have places : executor.placesFrom place = place :: executor.placesFrom (place + 1) := by
      rw [placesFrom, placesFrom, count, more, List.range'_succ]
    rw [stageFrom, if_pos inside, places]
    rfl
  · have places : executor.placesFrom place = [] := by
      rw [placesFrom, count, Nat.sub_eq_zero_of_le (Nat.not_lt.mp inside), List.range'_zero]
    rw [stageFrom, if_neg inside, places]
    rfl

/-! ## A step of the call -/

/-- Once past a tier, a call goes on with the next. -/
theorem goOn_of_within {place : Nat} {after : Limiter}
    (admitted : executor.limiter.consume place = (after, .ok none)) (start : UInt64)
    (delayed : Bool) (places : List Nat) :
    executor.goOn runtime start delayed (place :: places) =
      { executor with limiter := after }.goOn runtime start delayed places := by
  simp only [goOn, passAll, admitted]

theorem tierCount_sleepOff (executor : Executor σ) (place : Nat) (retry : Duration) (naps : Nat) :
    (executor.sleepOff runtime place retry naps).1.limiter.tierCount =
      executor.limiter.tierCount := by
  induction naps generalizing executor with
  | zero => rfl
  | succ naps ih =>
      have count := (lookAgain_keeps executor.limiter place
        (runtime.now (runtime.sleep retry executor.state))).1
      rw [sleepOff]
      rcases looked : executor.limiter.lookAgain place
        (runtime.now (runtime.sleep retry executor.state)) with ⟨after, fault | ⟨_ | _, events⟩⟩
      · rw [looked] at count
        exact count
      · rw [looked] at count
        exact count
      · rw [looked] at count
        exact (ih _).trans count

/-- A call that is blocked on a tier counts as delayed from then on. -/
theorem goOn_of_over {place : Nat} {after : Limiter} {retry : Duration}
    (admitted : executor.limiter.consume place = (after, .ok (some retry))) (start : UInt64)
    (delayed : Bool) :
    executor.goOn runtime start delayed (place :: executor.placesFrom (place + 1)) =
      { executor with limiter := after }.wait runtime start true place patience := by
  obtain ⟨blocked, here⟩ : ∃ blocked : Executor σ, blocked = { executor with limiter := after } :=
    ⟨_, rfl⟩
  have count := (tierCount_sleepOff runtime blocked place retry patience).trans
    (show blocked.limiter.tierCount = executor.limiter.tierCount by
      rw [here, ← tierCount_consume executor.limiter place, admitted])
  have told : retry = .ofMillis (blocked.limiter.interval place) := by
    rw [here]
    exact retry_of_consume admitted
  simp only [goOn, passAll, admitted, ← here]
  rw [wait, ← told]
  rcases slept : blocked.sleepOff runtime place retry patience with ⟨later, _ | ending⟩
  · rw [slept] at count
    have places : later.placesFrom (place + 1) = executor.placesFrom (place + 1) := by
      rw [placesFrom, placesFrom, count]
    simp only [places]
    rfl
  · rfl

/-- What is left of the loops at a tier is what is left after the call has been charged. -/
theorem resume_charging {place : Nat} (standing : call.progress = .underway (.charging place))
    (naps : Nat) :
    executor.resume runtime call naps =
      (executor.took runtime (.charging place) (executor.limiter.charge call place)).resume runtime
        (executor.limiter.charge call place).call patience := by
  have left : executor.resume runtime call naps =
      executor.goOn runtime call.start call.slept (place :: executor.placesFrom (place + 1)) := by
    simp only [resume, standing]
  have count := tierCount_consume executor.limiter place
  rcases admitted : executor.limiter.consume place with ⟨after, fault | _ | retry⟩
  · rw [left, goOn, passAll, charge, admitted, took, List.append_nil]
    rfl
  · rw [admitted] at count
    have same := resume_stageFrom runtime { executor with limiter := after } count call (place + 1)
      patience
    rw [left, goOn_of_within runtime admitted, charge, admitted, took, List.append_nil]
    refine Eq.trans ?_ same.symm
    rw [placesFrom, placesFrom, count]
  · rw [left, goOn_of_over runtime admitted, charge, admitted, took, List.append_nil]
    rfl

/-- What is left of the loops at a look is what is left after the call has looked. -/
theorem resume_blocked {place : Nat} (standing : call.progress = .underway (.blocked place))
    (naps : Nat) :
    executor.resume runtime call (naps + 1) =
      (executor.took runtime (.blocked place) (executor.limiter.recheck call place
        (runtime.now (executor.woken runtime (.blocked place))))).resume runtime
          (executor.limiter.recheck call place
            (runtime.now (executor.woken runtime (.blocked place)))).call naps := by
  obtain ⟨state, woken⟩ : ∃ state, executor.woken runtime (.blocked place) = state := ⟨_, rfl⟩
  have slept : runtime.sleep (.ofMillis (executor.limiter.interval place)) executor.state = state :=
    woken
  obtain ⟨count, interval⟩ := lookAgain_keeps executor.limiter place (runtime.now state)
  have left : executor.resume runtime call (naps + 1) =
      executor.wait runtime call.start call.slept place (naps + 1) := by
    simp only [resume, standing]
  rw [left, wait, sleepOff, slept, woken, recheck, took, woken]
  rcases looked : executor.limiter.lookAgain place (runtime.now state) with
    ⟨after, fault | ⟨_ | _, events⟩⟩
  · simp only [List.append_nil]
    rfl
  · rw [looked] at count
    have same := resume_stageFrom runtime ⟨after, state, executor.events ++ events⟩ count call
      (place + 1) naps
    exact same.symm
  · rw [looked] at interval
    simp only [if_true, resume, Call.movedTo, wait, interval]

/-- A step of a call leaves what is left of the loops after it. -/
theorem resume_act {stage : Stage} (standing : call.progress = .underway stage)
    (acted : executor.limiter.act call (runtime.now (executor.woken runtime stage)) stage = effect)
    (naps : Nat) :
    executor.resume runtime call (naps + 1) =
      (executor.took runtime stage effect).resume runtime effect.call (napsAfter naps stage) := by
  subst acted
  cases stage with
  | charging place => exact resume_charging runtime standing (naps + 1)
  | blocked place => exact resume_blocked runtime standing naps
  | arriving =>
      have same := resume_stageFrom runtime executor rfl
        { call with start := runtime.now executor.state } 0 patience
      simp only [act, took, List.append_nil, woken]
      refine Eq.trans ?_ same.symm
      simp only [resume, standing]
  | leaving =>
      have left : executor.resume runtime call (naps + 1) =
          executor.finish runtime call.start call.slept := by
        simp only [resume, standing]
      rw [left]
      rfl

end Executor

/-! ## One call -/

namespace Run

/-- What a step reports is on record afterwards, whether the call then sleeps or not. -/
theorem events_of_next {run next : Run} (awake : run.top.pending = [])
    (moved : run.next = .inl next) :
    next.world.events =
      (run.world.limiter.step run.top.call run.world.reading).events.reverse ++
        run.world.events := by
  cases step_of_next moved with
  | move clock due noNap =>
      rw [awake] at due
      cases due
  | begin due =>
      rw [awake] at due
      cases due
  | goOn awake standing notBlocked => rfl
  | @sleep tier awake standing =>
      obtain ⟨⟨clock, script, slept, -⟩, -⟩ := sleep_eq (run.world.stepCall run.top.call).1
        (run.world.stepCall run.top.call).2 tier
      rw [slept]
      rfl
  | back awake returned below => rfl

end Run

namespace Executor

variable {σ : Type} (runtime : Runtime σ)

/-- An awaited call and a run that nobody disturbs have come equally far: they act on the same
limiter, take their next reading at the same instant, and have reported the same. -/
structure Abreast (executor : Executor σ) (run : Run) (stage : Stage) : Prop where
  lone : run.Lone executor.limiter run.world.clock run.top.call
  standing : run.top.call.progress = .underway stage
  now_eq : runtime.now (executor.woken runtime stage) = run.world.clock.now
  events_eq : executor.events = run.world.events.reverse

namespace Abreast

variable {runtime} {executor : Executor σ} {run : Run} {stage : Stage} {effect : Effect}

/-- Both take the same step. What it does to the world of the run it does to the executor. -/
theorem step_eq (abreast : Abreast runtime executor run stage)
    (acted : executor.limiter.act run.top.call run.world.clock.now stage = effect) :
    (run.world.stepCall run.top.call).2 = effect.call ∧
      (executor.took runtime stage effect).limiter =
        (run.world.stepCall run.top.call).1.limiter ∧
      runtime.now (executor.took runtime stage effect).state =
        (run.world.stepCall run.top.call).1.clock.now ∧
      (executor.took runtime stage effect).events =
        (run.world.stepCall run.top.call).1.events.reverse := by
  have stepped := (step_eq_act executor.limiter run.world.clock.now abreast.standing).trans acted
  obtain ⟨gone, shows, -, -, came⟩ := abreast.lone.stepCall_eq stepped
  have reading : run.world.reading = some run.world.clock.now := by
    rw [World.reading, abreast.lone.works]
  have reported : (run.world.limiter.step run.top.call run.world.reading).events =
      effect.events := by
    rw [abreast.lone.limiter_eq, reading, stepped]
  refine ⟨came, gone.symm, ?_, ?_⟩
  · rw [shows]
    exact abreast.now_eq
  · show executor.events ++ effect.events =
      ((run.world.limiter.step run.top.call run.world.reading).events.reverse ++
        run.world.events).reverse
    rw [reported, List.reverse_append, List.reverse_reverse, abreast.events_eq]

/-- The call goes on to a stage where it need not sleep. -/
theorem goesOn (abreast : Abreast runtime executor run stage)
    (acted : executor.limiter.act run.top.call run.world.clock.now stage = effect) {later : Stage}
    (reached : effect.call.progress = .underway later)
    (notBlocked : ∀ place, later ≠ .blocked place) :
    ∃ next, run.next = .inl next ∧ next.top.call = effect.call ∧
      next.world.clock = run.world.clock ∧
      Abreast runtime (executor.took runtime stage effect) next later := by
  have stepped := (step_eq_act executor.limiter run.world.clock.now abreast.standing).trans acted
  obtain ⟨-, -, shows, events⟩ := abreast.step_eq acted
  obtain ⟨next, moved, lone⟩ := abreast.lone.goesOn stepped reached notBlocked
  have record := Run.events_of_next abreast.lone.awake moved
  refine ⟨next, moved, lone.call_eq, lone.clock_eq, ?_⟩
  refine ⟨lone.clock_eq.symm ▸ lone.call_eq.symm ▸ lone, lone.call_eq.symm ▸ reached, ?_, ?_⟩
  · have awake : (executor.took runtime stage effect).woken runtime later =
        (executor.took runtime stage effect).state := by
      cases later with
      | blocked place => exact absurd rfl (notBlocked place)
      | _ => rfl
    rw [awake, lone.clock_eq]
    exact shows
  · rw [events, record]
    rfl

/-- The call falls asleep, and the next reading is taken when the nap is over. -/
theorem sleeps (virtual : runtime.Virtual) (abreast : Abreast runtime executor run stage)
    (acted : executor.limiter.act run.top.call run.world.clock.now stage = effect) {place : Nat}
    (reached : effect.call.progress = .underway (.blocked place)) :
    ∃ next, run.next = .inl next ∧ next.top.call = effect.call ∧
      next.world.clock.naps.length = run.world.clock.naps.length + 1 ∧
      Abreast runtime (executor.took runtime stage effect) next (.blocked place) := by
  have stepped := (step_eq_act executor.limiter run.world.clock.now abreast.standing).trans acted
  obtain ⟨-, -, shows, events⟩ := abreast.step_eq acted
  obtain ⟨next, moved, lone⟩ := abreast.lone.dozesOff stepped reached
  have record := Run.events_of_next abreast.lone.awake moved
  refine ⟨next, moved, lone.call_eq, by rw [lone.clock_eq]; rfl, ?_⟩
  refine ⟨lone.clock_eq.symm ▸ lone.call_eq.symm ▸ lone, lone.call_eq.symm ▸ reached, ?_, ?_⟩
  · rw [woken, virtual.now_sleep, shows, lone.clock_eq]
    rfl
  · rw [events, record]
    rfl

/-- What a lone call comes to, if it ends, it comes to as well when it is awaited, from any stage
on. The induction is on the steps of the run; the naps before the awaited call are enough, since
each of them is on record. -/
theorem resume_eq (virtual : runtime.Virtual) {steps : Nat} {after : World} {ending : Ending}
    (abreast : Abreast runtime executor run stage) (finished : run.finish steps = (after, ending))
    (ended : ending ≠ .unfinished) {naps : Nat} (few : naps ≤ patience)
    (enough : after.clock.naps.length < run.world.clock.naps.length + naps) :
    ∃ last, executor.resume runtime run.top.call naps = (last, ending) ∧
      last.limiter = after.limiter ∧ runtime.now last.state = after.clock.now ∧
      last.events = after.events.reverse := by
  induction steps generalizing run stage executor naps with
  | zero =>
      cases finished
      exact absurd rfl ended
  | succ steps ih =>
      have more : run.world.clock.naps.length ≤ after.clock.naps.length := by
        have kept := (Run.naps_suffix_finish (steps + 1) run).length_le
        rwa [finished] at kept
      obtain ⟨naps, rfl⟩ : ∃ fewer, naps = fewer + 1 := Nat.exists_eq_succ_of_ne_zero (by omega)
      obtain ⟨effect, acted⟩ : ∃ effect,
        executor.limiter.act run.top.call run.world.clock.now stage = effect := ⟨_, rfl⟩
      have left := resume_act runtime abreast.standing (abreast.now_eq.symm ▸ acted) naps
      obtain ⟨came, gone, shows, events⟩ := abreast.step_eq acted
      rw [Run.finish] at finished
      rw [left]
      cases reached : effect.call.progress with
      | failed stage' cause =>
          rw [Run.next_of_fails abreast.lone.awake (by rw [came, reached])] at finished
          cases finished
          exact ⟨_, by rw [resume, reached], gone, shows, events⟩
      | returned delay =>
          rw [Run.next_of_returns abreast.lone.awake abreast.lone.alone (by rw [came, reached])]
            at finished
          cases finished
          exact ⟨_, by rw [resume, reached], gone, shows, events⟩
      | underway later =>
          by_cases blocked : ∃ place, later = .blocked place
          · obtain ⟨place, rfl⟩ := blocked
            obtain ⟨next, moved, same, noted, abreast'⟩ := abreast.sleeps virtual acted reached
            have room : naps ≤ napsAfter naps stage ∧ napsAfter naps stage ≤ patience := by
              cases stage <;> simp only [napsAfter] <;> omega
            rw [moved] at finished
            rw [← same]
            exact ih abreast' finished room.2 (by omega)
          · have notBlocked : ∀ place, later ≠ .blocked place := fun place here =>
              blocked ⟨place, here⟩
            obtain ⟨next, moved, same, stands, abreast'⟩ := abreast.goesOn acted reached notBlocked
            rw [moved] at finished
            rw [← same, resume_of_ne_blocked runtime abreast'.standing notBlocked _ (naps + 1)]
            exact ih abreast' finished few (by rw [stands]; exact enough)

end Abreast

end Executor

namespace World

/-- What is slept in the first call of a row is slept in the row. -/
theorem asleep_control_le_controlTimes (world : World) (times : Nat) :
    world.control.1.clock.asleep ≤ (world.controlTimes (times + 1)).1.clock.asleep := by
  cases ended : world.control.2 with
  | returned delay =>
      rw [controlTimes_of_returned ended]
      cases times with
      | zero => exact Nat.le_refl _
      | succ times =>
          exact Nat.le_trans world.control.1.asleep_le_control
            (asleep_control_le_controlTimes _ times)
  | failed cause => rw [controlTimes_of_stopped ended (by simp)]
  | unfinished => rw [controlTimes_of_stopped ended (by simp)]

end World

namespace Executor

section Row

variable {σ : Type} (runtime : Runtime σ)

theorem controlTimes_of_returned {executor : Executor σ} {delay : UInt64}
    (returned : (executor.control runtime).2 = .returned delay) (times : Nat) :
    executor.controlTimes runtime (times + 1) =
      (((executor.control runtime).1.controlTimes runtime times).1,
        delay :: ((executor.control runtime).1.controlTimes runtime times).2.1,
        ((executor.control runtime).1.controlTimes runtime times).2.2) := by
  rw [controlTimes]
  generalize executor.control runtime = called at returned ⊢
  obtain ⟨next, ending⟩ := called
  cases returned
  rfl

theorem apply_control (executor : Executor σ) (times : Nat) :
    executor.apply runtime (.control times) =
      (({ executor with events := [] }.controlTimes runtime times).1,
        Reply.ofRow ({ executor with events := [] }.controlTimes runtime times).2.1
          ({ executor with events := [] }.controlTimes runtime times).2.2) := rfl

/-- An executor and a world in which nobody disturbs a call: both hold the same limiter, whose rules
can be enforced, show the same instant, and have the same on record. -/
structure Beside (executor : Executor σ) (world : World) : Prop where
  limiter_eq : executor.limiter = world.limiter
  now_eq : runtime.now executor.state = world.clock.now
  events_eq : executor.events = world.events.reverse
  unscripted : world.script = []
  works : world.answers = none
  enforceable : ∀ rule ∈ world.limiter.rules, rule.Enforceable

end Row

namespace Beside

variable {σ : Type} {runtime : Runtime σ} {executor : Executor σ} {world : World}

/-- A call that arrives, awaited and not. -/
theorem abreast (beside : executor.Beside runtime world) :
    executor.Abreast runtime world.opening .arriving :=
  ⟨beside.limiter_eq ▸ World.lone_opening beside.unscripted beside.works, rfl, beside.now_eq,
    beside.events_eq⟩

/-- Awaited or slept through, a call returns with the same delay, unless the clock goes round
before, and the executor and the world stay beside each other. -/
theorem control (virtual : runtime.Virtual) (beside : executor.Beside runtime world)
    (fits : world.clock.now.toNat + world.control.1.clock.asleep < 2 ^ 64 + world.clock.asleep) :
    ∃ delay, (executor.control runtime).2 = .returned delay ∧ world.control.2 = .returned delay ∧
      (executor.control runtime).1.Beside runtime world.control.1 ∧
      world.control.1.clock.now.toNat + world.clock.asleep =
        world.clock.now.toNat + world.control.1.clock.asleep := by
  have enforceable : ∀ tier ∈ world.limiter.tiers, tier.rule.Enforceable := fun tier listed =>
    beside.enforceable _ (List.mem_map_of_mem listed)
  obtain ⟨counts, nexts, last, after, delay, passage, short, -, served⟩ :=
    World.exists_served_of_fits enforceable beside.unscripted beside.works fits
  have finished := served.control_eq
  rw [World.control_eq] at finished
  have enough : after.clock.naps.length < world.clock.naps.length + patience := by
    have few := Tier.sum_le_sleepTime (Nat.le_of_eq passage.length_eq.1)
    have room : patience = 2 ^ 64 := rfl
    rw [served.clock_eq, passage.length_naps_eq]
    omega
  obtain ⟨later, awaited, sameLimiter, sameTime, sameEvents⟩ :=
    beside.abreast.resume_eq virtual finished (by simp) (Nat.le_refl _) enough
  have returned : executor.control runtime = (later, .returned delay) :=
    (control_eq runtime executor).trans awaited
  have shows := passage.toNat_now_eq short
  have slept := passage.asleep_eq
  rw [returned, served.control_eq]
  refine ⟨delay, rfl, rfl,
    ⟨sameLimiter, sameTime, sameEvents, served.unscripted, served.works, ?_⟩, ?_⟩
  · rw [Limiter.rules, served.tiers_eq, passage.rules_eq]
    exact beside.enforceable
  · rw [served.clock_eq]
    omega

/-- A row of calls comes to the same, unless the clock goes round. -/
theorem controlTimes (virtual : runtime.Virtual) (beside : executor.Beside runtime world)
    (times : Nat)
    (fits : world.clock.now.toNat + (world.controlTimes times).1.clock.asleep <
      2 ^ 64 + world.clock.asleep) :
    ∃ delays, (executor.controlTimes runtime times).2 = (delays, none) ∧
      (world.controlTimes times).2 = (delays, none) ∧
      (executor.controlTimes runtime times).1.Beside runtime (world.controlTimes times).1 ∧
      (world.controlTimes times).1.clock.now.toNat + world.clock.asleep =
        world.clock.now.toNat + (world.controlTimes times).1.clock.asleep := by
  induction times generalizing executor world with
  | zero => exact ⟨[], rfl, rfl, beside, rfl⟩
  | succ times ih =>
      have first := world.asleep_control_le_controlTimes times
      obtain ⟨delay, awaited, slept, still, elapsed⟩ := beside.control virtual (by omega)
      rw [World.controlTimes_of_returned slept] at fits ⊢
      rw [controlTimes_of_returned runtime awaited]
      obtain ⟨delays, awaits, sleeps, last, passed⟩ := ih still (by simp only at fits; omega)
      refine ⟨delay :: delays, ?_, ?_, last, ?_⟩
      · rw [awaits]
      · rw [sleeps]
      · simp only
        omega

end Beside

/-! ## Whole runs -/

/-- What is asked of an executor, asked of a session. -/
def Op.command : Op → Command
  | .control times => { op := .control times }
  | .advance millis => { op := .advance (.ofMillis millis) }

/-- An answer of an executor as a session gives it. -/
def Reply.told : Reply → Limiter.Reply
  | .nothing => .nothing
  | .delays row => .delays row
  | .failure cause => .failure cause
  | .unfinished => .unfinished

/-- The milliseconds that an operation lets pass, apart from those that callers sleep. -/
def Op.pause : Op → Nat
  | .control _ => 0
  | .advance millis => millis.toNat

end Executor

/-- The milliseconds slept during an operation. -/
def Report.asleep (report : Report) : Nat := (report.naps.map (·.millis.toNat)).sum

theorem asleep_report (session : Session) (reply : Reply) :
    (session.report reply).asleep = session.world.clock.asleep := by
  show (session.world.clock.naps.reverse.map _).sum = _
  rw [List.map_reverse, List.sum_reverse]
  rfl

namespace Executor.Beside

variable {σ : Type} {runtime : Runtime σ} {executor : Executor σ} {session : Session}

/-- An operation answers the same, and the executor and the session stay beside each other. -/
theorem perform (virtual : runtime.Virtual) (beside : executor.Beside runtime session.world)
    (usable : 0 < session.handles) (op : Op)
    (fits : session.world.clock.now.toNat + op.pause +
      (session.perform op.command).2.asleep < 2 ^ 64) :
    (executor.apply runtime op).1.Beside runtime (session.perform op.command).1.world ∧
      (executor.apply runtime op).2.told = (session.perform op.command).2.reply ∧
      ((executor.apply runtime op).2 = .nothing ∨
        ∃ delays, (executor.apply runtime op).2 = .delays delays) ∧
      (executor.apply runtime op).1.events = (session.perform op.command).2.events ∧
      (session.perform op.command).1.handles = session.handles ∧
      (session.perform op.command).1.world.clock.now.toNat =
        session.world.clock.now.toNat + op.pause + (session.perform op.command).2.asleep := by
  have cleared : { executor with events := [] }.Beside runtime session.world.cleared :=
    ⟨beside.limiter_eq, beside.now_eq, rfl, beside.unscripted, beside.works, beside.enforceable⟩
  have rested : session.world.cleared.clock.asleep = 0 := rfl
  have shown : session.world.cleared.clock.now = session.world.clock.now := rfl
  cases op with
  | control times =>
      rw [Op.command, Op.pause, Session.perform_of_lt usable, Session.apply_control,
        asleep_report] at fits
      rw [Op.command, Op.pause, Session.perform_of_lt usable, Session.apply_control, apply_control,
        asleep_report]
      obtain ⟨delays, awaited, answered, still, elapsed⟩ := cleared.controlTimes virtual times (by
        rw [rested, shown]
        omega)
      rw [rested, shown] at elapsed
      refine ⟨still, ?_, Or.inr ⟨delays, ?_⟩, still.events_eq, rfl, by omega⟩
      · rw [awaited, answered]
        rfl
      · rw [awaited]
        rfl
  | advance millis =>
      have span : (Duration.ofMillis millis).millis = millis := Duration.millis_ofMillis millis
      rw [Op.command, Session.perform_of_lt usable, Session.apply_advance, asleep_report] at fits ⊢
      have moved : (session.world.clock.now + millis).toNat =
          session.world.clock.now.toNat + millis.toNat := by
        rw [UInt64.toNat_add]
        exact Nat.mod_eq_of_lt (Nat.lt_of_le_of_lt (Nat.le_add_right _ _) fits)
      refine ⟨⟨cleared.limiter_eq, ?_, rfl, cleared.unscripted, cleared.works,
        cleared.enforceable⟩, rfl, Or.inl rfl, rfl, Session.handles_mk _ _, ?_⟩
      · show runtime.now (runtime.advance millis executor.state) =
          session.world.clock.now + (Duration.ofMillis millis).millis
        rw [span, virtual.now_advance, beside.now_eq]
      · show (session.world.clock.now + (Duration.ofMillis millis).millis).toNat = _
        rw [span, moved]
        rfl

/-- Operation by operation, an executor and a session stay beside each other. -/
theorem course (virtual : runtime.Virtual) (beside : executor.Beside runtime session.world)
    (usable : 0 < session.handles) (ops : List Op)
    (fits : session.world.clock.now.toNat + (ops.map Op.pause).sum +
      ((session.course (ops.map Op.command)).map (·.2.asleep)).sum < 2 ^ 64) :
    (executor.course runtime ops).map (fun after =>
        (after.2.told, runtime.now after.1.state, after.1.limiter, after.1.events)) =
        (session.course (ops.map Op.command)).map (fun after =>
          (after.2.reply, after.1.world.clock.now, after.1.world.limiter, after.2.events)) ∧
      ∀ after ∈ executor.course runtime ops,
        after.2 = .nothing ∨ ∃ delays, after.2 = .delays delays := by
  induction ops generalizing executor session with
  | nil => exact ⟨rfl, by simp [Executor.course]⟩
  | cons op ops ih =>
      rw [List.map_cons, List.sum_cons, List.map_cons, Session.course, List.map_cons,
        List.sum_cons] at fits
      obtain ⟨still, told, answered, events, kept, elapsed⟩ :=
        beside.perform virtual usable op (by omega)
      obtain ⟨rest, answers⟩ := ih still (kept ▸ usable) (by omega)
      refine ⟨?_, List.forall_mem_cons.mpr ⟨answered, answers⟩⟩
      rw [List.map_cons, Session.course, List.map_cons, Executor.course, List.map_cons, rest, told,
        still.now_eq, still.limiter_eq, events]

end Executor.Beside

/-- A limiter that was built is called and time passes, in any order, on a clock that does not go
round. Whether the calls are awaited on some runtime under virtual time or slept through on a clock
moved by hand, each of them returns, and after every operation the answers, the instant, the whole
limiter, that is its tiers with their counts and windows, its lock and its metrics, and what has
been reported are the same. -/
theorem awaited_eq_slept {σ : Type} {runtime : Runtime σ} (virtual : runtime.Virtual)
    {settings : List Setting} {start : UInt64} {limiter : Limiter}
    (built : build settings start = .ok limiter) {state : σ} (starts : runtime.now state = start)
    (ops : List Executor.Op)
    (fits : start.toNat + (ops.map Executor.Op.pause).sum +
      (((Session.start limiter start).performAll (ops.map Executor.Op.command)).2.map
        Report.asleep).sum < 2 ^ 64) :
    let awaited := Executor.course runtime { limiter, state } ops
    let slept := (Session.start limiter start).course (ops.map Executor.Op.command)
    awaited.map (fun after =>
        (after.2.told, runtime.now after.1.state, after.1.limiter, after.1.events)) =
        slept.map (fun after =>
          (after.2.reply, after.1.world.clock.now, after.1.world.limiter, after.2.events)) ∧
      ∀ after ∈ awaited, after.2 = .nothing ∨ ∃ delays, after.2 = .delays delays := by
  intro awaited slept
  have beside : Executor.Beside runtime { limiter, state } (Session.start limiter start).world :=
    ⟨rfl, starts, rfl, rfl, rfl, enforceable_of_build built⟩
  rw [← Session.reports_course, List.map_map] at fits
  exact beside.course virtual Nat.one_pos ops fits

/-- Three calls, a pause, and two more calls. -/
def threeThenTwo : List Executor.Op := [.control 3, .advance 250, .control 2]

/-- Tiers for two units a second and for two units in two seconds. -/
def twoAndTwo : Limiter := ofRules [⟨2, 1000⟩, ⟨2, 2000⟩] 500

/-- The answer, the instant, the limiter and the report after each of the operations. -/
def threeThenTwoOutcomes : List (Reply × UInt64 × Limiter × List LogEvent) :=
  [(.delays [0, 0, 2100], 2600,
      { tiers := [⟨⟨2, 1000⟩, 1, 1600⟩, ⟨⟨2, 2000⟩, 1, 2600⟩], metrics := ⟨3, 1, 2100⟩ },
      [.tierCredited 0 2 1, .tierCredited 1 2 1, .callerDelayed 2100]),
    (.nothing, 2850,
      { tiers := [⟨⟨2, 1000⟩, 1, 1600⟩, ⟨⟨2, 2000⟩, 1, 2600⟩], metrics := ⟨3, 1, 2100⟩ }, []),
    (.delays [0, 1900], 4750,
      { tiers := [⟨⟨2, 1000⟩, 1, 2950⟩, ⟨⟨2, 2000⟩, 1, 4750⟩], metrics := ⟨5, 2, 4000⟩ },
      [.tierCredited 0 2 1, .tierCredited 1 2 1, .callerDelayed 1900])]

/-- The naps of the third call and of the fifth, in milliseconds. Each is blocked on the first tier
and then on the second. -/
def threeThenTwoNaps : List UInt64 :=
  List.replicate 11 100 ++ List.replicate 5 200 ++ 100 :: List.replicate 9 200

/-- The operations on a clock moved by hand. -/
def threeThenTwoSlept : List (Session × Report) :=
  (Session.start twoAndTwo 500).course (threeThenTwo.map Executor.Op.command)

/-- The operations awaited under virtual time. -/
def threeThenTwoAwaited : List (Executor VirtualTime × Executor.Reply) :=
  Executor.course VirtualTime.runtime { limiter := twoAndTwo, state := { epoch := 500 } }
    threeThenTwo

/-- Awaited and slept through, the calls come to the same, down to the naps. -/
theorem awaited_eq_slept_threeThenTwo :
    VirtualTime.runtime.Virtual ∧
      build [.list [⟨2, 1000⟩, ⟨2, 2000⟩]] 500 = .ok twoAndTwo ∧
      VirtualTime.runtime.now { epoch := 500 } = 500 ∧
      (500 : UInt64).toNat + (threeThenTwo.map Executor.Op.pause).sum +
        (((Session.start twoAndTwo 500).performAll (threeThenTwo.map Executor.Op.command)).2.map
          Report.asleep).sum < 2 ^ 64 ∧
      threeThenTwoSlept.map (fun after =>
          (after.2.reply, after.1.world.clock.now, after.1.world.limiter, after.2.events)) =
        threeThenTwoOutcomes ∧
      threeThenTwoSlept.flatMap (·.2.naps.map Duration.millis) = threeThenTwoNaps ∧
      threeThenTwoAwaited.map (fun after =>
          (after.2.told, VirtualTime.runtime.now after.1.state, after.1.limiter, after.1.events)) =
        threeThenTwoOutcomes ∧
      (threeThenTwoAwaited.getLast?.map fun after =>
          after.1.state.naps.reverse.map Duration.millis) = some threeThenTwoNaps := by
  have built : build [.list [⟨2, 1000⟩, ⟨2, 2000⟩]] 500 = .ok twoAndTwo := by decide +kernel
  have fits : (500 : UInt64).toNat + (threeThenTwo.map Executor.Op.pause).sum +
      (((Session.start twoAndTwo 500).performAll (threeThenTwo.map Executor.Op.command)).2.map
        Report.asleep).sum < 2 ^ 64 := by decide +kernel
  have slept : threeThenTwoSlept.map (fun after =>
      (after.2.reply, after.1.world.clock.now, after.1.world.limiter, after.2.events)) =
      threeThenTwoOutcomes := by decide +kernel
  have starts : VirtualTime.runtime.now { epoch := 500 } = 500 := rfl
  have same :=
    (awaited_eq_slept VirtualTime.virtual_runtime built starts threeThenTwo fits).1
  exact ⟨VirtualTime.virtual_runtime, built, starts, fits, slept, by decide +kernel,
    same.trans slept, by decide +kernel⟩

end FlowGate.Limiter
