/-
# Calls on a clock that fails

A clock may fail at any reading: while a call arrives, while it holds the tiers to charge one or to
look again, while it measures its delay, or inside a nested call whose failure takes the sleepers
around it along. Wherever that happens, what is left is the world of the same call on a clock that
works, as it stood just before that reading: the two runs do the same, step by step, up to there.
The failing step itself leaves at most a trace in the lock, if the call had it in its hands, and
nobody who comes later minds that.

What the metrics show then follows from the course of the call that works. A step of it records a
delay exactly when it hands that delay to the sleeper around it.
-/

import FlowGate.Proofs.Limiter.Lock
import FlowGate.Proofs.Limiter.Record

namespace FlowGate.Limiter

/-! ## The same steps on both clocks -/

theorem step_of_not_reads (limiter : Limiter) {call : Call} (blind : ¬ call.reads = true)
    (first second : Option UInt64) : limiter.step call first = limiter.step call second := by
  cases standing : call.progress with
  | underway stage => simp only [step, standing, if_neg blind]
  | returned delay => simp only [step, standing]
  | failed stage cause => simp only [step, standing]

namespace World

/-- The same world with a clock that answers so many readings and then fails. -/
def failingAfter (world : World) (answers : Nat) : World := { world with answers := some answers }

/-- As long as the clock has an answer for it, a step does not notice that the clock is to fail. -/
theorem stepCall_failingAfter {world : World} {call : Call} {answers : Nat}
    (works : world.answers = none) (left : call.reads = true → world.readings < answers) :
    (world.failingAfter answers).stepCall call =
      ((world.stepCall call).1.failingAfter answers, (world.stepCall call).2) := by
  by_cases reads : call.reads = true
  · have same : (world.failingAfter answers).reading = world.reading := by
      simp [reading, failingAfter, works, left reads]
    simp only [stepCall, same]
    rfl
  · have same := step_of_not_reads world.limiter reads
      (world.failingAfter answers).reading world.reading
    have limiter : (world.failingAfter answers).limiter = world.limiter := rfl
    simp only [stepCall, limiter, same, reads, Bool.false_and]
    rfl

theorem sleep_failingAfter (world : World) (call : Call) (tier answers : Nat) :
    (world.failingAfter answers).sleep call tier =
      ((world.sleep call tier).1.failingAfter answers, (world.sleep call tier).2) := by
  cases scripted : world.script <;> simp only [sleep, failingAfter, scripted]

end World

namespace Run

/-- The same run with a clock that answers so many readings and then fails. -/
def failingAfter (run : Run) (answers : Nat) : Run :=
  { run with world := run.world.failingAfter answers }

theorem settle_failingAfter (world : World) (call : Call) (below : List Frame) (answers : Nat) :
    settle (world.failingAfter answers) call below =
      (settle world call below).map (·.failingAfter answers)
        fun ended => (ended.1.failingAfter answers, ended.2) := by
  rw [settle, settle]
  cases call.progress with
  | failed stage cause => rfl
  | returned delay =>
      cases below with
      | nil => rfl
      | cons frame frames => rfl
  | underway stage =>
      cases stage with
      | arriving => rfl
      | charging tier => rfl
      | leaving => rfl
      | blocked tier =>
          simp only [World.sleep_failingAfter]
          rfl

theorem next_failingAfter_of_awake {run : Run} {answers : Nat} (awake : run.top.pending = []) :
    (run.failingAfter answers).next =
      settle ((run.world.failingAfter answers).stepCall run.top.call).1
        ((run.world.failingAfter answers).stepCall run.top.call).2 run.below := by
  have same : (run.failingAfter answers).top.pending = [] := awake
  rw [next_of_awake same]
  rfl

/-- As long as the clock has an answer for it, a step does the same whether the clock is to fail or
not. -/
theorem next_failingAfter {run : Run} {answers : Nat} (works : run.world.answers = none)
    (left : run.Reads → run.world.readings < answers) :
    (run.failingAfter answers).next =
      run.next.map (·.failingAfter answers) fun ended =>
        (ended.1.failingAfter answers, ended.2) := by
  cases due : run.top.pending with
  | cons incident pending =>
      cases incident <;> simp [next, failingAfter, due, World.failingAfter]
  | nil =>
      rw [next_of_awake due, next_failingAfter_of_awake due,
        World.stepCall_failingAfter works fun reads => left ⟨due, reads⟩]
      exact settle_failingAfter _ _ _ _

/-- Whether the call that acts next has the lock in its hands when it reads the clock. -/
def holdsLock (run : Run) : Bool :=
  match run.top.call.progress with
  | .underway stage => stage.locks
  | _ => false

/-- The world that is left when the reading of the next step fails: as it stood, with the lock
poisoned if it was held. -/
def unwound (run : Run) : World :=
  run.world.flagged (run.world.limiter.poisoned || run.holdsLock)

/-- A reading that the clock has no answer for ends the outermost call. The sleepers around the call
that met it do not hold the lock, so no more becomes of it. -/
theorem next_of_noAnswer {run : Run} {answers : Nat} (reads : run.Reads)
    (spent : run.world.readings = answers) :
    (run.failingAfter answers).next =
      .inr (run.unwound.failingAfter answers, .failed .clockFailed) := by
  obtain ⟨due, asks⟩ := reads
  have silent : (run.world.failingAfter answers).reading = none := by
    simp [World.reading, World.failingAfter, spent]
  rw [next_failingAfter_of_awake due]
  cases standing : run.top.call.progress with
  | returned delay => simp [Call.reads, standing] at asks
  | failed stage cause => simp [Call.reads, standing] at asks
  | underway stage =>
      have held : run.holdsLock = stage.locks := by simp only [holdsLock, standing]
      have fails : (run.world.failingAfter answers).stepCall run.top.call =
          (run.unwound.failingAfter answers, run.top.call.fail stage .clockFailed) := by
        simp [World.stepCall, step, standing, asks, silent, unwound_eq_flagged, unwound, held]
        rfl
      rw [fails]
      rfl

/-- A step for which the clock has an answer leaves no more readings behind than it answers. -/
theorem readings_add_taken_le {run : Run} {answers : Nat} (few : run.world.readings ≤ answers)
    (awake : run.top.pending = []) (left : run.Reads → run.world.readings < answers) :
    run.world.readings + taken run.world run.top.call ≤ answers := by
  by_cases reads : run.top.call.reads = true
  · have := left ⟨awake, reads⟩
    have : taken run.world run.top.call ≤ 1 := by
      rw [taken]
      split <;> omega
    omega
  · rw [taken_of_not_reads _ reads]
    exact few

/-- A run whose clock is to fail does what the same run does on a clock that works, until that run
is about to take a reading too many; there it ends. -/
theorem finish_failingAfter {answers : Nat} (steps : Nat) {run : Run}
    (works : run.world.answers = none) (few : run.world.readings ≤ answers) :
    ((run.finish steps).1.readings ≤ answers ∧
        (run.failingAfter answers).finish steps =
          ((run.finish steps).1.failingAfter answers, (run.finish steps).2)) ∨
      ∃ last ∈ run.course steps, last.Reads ∧ last.world.readings = answers ∧
        (run.failingAfter answers).finish steps =
          (last.unwound.failingAfter answers, .failed .clockFailed) := by
  induction steps generalizing run with
  | zero => exact Or.inl ⟨few, rfl⟩
  | succ steps ih =>
      by_cases stops : run.Reads ∧ run.world.readings = answers
      · obtain ⟨reads, spent⟩ := stops
        refine Or.inr ⟨run, List.mem_cons_self, reads, spent, ?_⟩
        rw [finish, next_of_noAnswer reads spent]
      · have left : run.Reads → run.world.readings < answers := fun reads =>
          Nat.lt_of_le_of_ne few fun spent => stops ⟨reads, spent⟩
        rw [finish, finish, course, next_failingAfter works left]
        cases moved : run.next with
        | inr result =>
            obtain ⟨after, ending⟩ := result
            obtain ⟨awake, rfl, -⟩ := next_eq_inr moved
            exact Or.inl ⟨readings_add_taken_le few awake left, rfl⟩
        | inl next =>
            have step := step_of_next moved
            have still : next.world.readings ≤ answers := by
              rcases step.readings_eq with ⟨-, same⟩ | ⟨awake, counted⟩
              · rw [same]
                exact few
              · rw [counted]
                exact readings_add_taken_le few awake left
            rcases ih (step.answers_eq.trans works) still with ⟨rest, agrees⟩ | ⟨last, passed, rest⟩
            · exact Or.inl ⟨rest, agrees⟩
            · exact Or.inr ⟨last, List.mem_cons_of_mem _ passed, rest⟩

/-! ## What is recorded along a course -/

theorem Step.underway {run next : Run} (step : run.Step next) (underway : run.Underway) :
    next.Underway := by
  have around : ∀ frame ∈ run.below, ∃ stage, frame.call.progress = .underway stage :=
    fun frame listed => underway frame (List.mem_cons_of_mem _ listed)
  cases step with
  | move clock due noNap =>
      exact List.forall_mem_cons.mpr ⟨underway run.top List.mem_cons_self, around⟩
  | begin due =>
      refine List.forall_mem_cons.mpr ⟨⟨.arriving, rfl⟩, List.forall_mem_cons.mpr ⟨?_, around⟩⟩
      exact underway run.top List.mem_cons_self
  | @goOn stage awake standing notBlocked =>
      exact List.forall_mem_cons.mpr ⟨⟨stage, standing⟩, around⟩
  | @sleep tier awake standing =>
      have same := (sleep_eq (run.world.stepCall run.top.call).1
        (run.world.stepCall run.top.call).2 tier).2
      refine List.forall_mem_cons.mpr ⟨⟨.blocked tier, ?_⟩, around⟩
      rw [same]
      exact standing
  | @back delay frame frames awake returned below => rwa [below] at around

end Run

/-- A step of a call on its way records a delay exactly if the call returns with it. -/
theorem metrics_stepCall (world : World) {call : Call} {stage : Stage}
    (standing : call.progress = .underway stage) :
    (world.stepCall call).1.limiter.metrics =
      world.limiter.metrics.after (world.stepCall call).2.progress :=
  metrics_step standing world.reading

namespace Run

/-- A step of a call that returns to a sleeper records the delay and hands it on; no other step
does either. -/
theorem Step.recorded {run next : Run} (step : run.Step next) (underway : run.Underway) :
    (next.world.nested = run.world.nested ∧
        next.world.limiter.metrics = run.world.limiter.metrics) ∨
      ∃ delay, next.world.nested = delay :: run.world.nested ∧
        next.world.limiter.metrics = run.world.limiter.metrics.record delay := by
  obtain ⟨stage, before⟩ := underway run.top List.mem_cons_self
  have recorded := metrics_stepCall run.world before
  cases step with
  | move clock due noNap => exact Or.inl ⟨rfl, rfl⟩
  | begin due => exact Or.inl ⟨rfl, rfl⟩
  | goOn awake standing notBlocked =>
      rw [standing] at recorded
      exact Or.inl ⟨rfl, recorded⟩
  | @sleep tier awake standing =>
      obtain ⟨⟨clock, script, slept, -⟩, -⟩ := sleep_eq (run.world.stepCall run.top.call).1
        (run.world.stepCall run.top.call).2 tier
      rw [standing] at recorded
      rw [slept]
      exact Or.inl ⟨rfl, recorded⟩
  | @back delay frame frames awake returned around =>
      rw [returned] at recorded
      exact Or.inr ⟨delay, rfl, recorded⟩

/-- The metrics after so many delays were recorded, the latest first. -/
def recordAll (metrics : Metrics) (delays : List UInt64) : Metrics :=
  delays.foldr (fun delay metrics => metrics.record delay) metrics

/-- In the course of a call, the calls that returned are those whose delays were handed on, and they
alone are recorded; every call on the stack is on its way still. -/
theorem recorded_of_mem_course {steps : Nat} {run last : Run} (passed : last ∈ run.course steps)
    (underway : run.Underway) :
    last.Underway ∧ ∃ delays, last.world.nested = delays ++ run.world.nested ∧
      last.world.limiter.metrics = recordAll run.world.limiter.metrics delays := by
  refine of_mem_course (fun now => now.Underway ∧ ∃ delays,
    now.world.nested = delays ++ run.world.nested ∧
      now.world.limiter.metrics = recordAll run.world.limiter.metrics delays)
    ?_ ⟨underway, [], rfl, rfl⟩ passed
  rintro before next step ⟨onWay, delays, nested, metrics⟩
  refine ⟨step.underway onWay, ?_⟩
  rcases step.recorded onWay with ⟨sameNested, sameMetrics⟩ | ⟨delay, moreNested, moreMetrics⟩
  · exact ⟨delays, sameNested.trans nested, sameMetrics.trans metrics⟩
  · exact ⟨delay :: delays, by rw [moreNested, nested]; rfl, by rw [moreMetrics, metrics]; rfl⟩

end Run

/-! ## What a failing clock leaves behind -/

namespace World

theorem underway_opening (world : World) : world.opening.Underway := by
  intro frame listed
  rw [opening, List.mem_singleton] at listed
  subst listed
  exact ⟨.arriving, rfl⟩

/-- A call whose clock fails after so many readings ends within these steps. -/
theorem finish_failingAfter_ne_unfinished {world : World} (works : world.answers = none)
    {answers steps : Nat} (enough : answers + 2 * world.scriptSize + 1 < steps) :
    ((world.opening.failingAfter answers).finish steps).2 ≠ .unfinished := by
  intro unfinished
  have long := Run.le_readings_of_unfinished unfinished
  have store : (world.opening.failingAfter answers).store = 2 * world.scriptSize + 1 := rfl
  have few : ((world.opening.failingAfter answers).finish steps).1.readings ≤ answers := by
    have started : world.opening.world.readings ≤ answers := Nat.zero_le _
    rcases Run.finish_failingAfter steps works started with ⟨few, agrees⟩ | ⟨last, -, -, -, fails⟩
    · rw [agrees]
      exact few
    · rw [fails] at unfinished
      cases unfinished
  omega

/-- A call is given that many steps. -/
theorem lt_patience_failingAfter (world : World) (answers : Nat) :
    answers + 2 * world.scriptSize + 1 < (world.failingAfter answers).patience := by
  have room : 4 * (1 + world.scriptSize) ≤
      UInt64.size * ((4 + world.limiter.tiers.length) * (1 + world.scriptSize)) :=
    calc
      4 * (1 + world.scriptSize) ≤ (4 + world.limiter.tiers.length) * (1 + world.scriptSize) :=
        Nat.mul_le_mul_right _ (Nat.le_add_right 4 _)
      _ ≤ _ := Nat.le_mul_of_pos_left _ (by decide)
  have patience : (world.failingAfter answers).patience =
      UInt64.size * ((4 + world.limiter.tiers.length) * (1 + world.scriptSize)) + answers := rfl
  rw [patience]
  omega

end World

/-- How a call on a failing clock ends is how its run ends, and then the clock works again. -/
theorem controlFailing_eq {world after : World} {answers steps : Nat} {ending : Ending}
    (works : after.answers = none) (enough : steps = (world.failingAfter answers).patience)
    (finished : (world.opening.failingAfter answers).finish steps =
      (after.failingAfter answers, ending)) :
    world.controlFailing answers = (after, ending) := by
  have same : (world.failingAfter answers).control = (after.failingAfter answers, ending) := by
    rw [World.control_eq, ← enough]
    exact finished
  rw [World.failingAfter] at same
  rw [World.controlFailing, same, World.failingAfter, ← works]

/-- A call whose clock fails after a number of readings, compared with the same call on a clock that
works, whatever the script does meanwhile. If that call ends with no more readings, the failing
clock goes unnoticed. Otherwise the call fails, and it leaves the very world of the other call as it
stood when this was about to take its next reading, but with the lock poisoned if that reading was
to be taken under the lock. By then exactly those nested calls are recorded that returned, and every
call on the stack was on its way. Whatever is done afterwards, by one session or by any number of
callers, comes out as if it had been done in the world of the other call, lock and all. -/
theorem controlFailing_eq_before_reading {world : World} (works : world.answers = none)
    (answers : Nat) :
    (∀ after ending, world.opening.Ends after ending → after.readings ≤ answers →
      world.controlFailing answers = (after, ending)) ∧
    ((∀ after ending, world.opening.Ends after ending → answers < after.readings) →
      ∃ steps, ∃ last ∈ world.opening.course steps,
        last.Reads ∧ last.world.readings = answers ∧
        world.controlFailing answers = (last.unwound, .failed .clockFailed) ∧
        last.Underway ∧
        (∃ delays, last.world.nested = delays ++ world.nested ∧
          last.world.limiter.metrics = Run.recordAll world.limiter.metrics delays) ∧
        (∀ handles later, ∃ flag,
          Session.performAll ⟨(world.controlFailing answers).1, handles⟩ later =
            ((Session.performAll ⟨last.world, handles⟩ later).1.flagged flag,
              (Session.performAll ⟨last.world, handles⟩ later).2)) ∧
        ∀ calls moves, ∃ flag,
          Crowd.play ⟨(world.controlFailing answers).1.limiter, calls⟩ moves =
            ((Crowd.play ⟨last.world.limiter, calls⟩ moves).1.flagged flag,
              (Crowd.play ⟨last.world.limiter, calls⟩ moves).2)) := by
  have started : world.opening.world.readings ≤ answers := Nat.zero_le _
  obtain ⟨steps, enough⟩ : ∃ steps, steps = (world.failingAfter answers).patience := ⟨_, rfl⟩
  have ended : ((world.opening.failingAfter answers).finish steps).2 ≠ .unfinished :=
    World.finish_failingAfter_ne_unfinished works
      (enough ▸ World.lt_patience_failingAfter world answers)
  constructor
  · rintro after ending ⟨needed, finished, notUnfinished⟩ few
    have worksAfter : after.answers = none := by
      have same := Run.answers_finish needed world.opening
      rw [finished] at same
      exact same.trans works
    rcases Run.finish_failingAfter needed works started with
      ⟨-, agrees⟩ | ⟨last, passed, reads, spent, -⟩
    · rw [finished] at agrees
      have ends : (world.opening.failingAfter answers).Ends (after.failingAfter answers) ending :=
        ⟨needed, agrees, notUnfinished⟩
      exact controlFailing_eq worksAfter enough (Run.finish_eq_of_ends ends ended)
    · -- The reading too many would have been counted.
      have worksLast : last.world.answers = none :=
        Run.of_mem_course (·.world.answers = none) (fun step same => step.answers_eq.trans same)
          works passed
      have counted := Run.readings_lt_of_mem_course passed worksLast reads
      rw [finished] at counted
      exact absurd (spent ▸ counted) (Nat.not_lt.mpr few)
  · intro many
    rcases Run.finish_failingAfter steps works started with
      ⟨few, agrees⟩ | ⟨last, passed, reads, spent, fails⟩
    · rw [agrees] at ended
      have more := many _ _ ⟨steps, rfl, ended⟩
      omega
    · have worksLast : last.unwound.answers = none :=
        Run.of_mem_course (·.world.answers = none) (fun step same => step.answers_eq.trans same)
          works passed
      have left := controlFailing_eq worksLast enough fails
      obtain ⟨onWay, recorded⟩ := Run.recorded_of_mem_course passed world.underway_opening
      refine ⟨steps, last, passed, reads, spent, left, onWay, recorded, fun handles later => ?_,
        fun calls moves => ?_⟩
      · rw [left]
        exact Session.performAll_flagged later ⟨last.world, handles⟩ _
      · rw [left]
        exact Crowd.play_flagged moves ⟨last.world.limiter, calls⟩ _

/-- A tier for one unit a second, which is consumed. While the caller sleeps another one calls, and
while this sleeps, too, the clock moves past two periods. -/
def callDuringNap : World where
  limiter := { tiers := [⟨⟨1, 1000⟩, 1, 0⟩] }
  clock := { now := 0 }
  script := [[.call], [.advance (.ofMillis 2500)]]

/-- Both calls together take eight readings. If the clock fails after six, the outer call fails when
it looks at the tier again: the lock is poisoned, and of the calls the nested one has returned by
then, and it alone is recorded. The call after that finds the tier over budget and sleeps, as it
would have done before. If the clock fails after seven, the tier has been dealt with and the lock is
sound. -/
theorem controlFailing_callDuringNap :
    callDuringNap.answers = none ∧
    (∃ after, callDuringNap.opening.Ends after (.returned 2500) ∧ after.readings = 8 ∧
      callDuringNap.controlFailing 8 = (after, .returned 2500)) ∧
    (callDuringNap.controlFailing 6).1.limiter =
      { tiers := [⟨⟨1, 1000⟩, 1, 2500⟩], poisoned := true, metrics := ⟨1, 1, 2500⟩ } ∧
    (callDuringNap.controlFailing 7).1.limiter =
      { tiers := [⟨⟨1, 1000⟩, 1, 2500⟩], poisoned := false, metrics := ⟨1, 1, 2500⟩ } ∧
    (∃ steps, ∃ last ∈ callDuringNap.opening.course steps,
      last.Reads ∧ last.world.readings = 6 ∧
      callDuringNap.controlFailing 6 = (last.unwound, .failed .clockFailed) ∧
      (Session.performAll ⟨last.world, 1⟩ [⟨0, .control 1⟩]).2 =
        (Session.performAll ⟨(callDuringNap.controlFailing 6).1, 1⟩ [⟨0, .control 1⟩]).2) ∧
    (Session.performAll ⟨(callDuringNap.controlFailing 6).1, 1⟩ [⟨0, .control 1⟩]).2.map
      Report.reply = [.delays [1100]] := by
  have works : callDuringNap.answers = none := rfl
  obtain ⟨after, finished⟩ : ∃ after, after = (callDuringNap.opening.finish 20).1 := ⟨_, rfl⟩
  have readings : after.readings = 8 := by
    rw [finished]
    decide +kernel
  have returns : (callDuringNap.opening.finish 20).2 = .returned 2500 := by decide +kernel
  have ends : callDuringNap.opening.Ends after (.returned 2500) :=
    ⟨20, Prod.ext finished.symm returns, by simp⟩
  have many : ∀ other ending, callDuringNap.opening.Ends other ending → 6 < other.readings := by
    intro other ending otherEnds
    have ended : (callDuringNap.opening.finish 20).2 ≠ .unfinished := by simp [returns]
    have same := Run.finish_eq_of_ends otherEnds ended
    rw [Prod.ext_iff, ← finished] at same
    obtain rfl : after = other := same.1
    omega
  have unnoticed := (controlFailing_eq_before_reading works 8).1 after _ ends (by omega)
  obtain ⟨steps, last, passed, reads, spent, fails, -, -, later, -⟩ :=
    (controlFailing_eq_before_reading works 6).2 many
  obtain ⟨flag, same⟩ := later 1 [⟨0, .control 1⟩]
  refine ⟨works, ⟨after, ends, readings, unnoticed⟩, by decide +kernel, by decide +kernel,
    ⟨steps, last, passed, reads, spent, fails, ?_⟩, by decide +kernel⟩
  rw [same]

end FlowGate.Limiter
