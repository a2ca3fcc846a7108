/-
# The course of a run

A run of nested calls on a clock moved by hand is moved one step at a time, and it need not end. Its
course is the list of the runs that it goes through. Whether and how the outermost call ends is said
here without the number of steps that a run is given, and `Step` lists what a single step can do;
later facts about runs are facts about these steps, carried along the course.

Every step either takes a reading of the clock or uses up something of which a run has only so much:
an incident of the script, or a call on the stack. So a run that takes few readings is short.
-/

import FlowGate.Limiter.Session
import Mathlib.Algebra.Ring.Nat

namespace FlowGate.Limiter

namespace Run

/-- The runs that a run goes through, itself first, over at most so many steps. -/
def course : Nat → Run → List Run
  | 0, _ => []
  | steps + 1, run =>
    run :: match run.next with
      | .inl next => next.course steps
      | .inr _ => []

/-- The outermost call ends so, and leaves this world. -/
def Ends (run : Run) (after : World) (ending : Ending) : Prop :=
  ∃ steps, run.finish steps = (after, ending) ∧ ending ≠ .unfinished

/-- The next step takes a reading of the clock. -/
def Reads (run : Run) : Prop := run.top.pending = [] ∧ run.top.call.reads = true

/-- No call on the stack has ended. -/
def Underway (run : Run) : Prop :=
  ∀ frame ∈ run.top :: run.below, ∃ stage, frame.call.progress = .underway stage

/-- All that a step can do if the outermost call does not end. -/
inductive Step (run : Run) : Run → Prop
  /-- The clock is moved while the top call sleeps. -/
  | move {incident pending} (clock : Time.ManualClock)
      (due : run.top.pending = incident :: pending) (noNap : clock.naps = run.world.clock.naps) :
      Step run { run with
        world := { run.world with clock }
        top := { run.top with pending } }
  /-- Another call is made while the top call sleeps. -/
  | begin {pending} (due : run.top.pending = .call :: pending) :
      Step run { run with
        top := { call := Call.fresh }
        below := { run.top with pending } :: run.below }
  /-- The top call takes a step and goes on. -/
  | goOn {stage} (awake : run.top.pending = [])
      (standing : (run.world.stepCall run.top.call).2.progress = .underway stage)
      (notBlocked : ∀ tier, stage ≠ .blocked tier) :
      Step run ⟨(run.world.stepCall run.top.call).1,
        { call := (run.world.stepCall run.top.call).2 }, run.below⟩
  /-- The top call takes a step and falls asleep on a tier. -/
  | sleep {tier} (awake : run.top.pending = [])
      (standing : (run.world.stepCall run.top.call).2.progress = .underway (.blocked tier)) :
      Step run
        ⟨((run.world.stepCall run.top.call).1.sleep (run.world.stepCall run.top.call).2 tier).1,
          ((run.world.stepCall run.top.call).1.sleep (run.world.stepCall run.top.call).2 tier).2,
          run.below⟩
  /-- The top call returns to the sleeper around it. -/
  | back {delay frame frames} (awake : run.top.pending = [])
      (returned : (run.world.stepCall run.top.call).2.progress = .returned delay)
      (around : run.below = frame :: frames) :
      Step run ⟨{ (run.world.stepCall run.top.call).1 with
          nested := delay :: (run.world.stepCall run.top.call).1.nested }, frame, frames⟩

theorem next_of_awake {run : Run} (awake : run.top.pending = []) :
    run.next = settle (run.world.stepCall run.top.call).1 (run.world.stepCall run.top.call).2
      run.below := by
  simp only [next, awake]

/-- The top call takes a step and goes on, awake. -/
theorem next_of_goesOn {run : Run} {stage : Stage} (awake : run.top.pending = [])
    (standing : (run.world.stepCall run.top.call).2.progress = .underway stage)
    (notBlocked : ∀ place, stage ≠ .blocked place) :
    run.next = .inl ⟨(run.world.stepCall run.top.call).1,
      { call := (run.world.stepCall run.top.call).2 }, run.below⟩ := by
  rw [next_of_awake awake, settle, standing]
  cases stage with
  | blocked place => exact absurd rfl (notBlocked place)
  | arriving => rfl
  | charging place => rfl
  | leaving => rfl

/-- The top call takes a step and falls asleep. -/
theorem next_of_sleeps {run : Run} {place : Nat} (awake : run.top.pending = [])
    (standing : (run.world.stepCall run.top.call).2.progress = .underway (.blocked place)) :
    run.next = .inl
      ⟨((run.world.stepCall run.top.call).1.sleep (run.world.stepCall run.top.call).2 place).1,
        ((run.world.stepCall run.top.call).1.sleep (run.world.stepCall run.top.call).2 place).2,
        run.below⟩ := by
  rw [next_of_awake awake, settle, standing]

/-- The outermost call returns. -/
theorem next_of_returns {run : Run} {delay : UInt64} (awake : run.top.pending = [])
    (alone : run.below = [])
    (returned : (run.world.stepCall run.top.call).2.progress = .returned delay) :
    run.next = .inr ((run.world.stepCall run.top.call).1, .returned delay) := by
  rw [next_of_awake awake, settle, returned, alone]

/-- The top call fails, and so do all calls around it. -/
theorem next_of_fails {run : Run} {stage : Stage} {cause : Failure} (awake : run.top.pending = [])
    (failed : (run.world.stepCall run.top.call).2.progress = .failed stage cause) :
    run.next = .inr ((run.world.stepCall run.top.call).1, .failed cause) := by
  rw [next_of_awake awake, settle, failed]

theorem step_of_next {run after : Run} (moved : run.next = .inl after) : run.Step after := by
  cases due : run.top.pending with
  | cons incident pending =>
      cases incident <;> simp only [next, due] at moved <;> cases moved
      · exact .move _ due rfl
      · exact .move _ due rfl
      · exact .move _ due rfl
      · exact .begin due
  | nil =>
      rw [next_of_awake due, settle] at moved
      split at moved
      · next tier standing =>
          cases moved
          exact .sleep due standing
      · next stage notBlocked standing =>
          cases moved
          exact .goOn due standing notBlocked
      · cases moved
      · next delay returned =>
          split at moved
          · cases moved
          · next frame frames around =>
              cases moved
              exact .back due returned around

/-- The outermost call ends by a step of its own: it returns to nobody, or it fails and takes the
calls around it along. -/
theorem next_eq_inr {run : Run} {after : World} {ending : Ending}
    (ended : run.next = .inr (after, ending)) :
    run.top.pending = [] ∧ after = (run.world.stepCall run.top.call).1 ∧ ending ≠ .unfinished := by
  cases due : run.top.pending with
  | cons incident pending =>
      cases incident <;> simp only [next, due] at ended <;> cases ended
  | nil =>
      rw [next_of_awake due, settle] at ended
      split at ended
      · cases ended
      · cases ended
      · cases ended
        exact ⟨rfl, rfl, by simp⟩
      · split at ended
        · cases ended
          exact ⟨rfl, rfl, by simp⟩
        · cases ended

/-- What every step preserves holds along the whole course. -/
theorem of_mem_course (Kept : Run → Prop)
    (preserved : ∀ {run next : Run}, run.Step next → Kept run → Kept next)
    {steps : Nat} {run last : Run} (kept : Kept run) (passed : last ∈ run.course steps) :
    Kept last := by
  induction steps generalizing run with
  | zero => cases passed
  | succ steps ih =>
      rw [course, List.mem_cons] at passed
      rcases passed with rfl | passed
      · exact kept
      · cases moved : run.next with
        | inr result => simp [moved] at passed
        | inl next =>
            simp only [moved] at passed
            exact ih (preserved (step_of_next moved) kept) passed

/-- What every step keeps, and what follows from it where a run ends or is broken off, holds of the
world and the ending that are left in the end. -/
theorem of_finish (Kept : Run → Prop) (Left : World → Ending → Prop)
    (preserved : ∀ {run next : Run}, run.Step next → Kept run → Kept next)
    (ended : ∀ {run : Run} {after ending}, run.next = .inr (after, ending) → Kept run →
      Left after ending)
    (brokenOff : ∀ {run : Run}, Kept run → Left run.world .unfinished)
    (steps : Nat) {run : Run} (kept : Kept run) :
    Left (run.finish steps).1 (run.finish steps).2 := by
  induction steps generalizing run with
  | zero => exact brokenOff kept
  | succ steps ih =>
      rw [finish]
      cases moved : run.next with
      | inr result =>
          obtain ⟨after, ending⟩ := result
          exact ended moved kept
      | inl next => exact ih (preserved (step_of_next moved) kept)

/-- What every step of a run keeps in the world, and every call, is kept to the end. -/
theorem world_finish (Kept : World → Prop)
    (preserved : ∀ {run next : Run}, run.Step next → Kept run.world → Kept next.world)
    (called : ∀ world call, Kept world → Kept (world.stepCall call).1) (steps : Nat) {run : Run}
    (kept : Kept run.world) : Kept (run.finish steps).1 := by
  refine of_finish (fun now => Kept now.world) (fun after _ => Kept after) preserved ?_ id steps
    kept
  intro last after ending moved kept
  obtain ⟨-, rfl, -⟩ := next_eq_inr moved
  exact called last.world last.top.call kept

/-- Falling asleep notes a nap, and touches nothing but the clock and the script. -/
theorem sleep_eq (world : World) (call : Call) (tier : Nat) :
    (∃ clock script, (world.sleep call tier).1 = { world with clock, script } ∧
      clock.naps = .ofMillis (world.limiter.interval tier) :: world.clock.naps) ∧
      (world.sleep call tier).2.call = call := by
  cases scripted : world.script with
  | nil =>
      refine ⟨⟨world.clock.sleep (.ofMillis (world.limiter.interval tier)), [], ?_, rfl⟩, ?_⟩
      · simp only [World.sleep, scripted]
      · simp only [World.sleep, scripted]
  | cons entry script =>
      refine ⟨⟨world.clock.note (.ofMillis (world.limiter.interval tier)), script, ?_, rfl⟩, ?_⟩
      · simp only [World.sleep, scripted]
      · simp only [World.sleep, scripted]

/-- Whether and when the clock is to fail is never written. -/
theorem Step.answers_eq {run next : Run} (step : run.Step next) :
    next.world.answers = run.world.answers := by
  cases step with
  | move clock due noNap => rfl
  | begin due => rfl
  | goOn awake standing notBlocked => rfl
  | @sleep tier awake standing =>
      obtain ⟨⟨clock, script, slept, -⟩, -⟩ := sleep_eq (run.world.stepCall run.top.call).1
        (run.world.stepCall run.top.call).2 tier
      rw [slept]
      rfl
  | back awake returned around => rfl

theorem answers_finish (steps : Nat) (run : Run) :
    (run.finish steps).1.answers = run.world.answers :=
  world_finish (·.answers = run.world.answers) (fun step kept => step.answers_eq.trans kept)
    (fun _ _ kept => kept) steps rfl

/-- No nap is ever struck from the record. -/
theorem Step.naps_suffix {run next : Run} (step : run.Step next) :
    run.world.clock.naps <:+ next.world.clock.naps := by
  cases step with
  | move clock due noNap => exact noNap ▸ List.suffix_rfl
  | begin due => exact List.suffix_rfl
  | goOn awake standing notBlocked => exact List.suffix_rfl
  | @sleep tier awake standing =>
      obtain ⟨⟨clock, script, slept, noted⟩, -⟩ := sleep_eq (run.world.stepCall run.top.call).1
        (run.world.stepCall run.top.call).2 tier
      rw [slept]
      show run.world.clock.naps <:+ clock.naps
      rw [noted]
      exact List.suffix_cons _ _
  | back awake returned around => exact List.suffix_rfl

theorem naps_suffix_finish (steps : Nat) (run : Run) :
    run.world.clock.naps <:+ (run.finish steps).1.clock.naps :=
  world_finish (run.world.clock.naps <:+ ·.clock.naps)
    (fun step kept => kept.trans step.naps_suffix) (fun _ _ kept => kept) steps List.suffix_rfl

/-! ## More steps than needed -/

/-- A run that has ended stays ended when it is given more steps. -/
theorem finish_of_le {run : Run} {steps more : Nat} (le : steps ≤ more)
    (ended : (run.finish steps).2 ≠ .unfinished) : run.finish more = run.finish steps := by
  induction steps generalizing run more with
  | zero => exact absurd rfl ended
  | succ steps ih =>
      obtain ⟨more, rfl⟩ := Nat.exists_eq_succ_of_ne_zero (show more ≠ 0 by omega)
      rw [finish] at ended ⊢
      rw [finish]
      cases moved : run.next with
      | inr result => rfl
      | inl next =>
          simp only [moved] at ended
          exact ih (Nat.le_of_succ_le_succ le) ended

/-- However many steps a run is given, it ends in at most one way. -/
theorem finish_eq_of_ends {run : Run} {after : World} {ending : Ending}
    (ends : run.Ends after ending) {steps : Nat} (ended : (run.finish steps).2 ≠ .unfinished) :
    run.finish steps = (after, ending) := by
  obtain ⟨enough, finished, notUnfinished⟩ := ends
  have also : (run.finish enough).2 ≠ .unfinished := by rwa [finished]
  rw [← finished, ← finish_of_le (Nat.le_max_left enough steps) also,
    finish_of_le (Nat.le_max_right enough steps) ended]

/-! ## Readings along a course -/

/-- The readings that a step of a call takes: one or none. -/
def taken (world : World) (call : Call) : Nat :=
  if call.reads && world.reading.isSome then 1 else 0

theorem taken_of_reads {world : World} {call : Call} (works : world.answers = none)
    (reads : call.reads = true) : taken world call = 1 := by
  simp [taken, reads, World.reading, works]

theorem taken_of_not_reads (world : World) {call : Call} (blind : ¬ call.reads = true) :
    taken world call = 0 := by
  simp [taken, blind]

/-- A call that is on its way after a step has taken a reading in it. -/
theorem taken_of_underway {world : World} {call : Call} {stage : Stage}
    (standing : (world.stepCall call).2.progress = .underway stage) : taken world call = 1 := by
  have after : (world.limiter.step call world.reading).call.progress = .underway stage := standing
  rw [step] at after
  cases before : call.progress with
  | returned delay => simp [before] at after
  | failed stage cause => simp [before] at after
  | underway stage' =>
      simp only [before] at after
      by_cases reads : call.reads = true
      · rw [if_pos reads] at after
        cases offered : world.reading with
        | none => simp [offered, Call.fail] at after
        | some now => simp [taken, reads, offered]
      · -- Only a call that leaves takes no reading, and it returns.
        rw [if_neg reads] at after
        cases stage' <;> simp_all [Call.reads, act, leave]

/-- While the top call sleeps no reading is taken; a step of it takes as many as it takes. -/
theorem Step.readings_eq {run next : Run} (step : run.Step next) :
    (run.top.pending ≠ [] ∧ next.world.readings = run.world.readings) ∨
      (run.top.pending = [] ∧
        next.world.readings = run.world.readings + taken run.world run.top.call) := by
  cases step with
  | move clock due noNap => exact Or.inl ⟨by simp [due], rfl⟩
  | begin due => exact Or.inl ⟨by simp [due], rfl⟩
  | goOn awake standing notBlocked => exact Or.inr ⟨awake, rfl⟩
  | @sleep tier awake standing =>
      obtain ⟨⟨clock, script, slept, -⟩, -⟩ := sleep_eq (run.world.stepCall run.top.call).1
        (run.world.stepCall run.top.call).2 tier
      rw [slept]
      exact Or.inr ⟨awake, rfl⟩
  | back awake returned around => exact Or.inr ⟨awake, rfl⟩

theorem readings_le_finish (steps : Nat) (run : Run) :
    run.world.readings ≤ (run.finish steps).1.readings := by
  refine world_finish (run.world.readings ≤ ·.readings) ?_ ?_ steps (Nat.le_refl _)
  · intro last next step kept
    rcases step.readings_eq with ⟨-, same⟩ | ⟨-, more⟩ <;> omega
  · intro world call kept
    exact Nat.le_trans kept (Nat.le_add_right _ _)

/-- A reading that is taken in the course of a run is counted in the end. -/
theorem readings_lt_of_mem_course {steps : Nat} {run last : Run}
    (passed : last ∈ run.course steps) (works : last.world.answers = none) (reads : last.Reads) :
    last.world.readings < (run.finish steps).1.readings := by
  induction steps generalizing run with
  | zero => cases passed
  | succ steps ih =>
      rw [course, List.mem_cons] at passed
      rw [finish]
      rcases passed with rfl | passed
      · have one := taken_of_reads works reads.2
        cases moved : last.next with
        | inr result =>
            obtain ⟨after, ending⟩ := result
            obtain ⟨-, rfl, -⟩ := next_eq_inr moved
            show last.world.readings < last.world.readings + taken last.world last.top.call
            omega
        | inl next =>
            have more := readings_le_finish steps next
            rcases (step_of_next moved).readings_eq with ⟨asleep, -⟩ | ⟨-, counted⟩
            · exact absurd reads.1 asleep
            · show last.world.readings < (next.finish steps).1.readings
              omega
      · cases moved : run.next with
        | inr result => simp [moved] at passed
        | inl next =>
            simp only [moved] at passed
            exact ih passed

/-! ## Stages passed -/

/-- A run passes these stages, one step at each, and has then come to another run. -/
inductive Leads : List Stage → Run → Run → Prop
  | nil {run} : Leads [] run run
  | cons {stage stages run next last} (standing : run.top.call.progress = .underway stage)
      (moved : run.next = .inl next) (rest : Leads stages next last) :
      Leads (stage :: stages) run last

theorem Leads.trans {first second : List Stage} {run middle last : Run}
    (before : Leads first run middle) (after : Leads second middle last) :
    Leads (first ++ second) run last := by
  induction before with
  | nil => exact after
  | cons standing moved rest ih => exact .cons standing moved (ih after)

theorem finish_of_leads {stages : List Stage} {run last : Run} (leads : Leads stages run last)
    (steps : Nat) : run.finish (stages.length + steps) = last.finish steps := by
  induction leads with
  | nil => rw [List.length_nil, Nat.zero_add]
  | cons standing moved rest ih =>
      rw [List.length_cons, Nat.add_right_comm, finish, moved]
      exact ih

theorem course_of_leads {stages : List Stage} {run last : Run} (leads : Leads stages run last)
    (steps : Nat) :
    (run.course (stages.length + steps)).map (·.top.call.progress) =
      stages.map .underway ++ (last.course steps).map (·.top.call.progress) := by
  induction leads with
  | nil => rw [List.length_nil, Nat.zero_add, List.map_nil, List.nil_append]
  | cons standing moved rest ih =>
      rw [List.length_cons, Nat.add_right_comm, course, moved, List.map_cons, standing,
        List.map_cons, List.cons_append]
      exact congrArg _ ih

/-! ## How long a run can be -/

/-- What is left of the things that only some steps use up: the incidents still to come, and the
calls on the stack. -/
def store (run : Run) : Nat :=
  2 * run.world.scriptSize + (2 * run.top.pending.length + 1) +
    (run.below.map fun frame => 2 * frame.pending.length + 1).sum

/-- Falling asleep moves an entry of the script into the nap. -/
theorem scriptSize_sleep (world : World) (call : Call) (tier : Nat) :
    (world.sleep call tier).1.scriptSize + (world.sleep call tier).2.pending.length ≤
      world.scriptSize := by
  cases scripted : world.script with
  | nil => simp [World.sleep, World.scriptSize, scripted]
  | cons entry script =>
      simp only [World.sleep, World.scriptSize, scripted, List.foldr_cons]
      omega

/-- A step that takes no reading uses something up, and no step adds anything. -/
theorem Step.store_add_le {run next : Run} (step : run.Step next) :
    run.world.readings + next.store + 1 ≤ next.world.readings + run.store := by
  have script : (run.world.stepCall run.top.call).1.scriptSize = run.world.scriptSize := rfl
  have counted := step.readings_eq
  cases step with
  | move clock due noNap =>
      simp only [store, due, List.length_cons, World.scriptSize]
      omega
  | begin due =>
      simp only [store, due, List.length_cons, List.length_nil, List.map_cons, List.sum_cons]
      omega
  | goOn awake standing notBlocked =>
      have read := taken_of_underway standing
      simp only [awake, ne_eq, not_true_eq_false, false_and, true_and, false_or] at counted
      simp only [store, awake, script, List.length_nil, counted]
      omega
  | @sleep tier awake standing =>
      have read := taken_of_underway standing
      have entry := scriptSize_sleep (run.world.stepCall run.top.call).1
        (run.world.stepCall run.top.call).2 tier
      simp only [awake, ne_eq, not_true_eq_false, false_and, true_and, false_or] at counted
      simp only [store, awake, List.length_nil, counted]
      omega
  | back awake returned around =>
      simp only [awake, ne_eq, not_true_eq_false, false_and, true_and, false_or] at counted
      simp only [store, awake, around, List.length_nil, List.map_cons, List.sum_cons,
        World.scriptSize] at script ⊢
      omega

/-- A run that has not ended after so many steps has taken nearly as many readings. -/
theorem le_readings_of_unfinished {steps : Nat} {run : Run}
    (unfinished : (run.finish steps).2 = .unfinished) :
    run.world.readings + steps ≤ (run.finish steps).1.readings + run.store := by
  induction steps generalizing run with
  | zero => exact Nat.add_le_add_left (Nat.zero_le _) _
  | succ steps ih =>
      rw [finish] at unfinished ⊢
      cases moved : run.next with
      | inr result =>
          obtain ⟨after, ending⟩ := result
          simp only [moved] at unfinished
          exact absurd unfinished (next_eq_inr moved).2.2
      | inl next =>
          simp only [moved] at unfinished
          have rest := ih unfinished
          have first := (step_of_next moved).store_add_le
          show run.world.readings + (steps + 1) ≤ (next.finish steps).1.readings + run.store
          omega

end Run

namespace World

/-- The run that a call of the limiter starts. -/
def opening (world : World) : Run := ⟨{ world with readings := 0 }, { call := Call.fresh }, []⟩

theorem control_eq (world : World) : world.control = world.opening.finish world.patience := rfl

/-- In the course of a call somebody is blocked on the tier at a place. -/
def blocksOn (world : World) (place : Nat) : Bool :=
  (world.opening.course world.patience).any fun run =>
    run.top.call.progress == .underway (.blocked place)

theorem blocksOn_iff_mem (world : World) (place : Nat) :
    world.blocksOn place = true ↔ .underway (.blocked place) ∈
      (world.opening.course world.patience).map (·.top.call.progress) := by
  simp only [blocksOn, List.any_eq_true, beq_iff_eq, List.mem_map]

end World

/-! ## Sessions, operation by operation -/

theorem World.controlTimes_of_returned {world : World} {delay : UInt64}
    (returned : world.control.2 = .returned delay) (times : Nat) :
    world.controlTimes (times + 1) =
      ((world.control.1.controlTimes times).1, delay :: (world.control.1.controlTimes times).2.1,
        (world.control.1.controlTimes times).2.2) := by
  rw [controlTimes]
  generalize world.control = called at returned ⊢
  obtain ⟨next, ending⟩ := called
  cases returned
  rfl

/-- The first call that does not return ends a row of calls. -/
theorem World.controlTimes_of_stopped {world : World} {ending : Ending}
    (ended : world.control.2 = ending) (stopped : ∀ delay, ending ≠ .returned delay)
    (times : Nat) : world.controlTimes (times + 1) = (world.control.1, [], some ending) := by
  rw [controlTimes]
  generalize world.control = called at ended ⊢
  obtain ⟨next, ending'⟩ := called
  cases ended
  cases ending' with
  | returned delay => exact absurd rfl (stopped delay)
  | failed cause => rfl
  | unfinished => rfl

theorem Session.apply_control (session : Session) (times : Nat) :
    session.apply (.control times) =
      ({ session with world := (session.world.controlTimes times).1 },
        ((session.world.controlTimes times).2.2.map Ending.reply).getD
          (.delays (session.world.controlTimes times).2.1)) := rfl

@[simp]
theorem Session.handles_mk (world : World) (handles : Nat) :
    (Session.mk world handles).handles = handles := rfl

theorem Session.apply_advance (session : Session) (span : Time.Duration) :
    session.apply (.advance span) =
      ({ session with world.clock := session.world.clock.advance span }, .nothing) := rfl

/-- An operation through a handle that exists is carried out on an empty record. -/
theorem Session.perform_of_lt {session : Session} {command : Command}
    (found : command.handle < session.handles) :
    session.perform command =
      (({ session with world := session.world.cleared }.apply command.op).1,
        ({ session with world := session.world.cleared }.apply command.op).1.report
          ({ session with world := session.world.cleared }.apply command.op).2) := by
  simp only [perform, if_pos found]

/-- The session after each of the operations, with the report on it. -/
def Session.course (session : Session) : List Command → List (Session × Report)
  | [] => []
  | command :: commands =>
    session.perform command :: (session.perform command).1.course commands

/-- The reports along the course are the reports on the whole. -/
theorem Session.reports_course (session : Session) (commands : List Command) :
    (session.course commands).map Prod.snd = (session.performAll commands).2 := by
  induction commands generalizing session with
  | nil => rfl
  | cons command commands ih => exact congrArg (List.cons _) (ih _)

end FlowGate.Limiter
