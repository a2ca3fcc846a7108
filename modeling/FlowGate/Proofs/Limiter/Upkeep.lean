/-
# What a session keeps

A session does two things to its limiter: it calls it, and it starts the metrics afresh. All other
operations concern the clock, the script or the record. So what every call keeps, and a fresh start
of the metrics, is kept by whole sessions, in which calls are nested and fail; and what every call
is excused to fail for is all that an answer of a session can report as a failure. `Upholds` says
this of a call, and `Upholds.performAll` carries it over.

The rules of a limiter are the first thing kept. No step writes them, so no run does, whether or not
it ends.
-/

import FlowGate.Proofs.Limiter.Course
import FlowGate.Proofs.Limiter.Turn

namespace FlowGate.Limiter

/-! ## Runs -/

namespace Run

/-- No step of a run writes the rule of a tier. -/
theorem Step.rules_eq {run next : Run} (step : run.Step next) :
    next.world.limiter.rules = run.world.limiter.rules := by
  have stepped : (run.world.stepCall run.top.call).1.limiter.rules = run.world.limiter.rules :=
    rules_step run.world.limiter run.top.call run.world.reading
  cases step with
  | move clock due noNap => rfl
  | begin due => rfl
  | goOn awake standing notBlocked => exact stepped
  | @sleep tier awake standing =>
      obtain ⟨⟨clock, script, slept, -⟩, -⟩ := sleep_eq (run.world.stepCall run.top.call).1
        (run.world.stepCall run.top.call).2 tier
      rw [slept]
      exact stepped
  | back awake returned around => exact stepped

theorem rules_finish (steps : Nat) (run : Run) :
    (run.finish steps).1.limiter.rules = run.world.limiter.rules :=
  world_finish (·.limiter.rules = run.world.limiter.rules)
    (fun step kept => step.rules_eq.trans kept)
    (fun world call kept => (rules_step world.limiter call world.reading).trans kept) steps rfl

end Run

/-! ## Sessions -/

/-- A call leaves a limiter in a state of this kind if it found it in one, and fails for such a
cause only; and starting the metrics afresh makes no difference to the kind of state. -/
structure Upholds (Kept : Limiter → Prop) (Excused : Failure → Prop) : Prop where
  control : ∀ world : World, Kept world.limiter →
    Kept world.control.1.limiter ∧ ∀ cause, world.control.2 = .failed cause → Excused cause
  reset : ∀ limiter : Limiter, Kept limiter → Kept limiter.resetMetrics

namespace Upholds

variable {Kept : Limiter → Prop} {Excused : Failure → Prop}

theorem controlFailing (upholds : Upholds Kept Excused) {world : World}
    (kept : Kept world.limiter) (answers : Nat) :
    Kept (world.controlFailing answers).1.limiter ∧
      ∀ cause, (world.controlFailing answers).2 = .failed cause → Excused cause :=
  upholds.control { world with answers := some answers } kept

theorem controlTimes (upholds : Upholds Kept Excused) (times : Nat) {world : World}
    (kept : Kept world.limiter) :
    Kept (world.controlTimes times).1.limiter ∧
      ∀ cause, (world.controlTimes times).2.2 = some (.failed cause) → Excused cause := by
  induction times generalizing world with
  | zero => exact ⟨kept, by rintro cause ⟨⟩⟩
  | succ times ih =>
      obtain ⟨after, excused⟩ := upholds.control world kept
      rw [World.controlTimes]
      generalize world.control = called at after excused
      obtain ⟨next, ending⟩ := called
      cases ending with
      | returned delay => exact ih after
      | unfinished => exact ⟨after, by rintro cause ⟨⟩⟩
      | failed cause =>
          refine ⟨after, fun other stopped => ?_⟩
          cases stopped
          exact excused cause rfl

theorem driveTo (upholds : Upholds Kept Excused) (finish : Nat) (step : Time.Duration)
    (rounds : Nat) {world : World} (kept : Kept world.limiter) :
    Kept (world.driveTo finish step rounds).1.limiter ∧
      ∀ cause, (world.driveTo finish step rounds).2.2 = some (.failed cause) → Excused cause := by
  induction rounds generalizing world with
  | zero => exact ⟨kept, by rintro cause ⟨⟩⟩
  | succ rounds ih =>
      rw [World.driveTo]
      by_cases past : finish ≤ world.clock.now.toNat
      · rw [if_pos past]
        exact ⟨kept, by rintro cause ⟨⟩⟩
      · rw [if_neg past]
        obtain ⟨after, excused⟩ := upholds.control world kept
        generalize world.control = called at after excused
        obtain ⟨next, ending⟩ := called
        cases ending with
        | returned delay =>
            have moved : Kept { next with clock := next.clock.advance step }.limiter := after
            exact ih moved
        | unfinished => exact ⟨after, by rintro cause ⟨⟩⟩
        | failed cause =>
            refine ⟨after, fun other stopped => ?_⟩
            cases stopped
            exact excused cause rfl

/-- A row of calls is answered by their delays or by the ending of the call that stopped it. -/
theorem excused_of_row {stop : Option Ending} {delays : List UInt64} {cause : Failure}
    (excused : ∀ cause, stop = some (.failed cause) → Excused cause)
    (answered : (stop.map Ending.reply).getD (.delays delays) = .failure cause) :
    Excused cause := by
  cases stop with
  | none => cases answered
  | some ending =>
      cases ending with
      | returned delay => cases answered
      | unfinished => cases answered
      | failed other =>
          cases answered
          exact excused cause rfl

theorem apply (upholds : Upholds Kept Excused) {session : Session}
    (kept : Kept session.world.limiter) (op : Op) :
    Kept (session.apply op).1.world.limiter ∧
      ∀ cause, (session.apply op).2 = .failure cause → Excused cause := by
  cases op with
  | control times =>
      obtain ⟨after, excused⟩ := upholds.controlTimes times kept
      exact ⟨after, fun cause => excused_of_row excused⟩
  | drive run step =>
      obtain ⟨after, excused⟩ := upholds.driveTo
        (session.world.clock.now.toNat + run.millis.toNat) step UInt64.size kept
      exact ⟨after, fun cause => excused_of_row excused⟩
  | controlFailing answers =>
      obtain ⟨after, excused⟩ := upholds.controlFailing kept answers
      refine ⟨after, fun cause answered => ?_⟩
      rw [Session.apply] at answered
      cases ended : (session.world.controlFailing answers).2 with
      | returned delay => simp [ended, Ending.reply] at answered
      | unfinished => simp [ended, Ending.reply] at answered
      | failed other =>
          simp only [ended, Ending.reply, Reply.failure.injEq] at answered
          exact answered ▸ excused other ended
  | resetMetrics => exact ⟨upholds.reset _ kept, by rintro cause ⟨⟩⟩
  | set instant => exact ⟨kept, by rintro cause ⟨⟩⟩
  | advance span => exact ⟨kept, by rintro cause ⟨⟩⟩
  | tiers => exact ⟨kept, by rintro cause ⟨⟩⟩
  | describe => exact ⟨kept, by rintro cause ⟨⟩⟩
  | clone => exact ⟨kept, by rintro cause ⟨⟩⟩
  | onSleep entries => exact ⟨kept, by rintro cause ⟨⟩⟩

theorem perform (upholds : Upholds Kept Excused) {session : Session}
    (kept : Kept session.world.limiter) (command : Command) :
    Kept (session.perform command).1.world.limiter ∧
      ∀ cause, (session.perform command).2.reply = .failure cause → Excused cause := by
  by_cases found : command.handle < session.handles
  · rw [Session.perform_of_lt found]
    have cleared : Kept { session with world := session.world.cleared }.world.limiter := kept
    exact upholds.apply cleared command.op
  · rw [Session.perform]
    simp only [if_neg found]
    exact ⟨kept, by rintro cause ⟨⟩⟩

/-- What calls uphold is upheld by whole sessions, and their answers report no other failures. -/
theorem performAll (upholds : Upholds Kept Excused) (commands : List Command) {session : Session}
    (kept : Kept session.world.limiter) :
    Kept (session.performAll commands).1.world.limiter ∧
      ∀ report ∈ (session.performAll commands).2, ∀ cause,
        report.reply = .failure cause → Excused cause := by
  induction commands generalizing session with
  | nil => exact ⟨kept, by rintro report ⟨⟩⟩
  | cons command commands ih =>
      obtain ⟨after, excused⟩ := upholds.perform kept command
      obtain ⟨last, rest⟩ := ih after
      exact ⟨last, List.forall_mem_cons.mpr ⟨excused, rest⟩⟩

end Upholds

/-- Calls never write the rules of a limiter, whatever they fail for. -/
theorem upholds_rules (rules : List Config.Rule) :
    Upholds (fun limiter => limiter.rules = rules) fun _ => True where
  control world kept :=
    ⟨(Run.rules_finish world.patience world.opening).trans kept, fun _ _ => trivial⟩
  reset _ kept := kept

end FlowGate.Limiter
