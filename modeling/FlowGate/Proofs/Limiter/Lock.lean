/-
# The lock that a failure leaves behind

A caller that fails with the lock in its hands leaves it poisoned, and from then on everyone who
takes the lock is told. Nobody acts on it: whatever is done to a limiter with a poisoned lock, alone
or by many callers at once, nested, failing or not, comes out as it would with a sound one, and all
that may differ afterwards is again the state of the lock. Every operation gets at the tiers by way
of `Limiter.lock`, so this rests on its giving them to everyone.

The operations are gone through from the inside out: the two that deal with a tier, a step of a
call, a step of a run, a run by induction, and then what sessions and crowds do.
-/

import FlowGate.Limiter.Crowd
import FlowGate.Proofs.Limiter.Course

namespace FlowGate.Limiter

/-- The limiter with its lock in this state. -/
def flagged (limiter : Limiter) (poisoned : Bool) : Limiter := { limiter with poisoned }

@[simp]
theorem tiers_flagged (limiter : Limiter) (flag : Bool) :
    (limiter.flagged flag).tiers = limiter.tiers := rfl

/-- A failure poisons the lock if it happens under the lock, and does nothing else. -/
theorem unwound_eq_flagged (limiter : Limiter) (stage : Stage) :
    limiter.unwound stage = limiter.flagged (limiter.poisoned || stage.locks) := by
  rw [unwound]
  cases stage.locks with
  | true =>
      rw [Bool.or_true]
      rfl
  | false =>
      rw [Bool.or_false]
      rfl

/-! ## One step of a call -/

/-- The effect with the lock in this state. -/
def Effect.flagged (effect : Effect) (flag : Bool) : Effect :=
  { effect with limiter := effect.limiter.flagged flag }

section Step

variable (limiter : Limiter) (call : Call) (flag : Bool)

theorem consume_flagged (place : Nat) :
    ∃ flag', (limiter.flagged flag).consume place =
      ((limiter.consume place).1.flagged flag', (limiter.consume place).2) := by
  simp only [consume, lock_eq_tiers, tiers_flagged]
  cases limiter.tiers[place]? with
  | none => exact ⟨true, rfl⟩
  | some tier => exact ⟨flag, rfl⟩

theorem lookAgain_flagged (place : Nat) (now : UInt64) :
    ∃ flag', (limiter.flagged flag).lookAgain place now =
      ((limiter.lookAgain place now).1.flagged flag', (limiter.lookAgain place now).2) := by
  simp only [lookAgain, lock_eq_tiers, tiers_flagged]
  cases limiter.tiers[place]? with
  | none => exact ⟨true, rfl⟩
  | some tier =>
      cases computed : tier.credit now with
      | error fault =>
          simp only [computed]
          exact ⟨true, rfl⟩
      | ok credit =>
          simp only [computed]
          exact ⟨flag, rfl⟩

theorem charge_flagged (place : Nat) :
    ∃ flag', (limiter.flagged flag).charge call place =
      (limiter.charge call place).flagged flag' := by
  obtain ⟨flag', admitted⟩ := limiter.consume_flagged flag place
  refine ⟨flag', ?_⟩
  rw [charge, charge, admitted]
  rcases limiter.consume place with ⟨after, fault | _ | retry⟩ <;> rfl

theorem recheck_flagged (place : Nat) (now : UInt64) :
    ∃ flag', (limiter.flagged flag).recheck call place now =
      (limiter.recheck call place now).flagged flag' := by
  obtain ⟨flag', looked⟩ := limiter.lookAgain_flagged flag place now
  refine ⟨flag', ?_⟩
  rw [recheck, recheck, looked]
  rcases limiter.lookAgain place now with ⟨after, fault | ⟨exceeds, events⟩⟩ <;> rfl

theorem act_flagged (now : UInt64) (stage : Stage) :
    ∃ flag', (limiter.flagged flag).act call now stage =
      (limiter.act call now stage).flagged flag' := by
  cases stage with
  | arriving => exact ⟨flag, rfl⟩
  | charging place => exact limiter.charge_flagged call flag place
  | blocked place => exact limiter.recheck_flagged call flag place now
  | leaving => exact ⟨flag, rfl⟩

/-- A step of a call does the same whatever the state of the lock. -/
theorem step_flagged (reading : Option UInt64) :
    ∃ flag', (limiter.flagged flag).step call reading =
      (limiter.step call reading).flagged flag' := by
  cases standing : call.progress with
  | returned delay =>
      simp only [step, standing]
      exact ⟨flag, rfl⟩
  | failed stage cause =>
      simp only [step, standing]
      exact ⟨flag, rfl⟩
  | underway stage =>
      simp only [step, standing]
      by_cases reads : call.reads = true
      · simp only [if_pos reads]
        cases reading with
        | none =>
            simp only [unwound_eq_flagged]
            exact ⟨flag || stage.locks, rfl⟩
        | some now => exact limiter.act_flagged call flag now stage
      · simp only [if_neg reads]
        exact limiter.act_flagged call flag 0 stage

end Step

/-! ## Runs -/

namespace World

/-- The world with the lock in this state. -/
def flagged (world : World) (flag : Bool) : World :=
  { world with limiter := world.limiter.flagged flag }

theorem stepCall_flagged (world : World) (call : Call) (flag : Bool) :
    ∃ flag', (world.flagged flag).stepCall call =
      ((world.stepCall call).1.flagged flag', (world.stepCall call).2) := by
  obtain ⟨flag', stepped⟩ := world.limiter.step_flagged call flag world.reading
  have same : (world.flagged flag).limiter.step call (world.flagged flag).reading =
      (world.limiter.step call world.reading).flagged flag' := stepped
  refine ⟨flag', ?_⟩
  simp only [stepCall, same]
  rfl

theorem sleep_flagged (world : World) (call : Call) (tier : Nat) (flag : Bool) :
    (world.flagged flag).sleep call tier =
      ((world.sleep call tier).1.flagged flag, (world.sleep call tier).2) := by
  have interval : (world.limiter.flagged flag).interval tier = world.limiter.interval tier := rfl
  cases scripted : world.script <;> simp only [sleep, flagged, scripted, interval]

end World

namespace Run

/-- The run with the lock in this state. -/
def flagged (run : Run) (flag : Bool) : Run := { run with world := run.world.flagged flag }

theorem settle_flagged (world : World) (call : Call) (below : List Frame) (flag : Bool) :
    settle (world.flagged flag) call below =
      (settle world call below).map (·.flagged flag)
        fun ended => (ended.1.flagged flag, ended.2) := by
  rw [settle, settle]
  cases call.progress with
  | failed stage cause => rfl
  | returned delay =>
      cases below with
      | nil => rfl
      | cons frame frames => rfl
  | underway stage =>
      cases stage with
      | arriving => rfl
      | charging tier => rfl
      | leaving => rfl
      | blocked tier =>
          simp only [World.sleep_flagged]
          rfl

/-- A step of a run does the same whatever the state of the lock. -/
theorem next_flagged (run : Run) (flag : Bool) :
    ∃ flag', (run.flagged flag).next =
      run.next.map (·.flagged flag') fun ended => (ended.1.flagged flag', ended.2) := by
  cases due : run.top.pending with
  | cons incident pending =>
      refine ⟨flag, ?_⟩
      cases incident <;> simp [next, flagged, due, World.flagged]
  | nil =>
      obtain ⟨flag', stepped⟩ := run.world.stepCall_flagged run.top.call flag
      have awake : (run.flagged flag).top.pending = [] := due
      refine ⟨flag', ?_⟩
      rw [next_of_awake due, next_of_awake awake]
      show settle ((run.world.flagged flag).stepCall run.top.call).1
        ((run.world.flagged flag).stepCall run.top.call).2 run.below = _
      rw [stepped]
      exact settle_flagged _ _ _ flag'

theorem finish_flagged (steps : Nat) (run : Run) (flag : Bool) :
    ∃ flag', (run.flagged flag).finish steps =
      ((run.finish steps).1.flagged flag', (run.finish steps).2) := by
  induction steps generalizing run flag with
  | zero => exact ⟨flag, rfl⟩
  | succ steps ih =>
      obtain ⟨flag', moved⟩ := run.next_flagged flag
      rw [finish, finish, moved]
      cases run.next with
      | inr ended => exact ⟨flag', rfl⟩
      | inl next => exact ih next flag'

end Run

/-! ## Sessions -/

namespace World

theorem control_flagged (world : World) (flag : Bool) :
    ∃ flag', (world.flagged flag).control =
      (world.control.1.flagged flag', world.control.2) :=
  Run.finish_flagged world.patience world.opening flag

theorem controlFailing_flagged (world : World) (answers : Nat) (flag : Bool) :
    ∃ flag', (world.flagged flag).controlFailing answers =
      ((world.controlFailing answers).1.flagged flag', (world.controlFailing answers).2) := by
  obtain ⟨flag', called⟩ := control_flagged { world with answers := some answers } flag
  have same : { world.flagged flag with answers := some answers }.control = _ := called
  refine ⟨flag', ?_⟩
  rw [controlFailing, same]
  rfl

theorem controlTimes_flagged (times : Nat) (world : World) (flag : Bool) :
    ∃ flag', (world.flagged flag).controlTimes times =
      ((world.controlTimes times).1.flagged flag', (world.controlTimes times).2) := by
  induction times generalizing world flag with
  | zero => exact ⟨flag, rfl⟩
  | succ times ih =>
      obtain ⟨flag', called⟩ := world.control_flagged flag
      rw [controlTimes, controlTimes, called]
      rcases world.control with ⟨after, delay | cause | _⟩
      · obtain ⟨last, rest⟩ := ih after flag'
        simp only [rest]
        exact ⟨last, rfl⟩
      · exact ⟨flag', rfl⟩
      · exact ⟨flag', rfl⟩

theorem driveTo_flagged (finish : Nat) (step : Time.Duration) (rounds : Nat) (world : World)
    (flag : Bool) :
    ∃ flag', (world.flagged flag).driveTo finish step rounds =
      ((world.driveTo finish step rounds).1.flagged flag',
        (world.driveTo finish step rounds).2) := by
  induction rounds generalizing world flag with
  | zero => exact ⟨flag, rfl⟩
  | succ rounds ih =>
      obtain ⟨flag', called⟩ := world.control_flagged flag
      have shown : (world.flagged flag).clock = world.clock := rfl
      rw [driveTo, driveTo, called, shown]
      by_cases past : finish ≤ world.clock.now.toNat
      · simp only [if_pos past]
        exact ⟨flag, rfl⟩
      · simp only [if_neg past]
        rcases world.control with ⟨after, delay | cause | _⟩
        · obtain ⟨last, rest⟩ := ih { after with clock := after.clock.advance step } flag'
          have same : { after.flagged flag' with
              clock := (after.flagged flag').clock.advance step }.driveTo finish step rounds =
            _ := rest
          simp only [same]
          exact ⟨last, rfl⟩
        · exact ⟨flag', rfl⟩
        · exact ⟨flag', rfl⟩

end World

namespace Session

/-- The session with the lock in this state. -/
def flagged (session : Session) (flag : Bool) : Session :=
  { session with world := session.world.flagged flag }

theorem apply_flagged (session : Session) (op : Op) (flag : Bool) :
    ∃ flag', (session.flagged flag).apply op =
      ((session.apply op).1.flagged flag', (session.apply op).2) := by
  cases op with
  | control times =>
      obtain ⟨flag', called⟩ := session.world.controlTimes_flagged times flag
      refine ⟨flag', ?_⟩
      rw [apply_control, apply_control]
      simp only [flagged, called]
  | drive run step =>
      obtain ⟨flag', driven⟩ := session.world.driveTo_flagged
        (session.world.clock.now.toNat + run.millis.toNat) step UInt64.size flag
      refine ⟨flag', ?_⟩
      have shown : (session.flagged flag).world.clock = session.world.clock := rfl
      simp only [apply, shown]
      simp only [flagged, driven]
  | controlFailing answers =>
      obtain ⟨flag', called⟩ := session.world.controlFailing_flagged answers flag
      refine ⟨flag', ?_⟩
      simp only [apply, flagged, called]
  | set instant => exact ⟨flag, rfl⟩
  | advance span => exact ⟨flag, rfl⟩
  | tiers =>
      refine ⟨flag, ?_⟩
      simp only [apply, lock_eq_tiers]
      rfl
  | describe =>
      refine ⟨flag, ?_⟩
      simp only [apply, describe_eq]
      rfl
  | resetMetrics => exact ⟨flag, rfl⟩
  | clone => exact ⟨flag, rfl⟩
  | onSleep entries => exact ⟨flag, rfl⟩

theorem report_flagged (session : Session) (reply : Reply) (flag : Bool) :
    (session.flagged flag).report reply = session.report reply := by
  have counts : (session.flagged flag).world.limiter.counts = session.world.limiter.counts := by
    rw [Limiter.counts, Limiter.counts, lock_eq_tiers, lock_eq_tiers]
    rfl
  rw [report, report, counts]
  rfl

/-- An operation is reported on in the same way whatever the state of the lock. -/
theorem perform_flagged (session : Session) (command : Command) (flag : Bool) :
    ∃ flag', (session.flagged flag).perform command =
      ((session.perform command).1.flagged flag', (session.perform command).2) := by
  obtain ⟨flag', applied⟩ :=
    apply_flagged { session with world := session.world.cleared } command.op flag
  by_cases found : command.handle < session.handles
  · have found' : command.handle < (session.flagged flag).handles := found
    have same : { session.flagged flag with world := (session.flagged flag).world.cleared }.apply
        command.op = _ := applied
    refine ⟨flag', ?_⟩
    rw [perform_of_lt found, perform_of_lt found', same, report_flagged]
  · have lost : ¬ command.handle < (session.flagged flag).handles := found
    refine ⟨flag, ?_⟩
    simp only [perform, if_neg found, if_neg lost]
    exact Prod.ext rfl (report_flagged { session with world := session.world.cleared } _ flag)

/-- Whole sessions are reported on in the same way whatever the state of the lock, and leave the
same behind but for that. -/
theorem performAll_flagged (commands : List Command) (session : Session) (flag : Bool) :
    ∃ flag', (session.flagged flag).performAll commands =
      ((session.performAll commands).1.flagged flag', (session.performAll commands).2) := by
  induction commands generalizing session flag with
  | nil => exact ⟨flag, rfl⟩
  | cons command commands ih =>
      obtain ⟨flag', first⟩ := session.perform_flagged command flag
      obtain ⟨last, rest⟩ := ih (session.perform command).1 flag'
      refine ⟨last, ?_⟩
      rw [performAll, performAll, first]
      simp only [rest]

end Session

/-! ## Any number of callers -/

namespace Crowd

/-- The crowd with the lock in this state. -/
def flagged (crowd : Crowd) (flag : Bool) : Crowd :=
  { crowd with limiter := crowd.limiter.flagged flag }

theorem move_flagged (crowd : Crowd) (move : Move) (flag : Bool) :
    ∃ flag', (crowd.flagged flag).move move =
      ((crowd.move move).1.flagged flag', (crowd.move move).2) := by
  cases move with
  | join => exact ⟨flag, rfl⟩
  | resetMetrics => exact ⟨flag, rfl⟩
  | step caller reading =>
      have calls : (crowd.flagged flag).calls = crowd.calls := rfl
      simp only [Crowd.move, calls]
      cases crowd.calls[caller]? with
      | none => exact ⟨flag, rfl⟩
      | some call =>
          obtain ⟨flag', stepped⟩ := crowd.limiter.step_flagged call flag reading
          cases standing : call.progress with
          | returned delay =>
              simp only [standing]
              exact ⟨flag, rfl⟩
          | failed stage cause =>
              simp only [standing]
              exact ⟨flag, rfl⟩
          | underway stage =>
              simp only [standing, flagged, stepped]
              exact ⟨flag', rfl⟩

/-- Callers do the same whatever the state of the lock. -/
theorem play_flagged (moves : List Move) (crowd : Crowd) (flag : Bool) :
    ∃ flag', (crowd.flagged flag).play moves =
      ((crowd.play moves).1.flagged flag', (crowd.play moves).2) := by
  induction moves generalizing crowd flag with
  | nil => exact ⟨flag, rfl⟩
  | cons move moves ih =>
      obtain ⟨flag', first⟩ := crowd.move_flagged move flag
      obtain ⟨last, rest⟩ := ih (crowd.move move).1 flag'
      refine ⟨last, ?_⟩
      rw [play, play, first]
      simp only [rest]

end Crowd

end FlowGate.Limiter
