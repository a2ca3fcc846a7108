/-
# What a step leaves on record

Beside the tiers a step of a call can write to two records. The metrics take the delay of a call
that returns, and nothing else. The log takes an event for every credit that gave something back,
and the delay of a call that returns after it slept. So the two records agree on delays except for
calls that never slept, which return with no delay and are recorded in the metrics alone.

Whether a call slept is known from its steps: it is a call that some step left blocked on a tier.
-/

import FlowGate.Proofs.Limiter.Turn

namespace FlowGate

/-- The delay that an event reports, if it reports one. -/
def LogEvent.delay? : LogEvent → Option UInt64
  | .callerDelayed delay => some delay
  | _ => none

namespace Limiter

/-- The delay of a call that has returned. -/
def Progress.delay? : Progress → Option UInt64
  | .returned delay => some delay
  | _ => none

/-- Whether a call sleeps next. -/
def Progress.sleeps : Progress → Bool
  | .underway (.blocked _) => true
  | _ => false

/-- The delay of a call that has returned after it slept at least once. -/
def Call.delayAfterSleep? (call : Call) : Option UInt64 :=
  if call.slept then call.progress.delay? else none

/-- The metrics after a step that took a call this far: the delay is recorded if it returned. -/
def Metrics.after (metrics : Metrics) : Progress → Metrics
  | .returned delay => metrics.record delay
  | _ => metrics

variable {limiter : Limiter} {call : Call}

theorem sleeps_stageFrom (limiter : Limiter) (tier : Nat) :
    (Progress.underway (limiter.stageFrom tier)).sleeps = false := by
  rw [stageFrom]
  split <;> rfl

@[simp]
theorem delayAfterSleep?_movedTo (call : Call) (stage : Stage) :
    (call.movedTo stage).delayAfterSleep? = none := ite_self none

@[simp]
theorem delayAfterSleep?_fail (call : Call) (stage : Stage) (cause : Failure) :
    (call.fail stage cause).delayAfterSleep? = none := ite_self none

/-- A step of a call on its way does what is due at its stage, or its clock fails. -/
theorem step_cases {stage : Stage} (standing : call.progress = .underway stage)
    (reading : Option UInt64) :
    (∃ now, limiter.step call reading = limiter.act call now stage) ∨
      limiter.step call reading =
        ⟨limiter.unwound stage, call.fail stage .clockFailed, []⟩ := by
  simp only [step, standing]
  by_cases reads : call.reads = true
  · rw [if_pos reads]
    cases reading with
    | none => exact Or.inr rfl
    | some now => exact Or.inl ⟨now, rfl⟩
  · rw [if_neg reads]
    exact Or.inl ⟨0, rfl⟩

/-! ## Metrics -/

theorem metrics_act (limiter : Limiter) (call : Call) (now : UInt64) (stage : Stage) :
    (limiter.act call now stage).limiter.metrics =
      limiter.metrics.after (limiter.act call now stage).call.progress := by
  cases stage with
  | arriving => rfl
  | leaving => rfl
  | charging place =>
      rw [act]
      cases here : limiter.tiers[place]? with
      | none =>
          rw [charge_of_missing here]
          rfl
      | some tier =>
          cases exceeds : tier.charge.overBudget with
          | true =>
              rw [charge_of_over here exceeds]
              rfl
          | false =>
              rw [charge_of_within here exceeds]
              rfl
  | blocked place =>
      rw [act]
      cases here : limiter.tiers[place]? with
      | none =>
          rw [recheck_of_missing here]
          rfl
      | some tier =>
          cases computed : tier.credit now with
          | error fault =>
              rw [recheck_of_error here computed]
              rfl
          | ok credit =>
              rw [recheck_of_credit here computed]
              rfl

/-- A step of a call on its way records a delay exactly if the call returns with it. -/
theorem metrics_step {stage : Stage} (standing : call.progress = .underway stage)
    (reading : Option UInt64) :
    (limiter.step call reading).limiter.metrics =
      limiter.metrics.after (limiter.step call reading).call.progress := by
  rcases step_cases standing reading with ⟨now, acts⟩ | fails
  · rw [acts]
    exact metrics_act limiter call now stage
  · rw [fails]
    exact metrics_unwound limiter stage

/-! ## Events -/

theorem delays_creditReport (place : Nat) (units remaining : UInt64) :
    (creditReport place units remaining).filterMap LogEvent.delay? = [] := by
  by_cases none : units = 0 <;> simp [creditReport, none, LogEvent.delay?]

theorem delays_act (limiter : Limiter) (call : Call) (now : UInt64) (stage : Stage) :
    (limiter.act call now stage).events.filterMap LogEvent.delay? =
      (limiter.act call now stage).call.delayAfterSleep?.toList := by
  cases stage with
  | arriving => exact congrArg Option.toList (delayAfterSleep?_movedTo call _).symm
  | leaving =>
      cases slept : call.slept <;>
        simp [act, leave, conclude, slept, Call.delayAfterSleep?, Progress.delay?, LogEvent.delay?]
  | charging place =>
      rw [act]
      cases here : limiter.tiers[place]? with
      | none => simp [charge_of_missing here]
      | some tier =>
          cases exceeds : tier.charge.overBudget with
          | true =>
              simp [charge_of_over here exceeds, Call.delayAfterSleep?, Call.movedTo,
                Progress.delay?]
          | false => simp [charge_of_within here exceeds]
  | blocked place =>
      rw [act]
      cases here : limiter.tiers[place]? with
      | none => simp [recheck_of_missing here]
      | some tier =>
          cases computed : tier.credit now with
          | error fault => simp [recheck_of_error here computed]
          | ok credit => simp [recheck_of_credit here computed, delays_creditReport]

/-- A step of a call on its way reports a delay exactly if the call returns with it after having
slept. -/
theorem delays_step {stage : Stage} (standing : call.progress = .underway stage)
    (reading : Option UInt64) :
    (limiter.step call reading).events.filterMap LogEvent.delay? =
      (limiter.step call reading).call.delayAfterSleep?.toList := by
  rcases step_cases standing reading with ⟨now, acts⟩ | fails
  · rw [acts]
    exact delays_act limiter call now stage
  · simp [fails]

/-- An event that reports a delay is left by a call that returns with it. -/
theorem returned_of_reported {stage : Stage} (standing : call.progress = .underway stage)
    {reading : Option UInt64} {delay : UInt64}
    (reported : .callerDelayed delay ∈ (limiter.step call reading).events) :
    (limiter.step call reading).call.progress = .returned delay := by
  have listed : delay ∈ (limiter.step call reading).events.filterMap LogEvent.delay? :=
    List.mem_filterMap.mpr ⟨_, reported, rfl⟩
  rw [delays_step standing, Option.mem_toList, Call.delayAfterSleep?] at listed
  cases ended : (limiter.step call reading).call.progress with
  | returned other =>
      split at listed
      · rw [ended] at listed
        exact congrArg Progress.returned (Option.some.inj listed)
      · cases listed
  | underway stage => simp [ended, Progress.delay?] at listed
  | failed stage cause => simp [ended, Progress.delay?] at listed

/-- An event that reports a credit is left by a look at that tier, and shows what the look left of
the count. -/
theorem remaining_act {now : UInt64} {stage : Stage} {place : Nat} {units remaining : UInt64}
    (reported : .tierCredited place units remaining ∈ (limiter.act call now stage).events) :
    ∃ tier, (limiter.act call now stage).limiter.tiers[place]? = some tier ∧
      tier.count = remaining := by
  by_cases blocked : stage = .blocked place
  · subst blocked
    rw [act] at reported ⊢
    cases here : limiter.tiers[place]? with
    | none => simp [recheck_of_missing here] at reported
    | some tier =>
        cases computed : tier.credit now with
        | error fault => simp [recheck_of_error here computed] at reported
        | ok credit =>
            rw [recheck_of_credit here computed] at reported ⊢
            refine ⟨credit.2, getElem?_putTier_self here _, ?_⟩
            by_cases none : credit.1 = 0
            · simp [creditReport, none] at reported
            · simp only [creditReport, if_neg none, List.mem_singleton,
                LogEvent.tierCredited.injEq] at reported
              exact reported.2.2.symm
  · by_cases charging : stage = .charging place
    · subst charging
      rw [act] at reported
      cases here : limiter.tiers[place]? with
      | none => simp [charge_of_missing here] at reported
      | some tier =>
          cases exceeds : tier.charge.overBudget with
          | true => simp [charge_of_over here exceeds] at reported
          | false => simp [charge_of_within here exceeds] at reported
    · exact absurd reported ((act_spares limiter call now charging blocked).silent _ _)

theorem remaining_step {stage : Stage} (standing : call.progress = .underway stage)
    {reading : Option UInt64} {place : Nat} {units remaining : UInt64}
    (reported : .tierCredited place units remaining ∈ (limiter.step call reading).events) :
    ∃ tier, (limiter.step call reading).limiter.tiers[place]? = some tier ∧
      tier.count = remaining := by
  rcases step_cases standing reading with ⟨now, acts⟩ | fails
  · rw [acts] at reported ⊢
    exact remaining_act reported
  · simp [fails] at reported

/-! ## Sleeping -/

theorem slept_act (limiter : Limiter) {call : Call} {stage : Stage} (now : UInt64)
    (asleep : (Progress.underway stage).sleeps = true → call.slept = true) :
    (limiter.act call now stage).call.slept =
      (call.slept || (limiter.act call now stage).call.progress.sleeps) := by
  cases stage with
  | arriving =>
      show call.slept = (call.slept || (Progress.underway (limiter.stageFrom 0)).sleeps)
      rw [sleeps_stageFrom, Bool.or_false]
  | leaving => exact (Bool.or_false _).symm
  | charging place =>
      rw [act]
      cases here : limiter.tiers[place]? with
      | none => simp [charge_of_missing here, Call.fail, Progress.sleeps]
      | some tier =>
          cases exceeds : tier.charge.overBudget with
          | true => simp [charge_of_over here exceeds, Call.movedTo, Progress.sleeps]
          | false => simp [charge_of_within here exceeds, Call.movedTo, sleeps_stageFrom]
  | blocked place =>
      have slept : call.slept = true := asleep rfl
      rw [act, slept, Bool.true_or, ← slept]
      cases here : limiter.tiers[place]? with
      | none => simp [recheck_of_missing here, Call.fail]
      | some tier =>
          cases computed : tier.credit now with
          | error fault => simp [recheck_of_error here computed, Call.fail]
          | ok credit => simp [recheck_of_credit here computed, Call.movedTo]

/-- After a step of a call on its way it has slept, or sleeps next, exactly if it had slept before
or the step left it blocked. -/
theorem slept_step {stage : Stage} (standing : call.progress = .underway stage)
    (asleep : call.progress.sleeps = true → call.slept = true) (reading : Option UInt64) :
    (limiter.step call reading).call.slept =
      (call.slept || (limiter.step call reading).call.progress.sleeps) := by
  rw [standing] at asleep
  rcases step_cases standing reading with ⟨now, acts⟩ | fails
  · rw [acts]
    exact slept_act limiter now asleep
  · rw [fails]
    exact (Bool.or_false _).symm

end Limiter

end FlowGate
