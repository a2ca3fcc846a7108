/-
# Where arithmetic can fail

A limiter that was built has rules with periods of a millisecond or more, and no call writes a rule.
So no credit is ever refused: the one divisor is a period, products fit into the accumulator, and no
more is taken from a count than it holds. Nor does a call look for a tier that is missing, because
it goes from one tier to the next only while there is one. What is left for a call to fail for is
its clock.

A step keeps this of the call that takes it, and from there it is carried over runs of any callers
and over whole sessions, in which calls are nested. Tiers whose rules nobody checked do fail, and it
is known exactly when.
-/

import FlowGate.Proofs.Limiter.Build
import FlowGate.Proofs.Limiter.Record
import FlowGate.Proofs.Limiter.Upkeep
import FlowGate.Proofs.Tier.InPlace

namespace FlowGate.Limiter

open Config (Rule)

/-! ## One step -/

/-- A stage at which a call looks at no tier, or at one of so many. -/
def Stage.Within (tiers : Nat) : Stage → Prop
  | .arriving => True
  | .charging place => place < tiers
  | .blocked place => place < tiers
  | .leaving => True

/-- A call that has come this far with its last reading next looks at a tier that is there, or it
has returned, or it failed for want of that reading. -/
def Progress.Sound (tiers : Nat) (reading : Option UInt64) : Progress → Prop
  | .underway stage => stage.Within tiers
  | .returned _ => True
  | .failed _ cause => cause = .clockFailed ∧ reading = none

/-- Rules with periods of a millisecond or more. -/
def Lasting (rules : List Rule) : Prop := ∀ rule ∈ rules, rule.period ≠ 0

section Step

variable {limiter : Limiter} {call : Call} {stage : Stage}

theorem length_tiers (limiter : Limiter) : limiter.tiers.length = limiter.rules.length :=
  (List.length_map _).symm

/-- A call goes on to a tier that is there, as the number of tiers that it goes by is theirs. -/
theorem within_stageFrom (limiter : Limiter) (place : Nat) :
    (limiter.stageFrom place).Within limiter.rules.length := by
  rw [stageFrom, limiter.counted, length_tiers]
  split
  · assumption
  · trivial

theorem act_sound (lasting : Lasting limiter.rules) (now : UInt64) (reading : Option UInt64)
    (within : stage.Within limiter.rules.length) :
    (limiter.act call now stage).call.progress.Sound limiter.rules.length reading := by
  cases stage with
  | arriving => exact within_stageFrom limiter 0
  | leaving => trivial
  | charging place =>
      have inside : place < limiter.tiers.length := (length_tiers limiter).symm ▸ within
      have here := List.getElem?_eq_getElem inside
      rw [act]
      cases exceeds : limiter.tiers[place].charge.overBudget with
      | true =>
          rw [charge_of_over here exceeds]
          exact within
      | false =>
          rw [charge_of_within here exceeds]
          exact within_stageFrom limiter _
  | blocked place =>
      have inside : place < limiter.tiers.length := (length_tiers limiter).symm ▸ within
      have here := List.getElem?_eq_getElem inside
      have listed : limiter.tiers[place].rule ∈ limiter.rules :=
        List.mem_map_of_mem (List.getElem_mem inside)
      obtain ⟨units, next, credited⟩ := Tier.exists_credit_eq_ok now (lasting _ listed)
      rw [act, recheck_of_credit here credited]
      cases next.overBudget with
      | true => exact within
      | false => exact within_stageFrom limiter _

/-- No step of a call divides by zero, leaves the range of a word or looks for a missing tier. -/
theorem step_sound (lasting : Lasting limiter.rules) (standing : call.progress = .underway stage)
    (within : stage.Within limiter.rules.length) (reading : Option UInt64) :
    (limiter.step call reading).call.progress.Sound limiter.rules.length reading := by
  simp only [step, standing]
  by_cases reads : call.reads = true
  · rw [if_pos reads]
    cases reading with
    | none => exact ⟨rfl, rfl⟩
    | some now => exact act_sound lasting now (some now) within
  · rw [if_neg reads]
    exact act_sound lasting 0 reading within

end Step

variable {rules : List Rule}

/-! ## Any number of callers -/

namespace Crowd

/-- A crowd at a limiter with these rules, whose callers look at tiers that are there. -/
structure Sound (rules : List Rule) (crowd : Crowd) : Prop where
  rules_eq : crowd.limiter.rules = rules
  within : ∀ call ∈ crowd.calls, ∀ stage, call.progress = .underway stage →
    stage.Within rules.length

variable {crowd : Crowd}

theorem Sound.move (lasting : Lasting rules) (sound : crowd.Sound rules) (move : Move) :
    (crowd.move move).1.Sound rules ∧
      ∀ deed ∈ (crowd.move move).2, deed.progress.Sound rules.length deed.reading := by
  obtain ⟨rfl, within⟩ := sound
  cases move with
  | join =>
      refine ⟨⟨rfl, fun call listed stage standing => ?_⟩, by rintro _ ⟨⟩⟩
      rcases List.mem_append.mp listed with before | joined
      · exact within call before stage standing
      · cases List.mem_singleton.mp joined
        cases standing
        trivial
  | resetMetrics => exact ⟨⟨rfl, within⟩, by rintro _ ⟨⟩⟩
  | step caller reading =>
      by_cases acts : ∃ call stage, crowd.calls[caller]? = some call ∧
          call.progress = .underway stage
      · obtain ⟨call, stage, found, standing⟩ := acts
        have stepped := step_sound lasting standing
          (within call (List.mem_of_getElem? found) stage standing) reading
        rw [move_step reading found standing]
        refine ⟨⟨rules_step crowd.limiter call reading, fun other listed later onward => ?_⟩,
          fun _ done => ?_⟩
        · rcases List.mem_or_eq_of_mem_set listed with before | rfl
          · exact within other before later onward
          · rwa [onward] at stepped
        · cases done
          exact stepped
      · rw [move_step_of_ended reading fun call stage found standing =>
          acts ⟨call, stage, found, standing⟩]
        exact ⟨⟨rfl, within⟩, by rintro _ ⟨⟩⟩

theorem Sound.play (lasting : Lasting rules) (sound : crowd.Sound rules) (moves : List Move) :
    (crowd.play moves).1.Sound rules ∧
      ∀ deed ∈ (crowd.play moves).2, deed.progress.Sound rules.length deed.reading := by
  induction moves generalizing crowd with
  | nil => exact ⟨sound, by rintro _ ⟨⟩⟩
  | cons move moves ih =>
      obtain ⟨next, first⟩ := sound.move lasting move
      obtain ⟨last, rest⟩ := ih next
      refine ⟨last, fun deed done => ?_⟩
      rcases List.mem_append.mp done with now | later
      · exact first deed (Option.mem_toList.mp now)
      · exact rest deed later

end Crowd

/-! ## Nested calls -/

/-- A call on its way that next looks at a tier that is there, if at any. -/
def Frame.Sound (tiers : Nat) (frame : Frame) : Prop :=
  ∃ stage, frame.call.progress = .underway stage ∧ stage.Within tiers

namespace Run

/-- A run at a limiter with these rules, all of whose calls look at tiers that are there. -/
structure Sound (rules : List Rule) (run : Run) : Prop where
  rules_eq : run.world.limiter.rules = rules
  top : run.top.Sound rules.length
  below : ∀ frame ∈ run.below, frame.Sound rules.length

variable {run next : Run}

theorem sound_opening {world : World} (same : world.limiter.rules = rules) :
    world.opening.Sound rules where
  rules_eq := same
  top := ⟨.arriving, rfl, trivial⟩
  below := by rintro _ ⟨⟩

theorem Sound.stepCall (lasting : Lasting rules) (sound : run.Sound rules) :
    (run.world.stepCall run.top.call).2.progress.Sound rules.length run.world.reading := by
  obtain ⟨rfl, ⟨stage, standing, within⟩, -⟩ := sound
  exact step_sound lasting standing within run.world.reading

theorem Sound.step (lasting : Lasting rules) (step : run.Step next) (sound : run.Sound rules) :
    next.Sound rules := by
  have same := step.rules_eq.trans sound.rules_eq
  have stepped := sound.stepCall lasting
  cases step with
  | move clock due noNap => exact ⟨same, sound.top, sound.below⟩
  | begin due =>
      exact ⟨same, ⟨.arriving, rfl, trivial⟩, List.forall_mem_cons.mpr ⟨sound.top, sound.below⟩⟩
  | @goOn stage awake standing notBlocked =>
      rw [standing] at stepped
      exact ⟨same, ⟨stage, standing, stepped⟩, sound.below⟩
  | @sleep tier awake standing =>
      obtain ⟨-, asleep⟩ := sleep_eq (run.world.stepCall run.top.call).1
        (run.world.stepCall run.top.call).2 tier
      rw [standing] at stepped
      exact ⟨same, ⟨.blocked tier, (congrArg Call.progress asleep).trans standing, stepped⟩,
        sound.below⟩
  | back awake returned around =>
      obtain ⟨frame, below⟩ := List.forall_mem_cons.mp (around ▸ sound.below)
      exact ⟨same, frame, below⟩

/-- A run fails for the cause for which the acting call does. -/
theorem failed_of_next {after : World} {cause : Failure}
    (ended : run.next = .inr (after, .failed cause)) :
    ∃ stage, (run.world.stepCall run.top.call).2.progress = .failed stage cause := by
  obtain ⟨awake, -, -⟩ := next_eq_inr ended
  rw [next_of_awake awake, settle] at ended
  cases came : (run.world.stepCall run.top.call).2.progress with
  | underway stage => cases stage <;> simp [came] at ended
  | returned delay => cases around : run.below <;> simp [came, around] at ended
  | failed stage other =>
      simp only [came, Sum.inr.injEq, Prod.mk.injEq, Ending.failed.injEq] at ended
      exact ⟨stage, ended.2 ▸ rfl⟩

theorem clockFailed_of_finish (lasting : Lasting rules) (sound : run.Sound rules) (steps : Nat)
    {cause : Failure} (failed : (run.finish steps).2 = .failed cause) : cause = .clockFailed := by
  refine of_finish (Sound rules) (fun _ ending => ∀ cause, ending = .failed cause →
    cause = .clockFailed) (fun step sound => sound.step lasting step) ?_ ?_ steps sound cause failed
  · rintro last after _ ended sound cause rfl
    obtain ⟨stage, came⟩ := failed_of_next ended
    have stepped := sound.stepCall lasting
    rw [came] at stepped
    exact stepped.1
  · intro last sound cause unfinished
    cases unfinished

end Run

/-- Calls of a limiter whose rules last keep those rules, and fail only with their clock. -/
theorem upholds_lasting (lasting : Lasting rules) :
    Upholds (fun limiter => limiter.rules = rules) (· = .clockFailed) where
  control world same :=
    ⟨(Run.rules_finish world.patience world.opening).trans same, fun _ failed =>
      Run.clockFailed_of_finish lasting (Run.sound_opening same) world.patience failed⟩
  reset _ same := same

/-! ## Built limiters and unchecked tiers -/

/-- A limiter that was built never fails by a computation, nor by looking for a tier that is
missing. Whatever callers have done, in any order and with any readings, no step of theirs failed
but for want of a reading; and from there on no operation of a session fails but with its clock, be
it a call or a look at the tiers or at the description.

A tier whose rule may not have been checked fails when it is credited, with a period of zero and
after the start of its window, and never else. The failure leaves the tier as the entries before it
have made it. -/
theorem faults_only_in_unchecked_tiers :
    (∀ (settings : List Setting) (opened : UInt64) (limiter : Limiter),
      build settings opened = .ok limiter → ∀ moves : List Move,
        (∀ deed ∈ (Crowd.play { limiter } moves).2, ∀ stage cause,
          deed.progress = .failed stage cause → cause = .clockFailed ∧ deed.reading = none) ∧
        ∀ (now : UInt64) (commands : List Command),
          ∀ report ∈ ((Session.start (Crowd.play { limiter } moves).1.limiter now).performAll
            commands).2, ∀ cause, report.reply = .failure cause → cause = .clockFailed) ∧
      ∀ (tier : Tier) (entries : List Tier.Entry),
        (∀ fault left, (Tier.InPlace.enactAll entries).run tier = .error fault left ↔
          fault = .divisionByZero ∧ tier.rule.period = 0 ∧
            ∃ past now rest, entries = past ++ .credit now :: rest ∧
              (Tier.InPlace.enactAll past).run tier = .ok () left ∧ left.windowStart < now) ∧
        (Tier.InPlace.enactAll entries).run tier =
          match (tier.statement entries).2 with
          | none => .ok () (tier.closing entries)
          | some fault => .error fault (tier.closing entries) := by
  refine ⟨fun settings opened limiter built moves => ?_, fun tier entries => ⟨fun _ _ => ?_, ?_⟩⟩
  · obtain ⟨⟨-, enforceable⟩, rfl⟩ := (build_eq_ok_iff settings opened limiter).mp built
    have lasting : Lasting (rulesOf settings) := fun rule listed => (enforceable rule listed).2
    have begins : Crowd.Sound (rulesOf settings) { limiter := ofRules (rulesOf settings) opened } :=
      ⟨rules_ofRules (rulesOf settings) opened, by rintro _ ⟨⟩⟩
    obtain ⟨crowd, deeds⟩ := begins.play lasting moves
    refine ⟨fun deed done stage cause failed => ?_, fun now commands => ?_⟩
    · have sound := deeds deed done
      rwa [failed] at sound
    · exact ((upholds_lasting lasting).performAll commands crowd.rules_eq).2
  · exact Tier.InPlace.run_enactAll_eq_error_iff
  · exact Tier.InPlace.run_enactAll entries tier

/-- The second of two callers is credited at the largest reading there is, and fails when it leaves
and its clock does not answer. A tier with a period of zero bears a credit at the start of its
window and fails at the next one, with its count as it was. -/
theorem faults_only_in_unchecked_tiers_zeroPeriod :
    let limiter := ofRules [⟨1, 1⟩] 0
    let moves : List Move := [.join, .join, .step 0 (some 0), .step 0 (some 5), .step 0 none,
      .step 1 (some 3), .step 1 (some 0), .step 1 (some Word.top), .step 1 none]
    let deeds := (Crowd.play { limiter } moves).2
    build [.tier 1 ⟨0, 1999999, by decide⟩] 0 = .ok limiter ∧
      deeds.map Deed.progress =
        [.underway (.charging 0), .underway .leaving, .returned 0, .underway (.charging 0),
          .underway (.blocked 0), .underway .leaving, .failed .leaving .clockFailed] ∧
      (∀ deed ∈ deeds, ∀ stage cause,
        deed.progress = .failed stage cause → cause = .clockFailed ∧ deed.reading = none) ∧
      (Tier.InPlace.enactAll [.charge 3, .credit 100, .credit 101, .charge 1]).run
        (Tier.create ⟨5, 0⟩ 100) = .error .divisionByZero ⟨⟨5, 0⟩, 3, 100⟩ := by
  intro limiter moves deeds
  have built : build [.tier 1 ⟨0, 1999999, by decide⟩] 0 = .ok limiter := by decide +kernel
  refine ⟨built, by decide +kernel, ?_, ?_⟩
  · exact (faults_only_in_unchecked_tiers.1 _ 0 limiter built moves).1
  · exact ((faults_only_in_unchecked_tiers.2 (Tier.create ⟨5, 0⟩ 100) _).1 _ _).mpr
      ⟨rfl, rfl, [.charge 3, .credit 100], 101, [.charge 1], rfl, rfl, by decide⟩

end FlowGate.Limiter
