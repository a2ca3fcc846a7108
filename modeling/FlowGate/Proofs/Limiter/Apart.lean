/-
# Calls that do not overlap

A crowd may do anything in any order. Here it is known of a run that at no time more than one call
is on its way, and that in the end all calls have returned. Then a tier never holds more than one
caller. Without any such knowledge, a call consumes at most one unit of a tier, so a tier is charged
at most as often as there are calls.
-/

import FlowGate.Proofs.Limiter.Overdraft

namespace FlowGate.Limiter

namespace Crowd

/-! ## At most one call on its way -/

/-- The calls that have begun and have not ended. -/
def busy (crowd : Crowd) : Nat :=
  crowd.calls.countP fun call =>
    match call.progress with
    | .underway stage => stage != .arriving
    | _ => false

theorem blockedOn_le_busy (crowd : Crowd) (place : Nat) : crowd.blockedOn place ≤ crowd.busy := by
  refine List.countP_mono_left fun call _ blocked => ?_
  rw [beq_iff_eq] at blocked
  simp [blocked]

/-- A call that has ended stays as it is. -/
theorem calls_move_of_ended {crowd : Crowd} {caller : Nat} {call : Call} (move : Move)
    (there : crowd.calls[caller]? = some call) (ended : ∀ stage, call.progress ≠ .underway stage) :
    (crowd.move move).1.calls[caller]? = some call := by
  cases move with
  | join =>
      show (crowd.calls ++ [Call.fresh])[caller]? = some call
      rw [List.getElem?_append_left (List.getElem?_eq_some_iff.mp there).1, there]
  | resetMetrics => exact there
  | step other reading =>
      by_cases acts : ∃ call stage, crowd.calls[other]? = some call ∧
          call.progress = .underway stage
      · obtain ⟨moving, stage, found, standing⟩ := acts
        have apart : other ≠ caller := by
          rintro rfl
          obtain rfl : call = moving := Option.some.inj (there.symm.trans found)
          exact ended stage standing
        rw [move_step reading found standing]
        exact (List.getElem?_set_ne apart).trans there
      · rw [move_step_of_ended reading fun call stage found standing =>
          acts ⟨call, stage, found, standing⟩]
        exact there

theorem calls_play_of_ended {crowd : Crowd} {caller : Nat} {call : Call} (moves : List Move)
    (there : crowd.calls[caller]? = some call) (ended : ∀ stage, call.progress ≠ .underway stage) :
    (crowd.play moves).1.calls[caller]? = some call := by
  induction moves generalizing crowd with
  | nil => exact there
  | cons move moves ih => exact ih (calls_move_of_ended move there ended)

/-- If in the end all calls have returned, no call has failed on the way. -/
theorem failedOn_eq_zero {crowd : Crowd} {moves : List Move}
    (returned : ∀ call ∈ (crowd.play moves).1.calls, ∃ delay, call.progress = .returned delay)
    (place : Nat) : crowd.failedOn place = 0 := by
  rw [failedOn, List.countP_eq_zero]
  intro call listed failed
  obtain ⟨caller, there⟩ := List.mem_iff_getElem?.mp listed
  cases standing : call.progress with
  | underway stage => simp [standing] at failed
  | returned delay => simp [standing] at failed
  | failed stage cause =>
      have final := calls_play_of_ended moves there (by simp [standing])
      obtain ⟨delay, done⟩ := returned call (List.mem_of_getElem? final)
      rw [standing] at done
      cases done

/-- As long as no two calls overlap and none fails, a tier holds at most one caller. -/
theorem heldBy_le_one {crowd : Crowd} {moves : List Move} (alone : crowd.busy ≤ 1)
    (returned : ∀ call ∈ (crowd.play moves).1.calls, ∃ delay, call.progress = .returned delay)
    (place : Nat) : crowd.heldBy place ≤ 1 := by
  rw [heldBy_eq, failedOn_eq_zero returned]
  exact Nat.le_trans (blockedOn_le_busy crowd place) alone

end Crowd

/-! ## One unit for every call -/

/-- A call that has yet to consume a unit of the tier at a place. -/
def Call.isBefore (place : Nat) (call : Call) : Bool :=
  match call.progress with
  | .underway .arriving => true
  | .underway (.charging tier) => tier ≤ place
  | .underway (.blocked tier) => tier < place
  | _ => false

variable {limiter : Limiter} {call : Call} {place : Nat}

theorem isBefore_movedTo_stageFrom {tier : Nat}
    (before : (call.movedTo (limiter.stageFrom tier)).isBefore place = true) : tier ≤ place := by
  rw [stageFrom] at before
  split at before
  · exact of_decide_eq_true before
  · cases before

/-- A call that charges a tier leaves it behind for good. -/
theorem isBefore_charge {tier : Nat} (before : (limiter.charge call tier).call.isBefore place) :
    tier < place := by
  cases here : limiter.tiers[tier]? with
  | none =>
      rw [charge_of_missing here] at before
      cases before
  | some found =>
      cases exceeds : found.charge.overBudget with
      | true =>
          rw [charge_of_over here exceeds] at before
          exact of_decide_eq_true before
      | false =>
          rw [charge_of_within here exceeds] at before
          exact isBefore_movedTo_stageFrom before

theorem isBefore_recheck {tier : Nat} {now : UInt64}
    (before : (limiter.recheck call tier now).call.isBefore place) : tier < place := by
  cases here : limiter.tiers[tier]? with
  | none =>
      rw [recheck_of_missing here] at before
      cases before
  | some found =>
      cases computed : found.credit now with
      | error fault =>
          rw [recheck_of_error here computed] at before
          cases before
      | ok credit =>
          obtain ⟨units, next⟩ := credit
          rw [recheck_of_credit here computed] at before
          cases exceeds : next.overBudget with
          | true =>
              rw [if_pos exceeds] at before
              exact of_decide_eq_true before
          | false =>
              rw [if_neg (by simp [exceeds])] at before
              exact isBefore_movedTo_stageFrom before

/-- Whatever step a call takes that has yet to consume a unit of a tier afterwards, it had to
before, and it did not consume one in this step. -/
theorem isBefore_step {stage : Stage} {reading : Option UInt64}
    (standing : call.progress = .underway stage)
    (before : (limiter.step call reading).call.isBefore place) :
    call.isBefore place ∧ stage ≠ .charging place := by
  have acting : ∀ now, (limiter.act call now stage).call.isBefore place →
      call.isBefore place ∧ stage ≠ .charging place := by
    intro now acted
    cases stage with
    | arriving => exact ⟨by simp [Call.isBefore, standing], by simp⟩
    | charging tier =>
        have passed : tier < place := isBefore_charge acted
        exact ⟨by simp [Call.isBefore, standing, Nat.le_of_lt passed], by simp; omega⟩
    | blocked tier =>
        have passed : tier < place := isBefore_recheck acted
        exact ⟨by simp [Call.isBefore, standing, passed], by simp⟩
    | leaving => cases acted
  simp only [step, standing] at before
  by_cases reads : call.reads = true
  · rw [if_pos reads] at before
    cases reading with
    | none => cases before
    | some now => exact acting now before
  · rw [if_neg reads] at before
    exact acting 0 before

namespace Crowd

/-- The calls that have yet to consume a unit of the tier at a place. -/
def waitingFor (crowd : Crowd) (place : Nat) : Nat := crowd.calls.countP (·.isBefore place)

/-- A unit is consumed by a call that had yet to do so. -/
theorem chargesAt_move (crowd : Crowd) (move : Move) (place : Nat) :
    chargesAt place (crowd.move move).2.toList + (crowd.move move).1.waitingFor place +
        crowd.calls.length ≤
      crowd.waitingFor place + (crowd.move move).1.calls.length := by
  cases move with
  | join =>
      show 0 + (crowd.calls ++ [Call.fresh]).countP _ + _ ≤ _ + (crowd.calls ++ [Call.fresh]).length
      rw [List.countP_append, List.length_append, waitingFor]
      have one : [Call.fresh].countP (·.isBefore place) ≤ 1 := List.countP_le_length
      rw [List.length_singleton]
      omega
  | resetMetrics => exact Nat.le_of_eq (Nat.zero_add _ ▸ rfl)
  | step caller reading =>
      by_cases acts : ∃ call stage, crowd.calls[caller]? = some call ∧
          call.progress = .underway stage
      · obtain ⟨call, stage, found, standing⟩ := acts
        obtain ⟨others, before, after⟩ := exists_countP_set found (·.isBefore place)
        rw [move_step reading found standing, Option.toList_some, chargesAt_singleton, waitingFor,
          waitingFor, before, after, List.length_set]
        have later : (crowd.limiter.step call reading).call.isBefore place →
            call.isBefore place ∧ stage ≠ .charging place := isBefore_step standing
        have charges : (stage == .charging place && reading.isSome) = true →
            call.isBefore place := by
          rw [Bool.and_eq_true, beq_iff_eq]
          rintro ⟨rfl, -⟩
          simp [Call.isBefore, standing]
        show (stage == .charging place && reading.isSome).toNat + _ + _ ≤ _
        by_cases still : (crowd.limiter.step call reading).call.isBefore place = true
        · have silent : (stage == .charging place) = false := by simp [(later still).2]
          rw [if_pos still, if_pos (later still).1, silent, Bool.false_and, Bool.toNat_false]
          omega
        · rw [if_neg still]
          by_cases charging : (stage == .charging place && reading.isSome) = true
          · rw [charging, if_pos (charges charging), Bool.toNat_true]
            omega
          · rw [Bool.eq_false_iff.mpr charging, Bool.toNat_false]
            omega
      · rw [move_step_of_ended reading fun call stage found standing =>
          acts ⟨call, stage, found, standing⟩]
        exact Nat.le_of_eq (Nat.zero_add _ ▸ rfl)

theorem chargesAt_play (crowd : Crowd) (moves : List Move) (place : Nat) :
    chargesAt place (crowd.play moves).2 + (crowd.play moves).1.waitingFor place +
        crowd.calls.length ≤
      crowd.waitingFor place + (crowd.play moves).1.calls.length := by
  induction moves generalizing crowd with
  | nil => exact Nat.le_of_eq (Nat.zero_add _ ▸ rfl)
  | cons move moves ih =>
      have first := crowd.chargesAt_move move place
      have rest := ih (crowd.move move).1
      show chargesAt place ((crowd.move move).2.toList ++ ((crowd.move move).1.play moves).2) +
          ((crowd.move move).1.play moves).1.waitingFor place + _ ≤
        _ + ((crowd.move move).1.play moves).1.calls.length
      rw [chargesAt_append]
      omega

/-- A tier is charged at most as often as there are calls. -/
theorem chargesAt_le_length (limiter : Limiter) (moves : List Move) (place : Nat) :
    chargesAt place (play { limiter } moves).2 ≤ (play { limiter } moves).1.calls.length := by
  have charged := chargesAt_play { limiter } moves place
  have nobody : waitingFor { limiter } place = 0 := rfl
  omega

end Crowd

end FlowGate.Limiter
