/-
# What a move does at one tier

A move of a crowd concerns at most one tier. Seen from the tier at one place there are five things
that can happen: nothing; a caller enters, which consumes a unit within the budget; a caller is
blocked, which consumes a unit beyond it; a blocked caller looks again in vain; or it is released.
`Turn` says what each of them does to the tier, to the number of callers held by it, and what deed
is left. Invariants of a crowd are proved over these five turns, and `Crowd.play_turns` carries them
over a whole run; the steps of a call are not opened again.

A caller whose clock fails stays held where it was blocked, since the unit that it consumed is not
given back.
-/

import FlowGate.Limiter.Crowd
import FlowGate.Proofs.Tier.Credit

namespace FlowGate.Limiter

/-- What is reported of a credit: nothing, if no units were given back. -/
def creditReport (place : Nat) (units remaining : UInt64) : List LogEvent :=
  if units = 0 then [] else [.tierCredited place units remaining]

namespace Deed

/-- A deed without any consequence for the tier at a place. -/
structure Idle (place : Nat) (deed : Deed) : Prop where
  charges : deed.charges place = false
  passes : deed.passes place = false
  credited : deed.credited place = 0

theorem creditedBy_eq_zero {place : Nat} {event : LogEvent}
    (silent : ∀ units remaining, event ≠ .tierCredited place units remaining) :
    creditedBy place event = 0 := by
  cases event with
  | tierCredited other units remaining =>
      have elsewhere : other ≠ place := by
        rintro rfl
        exact silent units remaining rfl
      rw [creditedBy, if_neg elsewhere]
  | limiterCreated tiers => rfl
  | callerDelayed delay => rfl
  | samplerCreated window period => rfl

theorem credited_eq_zero {place : Nat} {deed : Deed}
    (silent : ∀ units remaining, .tierCredited place units remaining ∉ deed.events) :
    deed.credited place = 0 := by
  obtain ⟨caller, stage, reading, progress, events⟩ := deed
  induction events with
  | nil => rfl
  | cons event events ih =>
      have rest := ih fun units remaining listed =>
        silent units remaining (List.mem_cons_of_mem _ listed)
      have first : creditedBy place event = 0 := by
        apply creditedBy_eq_zero
        rintro units remaining rfl
        exact silent units remaining List.mem_cons_self
      rw [credited] at rest ⊢
      rw [List.foldr_cons, rest, first]

theorem credited_creditReport (place : Nat) (units remaining : UInt64) (deed : Deed)
    (reported : deed.events = creditReport place units remaining) :
    deed.credited place = units.toNat := by
  rw [credited, reported, creditReport]
  by_cases none : units = 0
  · simp [none]
  · simp [none, creditedBy]

/-- A deed at another stage than the two at which a caller deals with the tier. -/
theorem Idle.of_elsewhere {place : Nat} {deed : Deed} (notCharging : deed.stage ≠ .charging place)
    (notBlocked : deed.stage ≠ .blocked place)
    (silent : ∀ units remaining, .tierCredited place units remaining ∉ deed.events) :
    deed.Idle place where
  charges := by simp [Deed.charges, notCharging]
  passes := by simp [Deed.passes, notCharging, notBlocked]
  credited := credited_eq_zero silent

/-- A call that failed consumed nothing unless it had charged before, and got nowhere. -/
theorem Idle.of_failed {place : Nat} {deed : Deed} {stage : Stage} {cause : Failure}
    (failed : deed.progress = .failed stage cause) (quiet : deed.events = [])
    (noCharge : deed.charges place = false) : deed.Idle place where
  charges := noCharge
  passes := by simp [Deed.passes, failed]
  credited := credited_eq_zero (by simp [quiet])

end Deed

/-- What a move can do at the tier at a place: the tier and the number of callers that it holds,
the deed, and then the tier and the number of callers afterwards. -/
inductive Turn (place : Nat) : Tier → Nat → Option Deed → Tier → Nat → Prop
  /-- The move does not concern the tier. -/
  | aside {tier held deed} (idle : ∀ done ∈ deed, Deed.Idle place done) :
      Turn place tier held deed tier held
  /-- A caller consumes a unit within the budget and goes on. -/
  | enter {tier held caller now stage} (within : tier.charge.overBudget = false)
      (onward : stage ≠ .blocked place) :
      Turn place tier held
        (some ⟨caller, .charging place, some now, .underway stage, []⟩)
        tier.charge held
  /-- A caller consumes a unit beyond the budget and is blocked. -/
  | block {tier held caller now} (exceeds : tier.charge.overBudget = true) :
      Turn place tier held
        (some ⟨caller, .charging place, some now, .underway (.blocked place), []⟩)
        tier.charge (held + 1)
  /-- A blocked caller credits the tier and finds it over budget still. -/
  | wait {tier next held caller now units} (credited : tier.credit now = .ok (units, next))
      (exceeds : next.overBudget = true) :
      Turn place tier (held + 1)
        (some ⟨caller, .blocked place, some now, .underway (.blocked place),
          creditReport place units next.count⟩)
        next (held + 1)
  /-- A blocked caller credits the tier, finds it within budget and goes on. -/
  | release {tier next held caller now units stage}
      (credited : tier.credit now = .ok (units, next)) (within : next.overBudget = false)
      (onward : stage ≠ .blocked place) :
      Turn place tier (held + 1)
        (some ⟨caller, .blocked place, some now, .underway stage,
          creditReport place units next.count⟩)
        next held

/-! ## What comes of dealing with a tier -/

section Outcomes

variable {limiter : Limiter} {call : Call} {place : Nat} {tier : Tier}

theorem charge_of_missing (missing : limiter.tiers[place]? = none) :
    limiter.charge call place =
      ⟨limiter.poison, call.fail (.charging place) (.arithmetic (.missingTier place)), []⟩ := by
  simp [charge, consume, missing]

theorem charge_of_over (here : limiter.tiers[place]? = some tier)
    (exceeds : tier.charge.overBudget = true) :
    limiter.charge call place =
      ⟨limiter.putTier place tier.charge, { call.movedTo (.blocked place) with slept := true },
        []⟩ := by
  simp [charge, consume, here, exceeds]

theorem charge_of_within (here : limiter.tiers[place]? = some tier)
    (within : tier.charge.overBudget = false) :
    limiter.charge call place =
      ⟨limiter.putTier place tier.charge, call.movedTo (limiter.stageFrom (place + 1)), []⟩ := by
  simp [charge, consume, here, within]

theorem recheck_of_missing (missing : limiter.tiers[place]? = none) (now : UInt64) :
    limiter.recheck call place now =
      ⟨limiter.poison, call.fail (.blocked place) (.arithmetic (.missingTier place)), []⟩ := by
  simp [recheck, lookAgain, missing]

theorem recheck_of_error {now : UInt64} {fault : Fault}
    (here : limiter.tiers[place]? = some tier) (failed : tier.credit now = .error fault) :
    limiter.recheck call place now =
      ⟨limiter.poison, call.fail (.blocked place) (.arithmetic fault), []⟩ := by
  simp [recheck, lookAgain, here, failed]

theorem recheck_of_credit {now units : UInt64} {next : Tier}
    (here : limiter.tiers[place]? = some tier) (credited : tier.credit now = .ok (units, next)) :
    limiter.recheck call place now =
      ⟨limiter.putTier place next,
        call.movedTo (if next.overBudget then .blocked place else limiter.stageFrom (place + 1)),
        creditReport place units next.count⟩ := by
  simp [recheck, lookAgain, here, credited, creditReport]

/-- A failing clock leaves the tiers as they are. -/
@[simp]
theorem tiers_unwound (limiter : Limiter) (stage : Stage) :
    (limiter.unwound stage).tiers = limiter.tiers := by
  rw [unwound]
  split <;> rfl

/-- A failing clock leaves the metrics as they are. -/
@[simp]
theorem metrics_unwound (limiter : Limiter) (stage : Stage) :
    (limiter.unwound stage).metrics = limiter.metrics := by
  rw [unwound]
  split <;> rfl

end Outcomes

/-! ## The steps of a call -/

/-- An effect that leaves alone the tier at a place, and a call that the tier does not hold. -/
structure Effect.Spares (effect : Effect) (limiter : Limiter) (place : Nat) : Prop where
  tier : effect.limiter.tiers[place]? = limiter.tiers[place]?
  silent : ∀ units remaining, .tierCredited place units remaining ∉ effect.events
  free : effect.call.heldBy ≠ some place

/-- The number of tiers that a call goes by is the number of tiers that are there. -/
theorem stageFrom_eq (limiter : Limiter) (place : Nat) :
    limiter.stageFrom place =
      if place < limiter.tiers.length then .charging place else .leaving := by
  rw [stageFrom, limiter.counted]

theorem stageFrom_ne_blocked (limiter : Limiter) (tier place : Nat) :
    limiter.stageFrom tier ≠ .blocked place := by
  rw [stageFrom]
  split <;> exact fun equal => nomatch equal

theorem heldBy_movedTo_stageFrom (limiter : Limiter) (call : Call) (tier : Nat) :
    (call.movedTo (limiter.stageFrom tier)).heldBy = none := by
  rw [stageFrom]
  split <;> rfl

theorem getElem?_putTier_ne {limiter : Limiter} {place other : Nat} (apart : other ≠ place)
    (tier : Tier) : (limiter.putTier other tier).tiers[place]? = limiter.tiers[place]? :=
  List.getElem?_set_ne apart

theorem getElem?_putTier_self {limiter : Limiter} {place : Nat} {before : Tier}
    (here : limiter.tiers[place]? = some before) (tier : Tier) :
    (limiter.putTier place tier).tiers[place]? = some tier := by
  have inside : place < limiter.tiers.length := (List.getElem?_eq_some_iff.mp here).1
  simp [inside]

theorem charge_spares (limiter : Limiter) (call : Call) {place other : Nat}
    (apart : other ≠ place) : (limiter.charge call other).Spares limiter place := by
  cases here : limiter.tiers[other]? with
  | none =>
      rw [charge_of_missing here]
      exact ⟨rfl, by simp, by simp [Call.fail, Call.heldBy]⟩
  | some tier =>
      cases exceeds : tier.charge.overBudget with
      | true =>
          rw [charge_of_over here exceeds]
          exact ⟨getElem?_putTier_ne apart _, by simp, by simp [Call.movedTo, Call.heldBy, apart]⟩
      | false =>
          rw [charge_of_within here exceeds]
          exact ⟨getElem?_putTier_ne apart _, by simp, by simp [heldBy_movedTo_stageFrom]⟩

theorem recheck_spares (limiter : Limiter) (call : Call) (now : UInt64) {place other : Nat}
    (apart : other ≠ place) : (limiter.recheck call other now).Spares limiter place := by
  cases here : limiter.tiers[other]? with
  | none =>
      rw [recheck_of_missing here]
      exact ⟨rfl, by simp, by simp [Call.fail, Call.heldBy, apart]⟩
  | some tier =>
      cases computed : tier.credit now with
      | error fault =>
          rw [recheck_of_error here computed]
          exact ⟨rfl, by simp, by simp [Call.fail, Call.heldBy, apart]⟩
      | ok credit =>
          obtain ⟨units, next⟩ := credit
          rw [recheck_of_credit here computed]
          refine ⟨getElem?_putTier_ne apart _, ?_, ?_⟩
          · intro amount remaining
            rw [creditReport]
            by_cases none : units = 0 <;> simp [none, Ne.symm apart]
          · by_cases exceeds : next.overBudget = true
            · simp [exceeds, Call.movedTo, Call.heldBy, apart]
            · rw [if_neg exceeds, heldBy_movedTo_stageFrom]
              exact fun equal => nomatch equal

/-- What a call does at a stage that has nothing to do with a place spares that place. -/
theorem act_spares (limiter : Limiter) (call : Call) (now : UInt64) {stage : Stage} {place : Nat}
    (notCharging : stage ≠ .charging place) (notBlocked : stage ≠ .blocked place) :
    (limiter.act call now stage).Spares limiter place := by
  cases stage with
  | arriving =>
      refine ⟨rfl, by simp [act], ?_⟩
      have free := heldBy_movedTo_stageFrom limiter call 0
      show (call.movedTo (limiter.stageFrom 0)).heldBy ≠ some place
      simp [free]
  | charging other => exact charge_spares limiter call fun same => notCharging (same ▸ rfl)
  | blocked other => exact recheck_spares limiter call now fun same => notBlocked (same ▸ rfl)
  | leaving =>
      refine ⟨rfl, ?_, by simp [act, leave, Call.heldBy]⟩
      intro units remaining
      cases slept : call.slept <;> simp [act, leave, conclude, slept]

/-! ## One step, seen from a tier -/

/-- One if a tier holds the call, and zero if it does not. -/
def Call.heldAt (call : Call) (place : Nat) : Nat :=
  if call.heldBy == some place then 1 else 0

theorem heldAt_of_heldBy {call : Call} {place : Nat} (held : call.heldBy = some place) :
    call.heldAt place = 1 := by
  simp [Call.heldAt, held]

theorem heldAt_of_heldBy_ne {call : Call} {place : Nat} (free : call.heldBy ≠ some place) :
    call.heldAt place = 0 := by
  simp [Call.heldAt, free]

/-- An effect of a call that stood at a stage is a turn at a tier, whoever the caller is and however
many others the tier holds. -/
def Effect.IsTurn (effect : Effect) (place : Nat) (tier : Tier) (call : Call) (stage : Stage)
    (reading : Option UInt64) : Prop :=
  ∃ next, effect.limiter.tiers[place]? = some next ∧ ∀ caller others,
    Turn place tier (others + call.heldAt place)
      (some ⟨caller, stage, reading, effect.call.progress, effect.events⟩)
      next (others + effect.call.heldAt place)

variable {limiter : Limiter} {call : Call} {place : Nat} {tier : Tier}

theorem charge_isTurn (now : UInt64) (here : limiter.tiers[place]? = some tier)
    (free : call.heldBy = none) :
    (limiter.charge call place).IsTurn place tier call (.charging place) (some now) := by
  have outside : call.heldAt place = 0 := heldAt_of_heldBy_ne (by simp [free])
  cases exceeds : tier.charge.overBudget with
  | true =>
      rw [charge_of_over here exceeds]
      refine ⟨tier.charge, getElem?_putTier_self here _, fun caller others => ?_⟩
      rw [outside, heldAt_of_heldBy rfl]
      exact .block exceeds
  | false =>
      have still := heldBy_movedTo_stageFrom limiter call (place + 1)
      rw [charge_of_within here exceeds]
      refine ⟨tier.charge, getElem?_putTier_self here _, fun caller others => ?_⟩
      rw [outside, heldAt_of_heldBy_ne (by simp [still])]
      exact .enter exceeds (stageFrom_ne_blocked _ _ _)

theorem recheck_isTurn (now : UInt64) (here : limiter.tiers[place]? = some tier)
    (held : call.heldBy = some place) :
    (limiter.recheck call place now).IsTurn place tier call (.blocked place) (some now) := by
  have inside : call.heldAt place = 1 := heldAt_of_heldBy held
  cases computed : tier.credit now with
  | error fault =>
      rw [recheck_of_error here computed]
      refine ⟨tier, here, fun caller others => ?_⟩
      rw [inside, heldAt_of_heldBy rfl]
      refine .aside fun done deed => ?_
      cases deed
      exact .of_failed rfl rfl rfl
  | ok credit =>
      obtain ⟨units, next⟩ := credit
      rw [recheck_of_credit here computed]
      refine ⟨next, getElem?_putTier_self here _, fun caller others => ?_⟩
      cases exceeds : next.overBudget with
      | true =>
          rw [if_pos rfl, inside, heldAt_of_heldBy rfl]
          exact .wait computed exceeds
      | false =>
          have freed := heldBy_movedTo_stageFrom limiter call (place + 1)
          rw [if_neg Bool.false_ne_true, inside, heldAt_of_heldBy_ne (by simp [freed])]
          exact .release computed exceeds (stageFrom_ne_blocked _ _ _)

/-- A step that takes a reading from a clock that fails. The call stays held where it was. -/
theorem fail_isTurn {stage : Stage} (standing : call.progress = .underway stage)
    (here : limiter.tiers[place]? = some tier) :
    Effect.IsTurn ⟨limiter.unwound stage, call.fail stage .clockFailed, []⟩ place tier call stage
      none := by
  have still : (call.fail stage .clockFailed).heldBy = call.heldBy := by
    cases stage <;> simp [Call.fail, Call.heldBy, standing]
  refine ⟨tier, by rwa [tiers_unwound], fun caller others => ?_⟩
  simp only [Call.heldAt, still]
  refine .aside fun done deed => ?_
  cases deed
  exact .of_failed rfl rfl (by simp [Deed.charges])

/-- A step at a stage that does not concern the tier. -/
theorem spares_isTurn {effect : Effect} {stage : Stage} (reading : Option UInt64)
    (standing : call.progress = .underway stage) (here : limiter.tiers[place]? = some tier)
    (notCharging : stage ≠ .charging place) (notBlocked : stage ≠ .blocked place)
    (spares : effect.Spares limiter place) :
    effect.IsTurn place tier call stage reading := by
  have outside : call.heldAt place = 0 := by
    apply heldAt_of_heldBy_ne
    cases stage <;> simp_all [Call.heldBy]
  refine ⟨tier, spares.tier.trans here, fun caller others => ?_⟩
  rw [outside, heldAt_of_heldBy_ne spares.free]
  refine .aside fun done deed => ?_
  cases deed
  exact .of_elsewhere notCharging notBlocked spares.silent

/-- A step of a call is a turn at every tier. -/
theorem step_isTurn {stage : Stage} (reading : Option UInt64)
    (standing : call.progress = .underway stage) (here : limiter.tiers[place]? = some tier) :
    (limiter.step call reading).IsTurn place tier call stage reading := by
  simp only [step, standing]
  by_cases reads : call.reads = true
  · rw [if_pos reads]
    cases reading with
    | none => exact fail_isTurn standing here
    | some now =>
        by_cases charging : stage = .charging place
        · subst charging
          exact charge_isTurn now here (by simp [Call.heldBy, standing])
        · by_cases blocked : stage = .blocked place
          · subst blocked
            exact recheck_isTurn now here (by simp [Call.heldBy, standing])
          · exact spares_isTurn _ standing here charging blocked
              (act_spares limiter call now charging blocked)
  · -- Only a call that leaves without having slept takes no reading.
    rw [if_neg reads]
    have leaving : stage = .leaving := by
      cases stage <;> simp_all [Call.reads]
    subst leaving
    exact spares_isTurn _ standing here (by simp) (by simp)
      (act_spares limiter call 0 (by simp) (by simp))

/-! ## What never changes -/

theorem rules_putTier {next : Tier} (here : limiter.tiers[place]? = some tier)
    (same : next.rule = tier.rule) : (limiter.putTier place next).rules = limiter.rules := by
  have listed : limiter.rules[place]? = some next.rule := by
    rw [Limiter.rules, List.getElem?_map, here, same]
    rfl
  obtain ⟨inside, unchanged⟩ := List.getElem?_eq_some_iff.mp listed
  show (limiter.tiers.set place next).map Tier.rule = limiter.rules
  rw [List.map_set, ← unchanged]
  exact List.set_getElem_self inside

theorem rules_act (limiter : Limiter) (call : Call) (now : UInt64) (stage : Stage) :
    (limiter.act call now stage).limiter.rules = limiter.rules := by
  cases stage with
  | arriving => rfl
  | leaving => rfl
  | charging place =>
      show (limiter.charge call place).limiter.rules = _
      cases here : limiter.tiers[place]? with
      | none =>
          rw [charge_of_missing here]
          rfl
      | some tier =>
          cases exceeds : tier.charge.overBudget with
          | true => rw [charge_of_over here exceeds, rules_putTier here tier.charge_rule]
          | false => rw [charge_of_within here exceeds, rules_putTier here tier.charge_rule]
  | blocked place =>
      show (limiter.recheck call place now).limiter.rules = _
      cases here : limiter.tiers[place]? with
      | none =>
          rw [recheck_of_missing here]
          rfl
      | some tier =>
          cases computed : tier.credit now with
          | error fault =>
              rw [recheck_of_error here computed]
              rfl
          | ok credit =>
              rw [recheck_of_credit here computed, rules_putTier here (Tier.credit_rule computed)]

/-- No step of a call writes the rule of a tier. -/
theorem rules_step (limiter : Limiter) (call : Call) (reading : Option UInt64) :
    (limiter.step call reading).limiter.rules = limiter.rules := by
  cases standing : call.progress with
  | returned delay => simp only [step, standing]
  | failed stage cause => simp only [step, standing]
  | underway stage =>
      simp only [step, standing]
      by_cases reads : call.reads = true
      · rw [if_pos reads]
        cases reading with
        | none => exact congrArg (List.map Tier.rule) (tiers_unwound limiter stage)
        | some now => exact rules_act limiter call now stage
      · rw [if_neg reads]
        exact rules_act limiter call 0 stage

/-! ## Whole runs -/

namespace Crowd

/-- Counting calls when one of them changes. -/
theorem exists_countP_set {calls : List Call} {caller : Nat}
    (found : calls[caller]? = some call) (counts : Call → Bool) :
    ∃ others, calls.countP counts = others + (if counts call then 1 else 0) ∧
      ∀ next, (calls.set caller next).countP counts = others + (if counts next then 1 else 0) := by
  obtain ⟨inside, rfl⟩ := List.getElem?_eq_some_iff.mp found
  have counted : counts calls[caller] = true → 0 < calls.countP counts := fun yes =>
    List.countP_pos_iff.mpr ⟨_, List.getElem_mem inside, yes⟩
  refine ⟨calls.countP counts - (if counts calls[caller] then 1 else 0), ?_, fun next => ?_⟩
  · by_cases yes : counts calls[caller] = true
    · rw [if_pos yes, Nat.sub_add_cancel (counted yes)]
    · rw [if_neg yes]
      rfl
  · rw [List.countP_set inside]

theorem heldBy_set {crowd : Crowd} {caller : Nat} (found : crowd.calls[caller]? = some call)
    (limiter : Limiter) (place : Nat) :
    ∃ others, crowd.heldBy place = others + call.heldAt place ∧ ∀ next : Call,
      heldBy ⟨limiter, crowd.calls.set caller next⟩ place = others + next.heldAt place :=
  exists_countP_set found (·.heldBy == some place)

theorem move_step {crowd : Crowd} {caller : Nat} {stage : Stage} (reading : Option UInt64)
    (found : crowd.calls[caller]? = some call) (standing : call.progress = .underway stage) :
    crowd.move (.step caller reading) =
      (⟨(crowd.limiter.step call reading).limiter,
          crowd.calls.set caller (crowd.limiter.step call reading).call⟩,
        some ⟨caller, stage, reading, (crowd.limiter.step call reading).call.progress,
          (crowd.limiter.step call reading).events⟩) := by
  simp [move, found, standing]

/-- Nobody steps who is not there or whose call has ended. -/
theorem move_step_of_ended {crowd : Crowd} {caller : Nat} (reading : Option UInt64)
    (ended : ∀ call stage, crowd.calls[caller]? = some call → call.progress ≠ .underway stage) :
    crowd.move (.step caller reading) = (crowd, none) := by
  rw [move]
  cases found : crowd.calls[caller]? with
  | none => rfl
  | some call =>
      cases standing : call.progress with
      | underway stage => exact absurd standing (ended call stage found)
      | returned delay => simp [standing]
      | failed stage cause => simp [standing]

theorem rules_play (moves : List Move) (crowd : Crowd) :
    (crowd.play moves).1.limiter.rules = crowd.limiter.rules := by
  induction moves generalizing crowd with
  | nil => rfl
  | cons move moves ih =>
      refine (ih (crowd.move move).1).trans ?_
      cases move with
      | join => rfl
      | resetMetrics => rfl
      | step caller reading =>
          by_cases acts : ∃ call stage, crowd.calls[caller]? = some call ∧
              call.progress = .underway stage
          · obtain ⟨call, stage, found, standing⟩ := acts
            rw [move_step reading found standing]
            exact rules_step crowd.limiter call reading
          · rw [move_step_of_ended reading fun call stage found standing =>
              acts ⟨call, stage, found, standing⟩]

theorem play_append (crowd : Crowd) (moves more : List Move) :
    crowd.play (moves ++ more) =
      (((crowd.play moves).1.play more).1,
        (crowd.play moves).2 ++ ((crowd.play moves).1.play more).2) := by
  induction moves generalizing crowd with
  | nil => rfl
  | cons move moves ih => simp [play, ih, List.append_assoc]

theorem play_append_singleton (crowd : Crowd) (moves : List Move) (move : Move) :
    crowd.play (moves ++ [move]) =
      (((crowd.play moves).1.move move).1,
        (crowd.play moves).2 ++ ((crowd.play moves).1.move move).2.toList) := by
  simp [play_append, play]

/-- Every move is a turn at every tier. -/
theorem move_turn (crowd : Crowd) (move : Move) (here : crowd.limiter.tiers[place]? = some tier) :
    ∃ next, (crowd.move move).1.limiter.tiers[place]? = some next ∧
      Turn place tier (crowd.heldBy place) (crowd.move move).2 next
        ((crowd.move move).1.heldBy place) := by
  cases move with
  | join =>
      refine ⟨tier, here, ?_⟩
      have same : (crowd.move .join).1.heldBy place = crowd.heldBy place := by
        simp [Crowd.move, Crowd.heldBy, Call.fresh, Call.heldBy]
      rw [same]
      exact .aside (by simp [Crowd.move])
  | resetMetrics => exact ⟨tier, here, .aside (by simp [Crowd.move])⟩
  | step caller reading =>
      by_cases acts : ∃ call stage, crowd.calls[caller]? = some call ∧
          call.progress = .underway stage
      · obtain ⟨call, stage, found, standing⟩ := acts
        obtain ⟨others, before, after⟩ :=
          heldBy_set found (crowd.limiter.step call reading).limiter place
        obtain ⟨next, there, turn⟩ := step_isTurn reading standing here
        rw [move_step reading found standing, before, after]
        exact ⟨next, there, turn caller others⟩
      · rw [move_step_of_ended reading fun call stage found standing =>
          acts ⟨call, stage, found, standing⟩]
        exact ⟨tier, here, .aside (by simp)⟩

/-- What every turn at a tier preserves holds after every run. The predicate speaks of the tier, of
the number of callers that it holds and of the deeds so far. -/
theorem play_turns (Kept : Tier → Nat → List Deed → Prop)
    (preserved : ∀ {tier held past deed next held'}, Turn place tier held deed next held' →
      Kept tier held past → Kept next held' (past ++ deed.toList))
    (moves : List Move) (crowd : Crowd) (past : List Deed)
    (here : crowd.limiter.tiers[place]? = some tier)
    (kept : Kept tier (crowd.heldBy place) past) :
    ∃ next, (crowd.play moves).1.limiter.tiers[place]? = some next ∧
      Kept next ((crowd.play moves).1.heldBy place) (past ++ (crowd.play moves).2) := by
  induction moves generalizing crowd past tier with
  | nil => exact ⟨tier, here, by simpa [play] using kept⟩
  | cons move moves ih =>
      obtain ⟨next, there, turn⟩ := crowd.move_turn move here
      obtain ⟨last, final, result⟩ := ih _ _ there (preserved turn kept)
      refine ⟨last, final, ?_⟩
      simpa [play, List.append_assoc] using result

end Crowd

end FlowGate.Limiter
