/-
# How many calls go ahead at once

Calls that come one after the other, without overlapping, go ahead without sleeping as long as every
tier has room for a unit, and the tier with the least room tells how many calls these are. The
readings that they take play no part in it: only a caller that has slept credits a tier, so until
then no window moves, and a clock that goes back or leaps ahead makes no difference.

A visit is a call from its arrival on, alone with its readings. What it meets on its way is told by
induction over the tiers that it has not come to yet. The visits of a run are then taken one by one.
-/

import FlowGate.Proofs.Limiter.Ledger
import FlowGate.Proofs.Limiter.Release

namespace FlowGate

/-! ## Room -/

namespace Tier

/-- How many units a tier takes before it is over budget. -/
def room (tier : Tier) : Nat := tier.rule.quota.toNat - tier.count.toNat

variable {tier : Tier}

theorem room_chargeTimes (units : Nat) : (tier.chargeTimes units).room = tier.room - units := by
  have most := Word.toNat_le_top tier.rule.quota
  rw [room, room, chargeTimes_rule, toNat_chargeTimes_count]
  omega

/-- Units that fit into the count are added to it. -/
theorem chargeTimes_of_lt {units : Nat} (fits : tier.count.toNat + units < 2 ^ 64) :
    tier.chargeTimes units = { tier with count := tier.count + UInt64.ofNat units } := by
  induction units generalizing tier with
  | zero => simp [chargeTimes]
  | succ units ih =>
      have one : tier.count.toNat + 1 < 2 ^ 64 := by omega
      have counted : (tier.count + 1).toNat = tier.count.toNat + 1 := by
        rw [← toNat_charge_count_of_lt one, charge_eq_of_lt one]
      rw [chargeTimes, charge_eq_of_lt one, ih (by simp only [counted]; omega)]
      simp only [UInt64.ofNat_add, UInt64.add_assoc, UInt64.add_comm (UInt64.ofNat units)]
      rfl

theorem overBudget_charge_of_room (some : 0 < tier.room) : tier.charge.overBudget = false := by
  have counted := toNat_charge_count_le tier
  rw [room] at some
  rw [overBudget_eq_false_iff, charge_rule]
  omega

/-- A tier that has used up its quota has no room left. -/
theorem overBudget_charge_of_room_eq_zero (none : tier.room = 0)
    (roomy : tier.rule.quota.toNat < 2 ^ 64 - 1) : tier.charge.overBudget = true := by
  rw [room] at none
  rw [overBudget_iff, charge_rule, toNat_charge_count, Word.toNat_top]
  omega

end Tier

namespace Limiter

/-- The room on the tier that has the least of it. -/
def room (limiter : Limiter) : Nat := ((limiter.tiers.map Tier.room).min?).getD 0

theorem room_isLeast {limiter : Limiter} (some : limiter.tiers ≠ []) :
    (∃ tier ∈ limiter.tiers, tier.room = limiter.room) ∧
      ∀ tier ∈ limiter.tiers, limiter.room ≤ tier.room := by
  cases least : (limiter.tiers.map Tier.room).min? with
  | none =>
      rw [List.min?_eq_none_iff, List.map_eq_nil_iff] at least
      exact absurd least some
  | some rest =>
      have same : limiter.room = rest := by rw [room, least, Option.getD_some]
      rw [List.min?_eq_some_iff, List.mem_map, List.forall_mem_map] at least
      rwa [same]

/-! ## Visits -/

/-- The steps of a caller at these readings. -/
def steps (caller : Nat) (readings : List UInt64) : List Move :=
  readings.map fun now => .step caller (some now)

/-- A caller turns up and takes its steps, with nobody else moving meanwhile. -/
def visit (caller : Nat) (readings : List UInt64) : List Move :=
  .join :: steps caller readings

/-- One caller after the other turns up, the first of them at the place `first`. -/
def visits (first : Nat) : List (List UInt64) → List Move
  | [] => []
  | readings :: rounds => visit first readings ++ visits (first + 1) rounds

theorem visits_append_singleton (first : Nat) (rounds : List (List UInt64))
    (readings : List UInt64) :
    visits first (rounds ++ [readings]) =
      visits first rounds ++ visit (first + rounds.length) readings := by
  induction rounds generalizing first with
  | nil => simp [visits]
  | cons round rounds ih =>
      rw [List.cons_append, visits, ih (first + 1), visits, List.append_assoc, List.length_cons,
        Nat.add_right_comm, Nat.add_assoc]

theorem hasSlept_cons (caller : Nat) (deed : Deed) (deeds : List Deed) :
    hasSlept caller (deed :: deeds) =
      (deed.caller == caller && deed.progress.sleeps || hasSlept caller deeds) := rfl

theorem hasSlept_append (caller : Nat) (past more : List Deed) :
    hasSlept caller (past ++ more) = (hasSlept caller past || hasSlept caller more) :=
  List.any_append

/-! ## The steps of the caller who turned up last -/

namespace Crowd

section Steps

variable {limiter : Limiter} {others : List Call} {call : Call} {stage : Stage}
variable {readings : List UInt64}

theorem play_steps_cons {now : UInt64} {after : Limiter} {next : Call} {events : List LogEvent}
    (standing : call.progress = .underway stage)
    (acts : limiter.act call now stage = ⟨after, next, events⟩) :
    play ⟨limiter, others ++ [call]⟩ (steps others.length (now :: readings)) =
      ((play ⟨after, others ++ [next]⟩ (steps others.length readings)).1,
        ⟨others.length, stage, some now, next.progress, events⟩ ::
          (play ⟨after, others ++ [next]⟩ (steps others.length readings)).2) := by
  have found : (others ++ [call])[others.length]? = some call := by simp
  have moved : move ⟨limiter, others ++ [call]⟩ (.step others.length (some now)) =
      (⟨after, others ++ [next]⟩,
        some ⟨others.length, stage, some now, next.progress, events⟩) := by
    rw [move_step (some now) found standing, step_eq_act limiter now standing, acts]
    simp
  rw [steps, List.map_cons, play, moved]
  rfl

/-- Whoever has returned takes no more steps. -/
theorem play_steps_of_returned {crowd : Crowd} {caller : Nat} {delay : UInt64}
    (found : crowd.calls[caller]? = some call) (returned : call.progress = .returned delay) :
    crowd.play (steps caller readings) = (crowd, []) := by
  induction readings with
  | nil => rfl
  | cons now readings ih =>
      have stays : crowd.move (.step caller (some now)) = (crowd, none) := by
        refine move_step_of_ended _ fun other stage there standing => ?_
        rw [Option.some.inj (found.symm.trans there), standing] at returned
        cases returned
      rw [steps, List.map_cons, play, stays]
      exact Prod.ext (congrArg Prod.fst ih) (congrArg Prod.snd ih)

/-- A caller whose unit fits into the budget of the tier before it comes to the next tier. -/
theorem exists_play_of_within {done tiers : List Tier} {tier : Tier}
    (listed : limiter.tiers = done ++ tier :: tiers)
    (standing : call.progress = .underway (limiter.stageFrom done.length))
    (within : tier.charge.overBudget = false) (others : List Call) (now : UInt64)
    (readings : List UInt64) :
    ∃ after stage deed,
      let later := play ⟨after, others ++ [call.movedTo stage]⟩ (steps others.length readings)
      after.tiers = done ++ [tier.charge] ++ tiers ∧
        (call.movedTo stage).progress =
          .underway (after.stageFrom (done ++ [tier.charge]).length) ∧
        deed.progress.sleeps = false ∧
        play ⟨limiter, others ++ [call]⟩ (steps others.length (now :: readings)) =
          (later.1, deed :: later.2) := by
  have here : limiter.tiers[done.length]? = some tier := by simp [listed]
  rw [stageFrom_of_getElem? here] at standing
  refine ⟨limiter.putTier done.length tier.charge, _, _, ?_, ?_, ?_,
    play_steps_cons standing (charge_of_within here within)⟩
  · simp [putTier, listed]
  · rw [stageFrom_putTier, List.length_append, List.length_singleton]
    rfl
  · exact sleeps_stageFrom limiter _

/-- A caller that has not slept yet, and whose units all fit into the budgets of the tiers that it
still has before it, consumes them and returns. -/
theorem play_steps_of_within (others : List Call) {done tiers : List Tier}
    (listed : limiter.tiers = done ++ tiers)
    (standing : call.progress = .underway (limiter.stageFrom done.length))
    (awake : call.slept = false) (within : ∀ tier ∈ tiers, tier.charge.overBudget = false)
    (enough : tiers.length < readings.length) :
    let played := play ⟨limiter, others ++ [call]⟩ (steps others.length readings)
    played.1.limiter.tiers = done ++ tiers.map Tier.charge ∧
      played.1.calls = others ++ [{ call with progress := .returned 0 }] ∧
      ∀ deed ∈ played.2, deed.progress.sleeps = false := by
  obtain ⟨now, readings, rfl⟩ := List.exists_cons_of_length_pos (Nat.zero_lt_of_lt enough)
  induction tiers generalizing done limiter call now readings with
  | nil =>
      rw [stageFrom_of_end listed] at standing
      have acts : limiter.act call now .leaving =
          ⟨{ limiter with metrics := limiter.metrics.record 0 },
            { call with progress := .returned 0 }, []⟩ := by
        simp [act, leave, conclude, awake]
      rw [play_steps_cons standing acts,
        play_steps_of_returned List.getElem?_concat_length rfl]
      simpa [Progress.sleeps] using listed
  | cons tier tiers ih =>
      obtain ⟨second, rest, rfl⟩ :=
        List.exists_cons_of_length_pos (Nat.zero_lt_of_lt (Nat.lt_of_succ_lt_succ enough))
      obtain ⟨after, stage, deed, split, further, goesOn, plays⟩ :=
        exists_play_of_within listed standing (within tier List.mem_cons_self) others now
          (second :: rest)
      obtain ⟨charged, returned, quiet⟩ := ih split further awake
        (fun other listed => within other (List.mem_cons_of_mem tier listed)) second rest
        (Nat.lt_of_succ_lt_succ enough)
      rw [plays]
      refine ⟨?_, returned, List.forall_mem_cons.mpr ⟨goesOn, quiet⟩⟩
      rw [charged, List.append_assoc]
      rfl

/-- A caller that has a tier before it whose budget its unit would exceed is put to sleep. -/
theorem hasSlept_of_exceeds (others : List Call) {done tiers : List Tier}
    (listed : limiter.tiers = done ++ tiers)
    (standing : call.progress = .underway (limiter.stageFrom done.length))
    (exceeds : ∃ tier ∈ tiers, tier.charge.overBudget = true)
    (enough : tiers.length ≤ readings.length) :
    hasSlept others.length
      (play ⟨limiter, others ++ [call]⟩ (steps others.length readings)).2 = true := by
  induction tiers generalizing done limiter call readings with
  | nil =>
      obtain ⟨tier, none, -⟩ := exceeds
      cases none
  | cons tier tiers ih =>
      obtain ⟨now, readings, rfl⟩ :=
        List.exists_cons_of_length_pos (Nat.lt_of_lt_of_le (Nat.zero_lt_succ _) enough)
      rw [List.exists_mem_cons_iff] at exceeds
      cases beyond : tier.charge.overBudget with
      | true =>
          have here : limiter.tiers[done.length]? = some tier := by simp [listed]
          rw [stageFrom_of_getElem? here] at standing
          rw [play_steps_cons standing (charge_of_over here beyond), hasSlept_cons]
          simp [Call.movedTo, Progress.sleeps]
      | false =>
          obtain ⟨after, stage, deed, split, further, -, plays⟩ :=
            exists_play_of_within listed standing beyond others now readings
          have slept := ih split further (exceeds.resolve_left (by simp [beyond]))
            (Nat.le_of_succ_le_succ enough)
          rw [plays, hasSlept_cons, slept, Bool.or_true]

end Steps

/-! ## Whole visits -/

/-- The call of a caller who has read its start and comes to the first tier. -/
def arrived (limiter : Limiter) (start : UInt64) : Call :=
  { start, progress := .underway (limiter.stageFrom 0) }

theorem play_visit_cons (crowd : Crowd) (now : UInt64) (readings : List UInt64) :
    ∃ deed,
      let later := play ⟨crowd.limiter, crowd.calls ++ [arrived crowd.limiter now]⟩
        (steps crowd.calls.length readings)
      deed.progress.sleeps = false ∧
        crowd.play (visit crowd.calls.length (now :: readings)) =
          (later.1, deed :: later.2) := by
  have joined : crowd.play (visit crowd.calls.length (now :: readings)) =
      play ⟨crowd.limiter, crowd.calls ++ [Call.fresh]⟩
        (steps crowd.calls.length (now :: readings)) := rfl
  rw [joined]
  exact ⟨_, sleeps_stageFrom crowd.limiter 0, play_steps_cons rfl rfl⟩

variable {readings : List UInt64}

/-- A visit to a limiter whose tiers all have room for a unit. -/
theorem play_visit_of_within (crowd : Crowd)
    (within : ∀ tier ∈ crowd.limiter.tiers, tier.charge.overBudget = false)
    (complete : crowd.limiter.tiers.length + 2 ≤ readings.length) :
    let played := crowd.play (visit crowd.calls.length readings)
    played.1.limiter.tiers = crowd.limiter.tiers.map Tier.charge ∧
      played.1.calls =
        crowd.calls ++ [{ start := readings.headD 0, progress := .returned 0 }] ∧
      ∀ deed ∈ played.2, deed.progress.sleeps = false := by
  obtain ⟨now, readings, rfl⟩ := List.exists_cons_of_length_pos (Nat.zero_lt_of_lt complete)
  obtain ⟨deed, goesOn, plays⟩ := play_visit_cons crowd now readings
  have all : crowd.limiter.tiers = [] ++ crowd.limiter.tiers := rfl
  have standing : (arrived crowd.limiter now).progress =
      .underway (crowd.limiter.stageFrom 0) := rfl
  obtain ⟨charged, returned, quiet⟩ :=
    play_steps_of_within crowd.calls all standing rfl within (Nat.lt_of_succ_lt_succ complete)
  rw [plays]
  exact ⟨charged, returned, List.forall_mem_cons.mpr ⟨goesOn, quiet⟩⟩

/-- A visit to a limiter with a tier that has no room for a unit. -/
theorem hasSlept_visit (crowd : Crowd)
    (exceeds : ∃ tier ∈ crowd.limiter.tiers, tier.charge.overBudget = true)
    (complete : crowd.limiter.tiers.length + 2 ≤ readings.length) :
    hasSlept crowd.calls.length (crowd.play (visit crowd.calls.length readings)).2 = true := by
  obtain ⟨now, readings, rfl⟩ := List.exists_cons_of_length_pos (Nat.zero_lt_of_lt complete)
  obtain ⟨deed, -, plays⟩ := play_visit_cons crowd now readings
  have all : crowd.limiter.tiers = [] ++ crowd.limiter.tiers := rfl
  have standing : (arrived crowd.limiter now).progress =
      .underway (crowd.limiter.stageFrom 0) := rfl
  have slept := hasSlept_of_exceeds crowd.calls all standing exceeds
    (Nat.le_of_succ_le (Nat.le_of_succ_le_succ complete))
  rw [plays, hasSlept_cons, slept, Bool.or_true]

/-- One visit after the other, as long as every tier has room for as many units as there are
visits. -/
theorem play_visits_of_le_room (crowd : Crowd) (rounds : List (List UInt64))
    (roomy : ∀ tier ∈ crowd.limiter.tiers, rounds.length ≤ tier.room)
    (complete : ∀ readings ∈ rounds, crowd.limiter.tiers.length + 2 ≤ readings.length) :
    let played := crowd.play (visits crowd.calls.length rounds)
    played.1.limiter.tiers = crowd.limiter.tiers.map (·.chargeTimes rounds.length) ∧
      played.1.calls = crowd.calls ++ rounds.map (fun readings =>
        { start := readings.headD 0, progress := .returned 0 }) ∧
      ∀ deed ∈ played.2, deed.progress.sleeps = false := by
  induction rounds generalizing crowd with
  | nil =>
      refine ⟨(List.map_id _).symm, (List.append_nil _).symm, fun deed done => ?_⟩
      cases done
  | cons readings rounds ih =>
      obtain ⟨first, others⟩ := List.forall_mem_cons.mp complete
      obtain ⟨charged, returned, quiet⟩ := crowd.play_visit_of_within
        (fun tier listed => Tier.overBudget_charge_of_room
          (Nat.lt_of_lt_of_le (Nat.zero_lt_succ _) (roomy tier listed))) first
      have arrivals : (crowd.play (visit crowd.calls.length readings)).1.calls.length =
          crowd.calls.length + 1 := by
        rw [returned, List.length_append, List.length_singleton]
      obtain ⟨charged', returned', quiet'⟩ := ih
        (crowd.play (visit crowd.calls.length readings)).1
        (by
          rw [charged, List.forall_mem_map]
          intro tier listed
          have less : tier.charge.room = tier.room - 1 := Tier.room_chargeTimes 1
          rw [less]
          exact Nat.le_sub_of_add_le (roomy tier listed))
        (by rwa [charged, List.length_map])
      rw [arrivals] at charged' returned' quiet'
      rw [visits, play_append]
      refine ⟨?_, ?_, List.forall_mem_append.mpr ⟨quiet, quiet'⟩⟩
      · rw [charged', charged, List.map_map]
        rfl
      · rw [returned', returned, List.append_assoc]
        rfl

/-- If a tier has room for just as many units as there have been visits, the next caller sleeps. -/
theorem hasSlept_visits (crowd : Crowd) {rounds : List (List UInt64)}
    (roomy : ∀ tier ∈ crowd.limiter.tiers, rounds.length ≤ tier.room)
    (complete : ∀ readings ∈ rounds, crowd.limiter.tiers.length + 2 ≤ readings.length)
    {tightest : Tier} (listed : tightest ∈ crowd.limiter.tiers)
    (tight : tightest.room = rounds.length) (bounded : tightest.rule.quota.toNat < 2 ^ 64 - 1)
    (last : crowd.limiter.tiers.length + 2 ≤ readings.length) :
    hasSlept (crowd.calls.length + rounds.length)
      (crowd.play (visits crowd.calls.length (rounds ++ [readings]))).2 = true := by
  obtain ⟨charged, returned, -⟩ := crowd.play_visits_of_le_room rounds roomy complete
  have exceeds : ∃ tier ∈ (crowd.play (visits crowd.calls.length rounds)).1.limiter.tiers,
      tier.charge.overBudget = true := by
    rw [charged]
    refine ⟨_, List.mem_map_of_mem listed, Tier.overBudget_charge_of_room_eq_zero ?_ ?_⟩
    · rw [Tier.room_chargeTimes, tight, Nat.sub_self]
    · rwa [Tier.chargeTimes_rule]
  have slept := hasSlept_visit _ exceeds (by rwa [charged, List.length_map])
  rw [returned, List.length_append, List.length_map] at slept
  rw [visits_append_singleton, play_append, hasSlept_append, slept, Bool.or_true]

end Crowd

/-- Calls on a limiter that was built, from counts within the quotas, one after the other: each
caller takes enough readings to get past all tiers, and what its clock shows makes no difference. As
many calls as the tier with the least room allows return without having slept, and with no delay.
Each of them adds one unit to every tier and leaves the windows as they are. The call after them
sleeps. Whoever has turned up before takes no step meanwhile. -/
theorem room_calls_return_then_one_sleeps {settings : List Setting} {start : UInt64}
    {limiter : Limiter} (built : build settings start = .ok limiter) {crowd : Crowd}
    (rules : crowd.limiter.rules = limiter.rules)
    (within : ∀ tier ∈ crowd.limiter.tiers, tier.count.toNat ≤ tier.rule.quota.toNat ∧
      tier.rule.quota.toNat < 2 ^ 64 - 1)
    (rounds : List (List UInt64))
    (complete : ∀ readings ∈ rounds, crowd.limiter.tiers.length + 2 ≤ readings.length) :
    let played := crowd.play (visits crowd.calls.length rounds)
    (rounds.length ≤ crowd.limiter.room →
      played.1.limiter.tiers = crowd.limiter.tiers.map (fun tier =>
        { tier with count := tier.count + UInt64.ofNat rounds.length }) ∧
      played.1.calls = crowd.calls ++ rounds.map (fun readings =>
        { start := readings.headD 0, slept := false, progress := .returned 0 }) ∧
      ∀ deed ∈ played.2, deed.progress.sleeps = false) ∧
    (rounds.length = crowd.limiter.room + 1 →
      hasSlept (crowd.calls.length + crowd.limiter.room) played.2 = true) := by
  intro played
  have some : crowd.limiter.tiers ≠ [] := by
    obtain ⟨⟨nonempty, -⟩, rfl⟩ := (build_eq_ok_iff _ _ _).mp built
    rw [rules_ofRules] at rules
    rintro none
    exact nonempty (by rw [← rules, Limiter.rules, none, List.map_nil])
  obtain ⟨⟨tightest, listed, tight⟩, least⟩ := room_isLeast some
  refine ⟨fun few => ?_, fun many => ?_⟩
  · obtain ⟨charged, returned, quiet⟩ := crowd.play_visits_of_le_room rounds
      (fun tier listed => Nat.le_trans few (least tier listed)) complete
    refine ⟨?_, returned, quiet⟩
    rw [charged]
    refine List.map_congr_left fun tier listed => Tier.chargeTimes_of_lt ?_
    have fits := Nat.le_trans few (least tier listed)
    have bounds := within tier listed
    rw [Tier.room] at fits
    omega
  · rcases rounds.eq_nil_or_concat' with rfl | ⟨before, readings, rfl⟩
    · cases many
    · rw [List.length_append, List.length_singleton] at many
      have all : before.length = crowd.limiter.room := Nat.succ.inj many
      obtain ⟨early, last⟩ := List.forall_mem_append.mp complete
      rw [← all] at tight least ⊢
      exact crowd.hasSlept_visits least early listed tight (within tightest listed).2
        (last readings List.mem_cons_self)

/-- Two tiers. The second one, with one unit left of two, has the least room. -/
def oneLeft : Crowd where
  limiter := { tiers := [⟨⟨5, 1000⟩, 1, 4000⟩, ⟨⟨2, 9000⟩, 1, 7000⟩] }

/-- The clock leaps ahead and goes back, between the readings of a call and between the calls. -/
theorem one_call_returns_then_one_sleeps_oneLeft :
    oneLeft.limiter.room = 1 ∧
      (oneLeft.play (visits 0 [[9000, 8000, 20000, 0]])).1.limiter.tiers =
        [⟨⟨5, 1000⟩, 2, 4000⟩, ⟨⟨2, 9000⟩, 2, 7000⟩] ∧
      (oneLeft.play (visits 0 [[9000, 8000, 20000, 0]])).1.calls =
        [{ start := 9000, slept := false, progress := .returned 0 }] ∧
      hasSlept 1 (oneLeft.play (visits 0 [[9000, 8000, 20000, 0], [300, 300, 200, 100]])).2 =
        true := by
  have built : build [.list [⟨5, 1000⟩, ⟨2, 9000⟩]] 0 =
      .ok (ofRules [⟨5, 1000⟩, ⟨2, 9000⟩] 0) := by decide +kernel
  have rules : oneLeft.limiter.rules = (ofRules [⟨5, 1000⟩, ⟨2, 9000⟩] 0).rules := by
    decide +kernel
  have within : ∀ tier ∈ oneLeft.limiter.tiers, tier.count.toNat ≤ tier.rule.quota.toNat ∧
      tier.rule.quota.toNat < 2 ^ 64 - 1 := by decide +kernel
  have left : oneLeft.limiter.room = 1 := by decide +kernel
  obtain ⟨free, -⟩ := room_calls_return_then_one_sleeps built rules within
    [[9000, 8000, 20000, 0]] (by decide)
  obtain ⟨-, sleeps⟩ := room_calls_return_then_one_sleeps built rules within
    [[9000, 8000, 20000, 0], [300, 300, 200, 100]] (by decide)
  rw [left] at free sleeps
  obtain ⟨charged, returned, -⟩ := free (by decide)
  exact ⟨left, charged, returned, sleeps rfl⟩

end Limiter

end FlowGate
