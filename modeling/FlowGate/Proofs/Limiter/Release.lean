/-
# When a blocked call is released

A caller is blocked on a tier whose quota is used up, and it polls. The poll that releases it is
told by the clock alone: it is the first one that finds the hand past the end of the window, however
the hand came there, and the credit of that poll takes off a whole quota at least. `Crossing` says
so of one tier and `Route` of all tiers in order, in terms of the readings that the caller finds
when it wakes up, without a word about credits, looks in vain or runs. A call that is alone returns
exactly if there is such a route, and then it takes this one.

If nothing but its naps moves the clock, the number of polls is a quotient: `polls` counts them from
the instant at which the tier is reached.
-/

import FlowGate.Proofs.Limiter.Outlook

namespace FlowGate

open Config (Rule)
open Time (Duration ManualClock)

namespace Tier

/-- The last instant at which nothing falls due yet. -/
def windowEnd (tier : Tier) : Nat := tier.windowStart.toNat + tier.rule.period.toNat

/-- A tier as it is between calls that were alone: nothing is consumed beyond the quota of a rule
that can be enforced, and there is room for one unit more in the count. -/
structure Settled (tier : Tier) : Prop where
  enforceable : tier.rule.Enforceable
  roomy : tier.rule.quota.toNat + 1 < 2 ^ 64
  within : tier.count.toNat ≤ tier.rule.quota.toNat

variable {tier : Tier}

/-- One unit more, if there is room for it in the count. -/
theorem charge_eq_of_lt (roomy : tier.count.toNat + 1 < 2 ^ 64) :
    tier.charge = { tier with count := tier.count + 1 } := by
  have same : Word.addSat tier.count 1 = tier.count + 1 := by
    apply UInt64.toNat_inj.mp
    rw [UInt64.toNat_add, Nat.mod_eq_of_lt (by exact roomy)]
    exact toNat_charge_count_of_lt roomy
  rw [charge, same]

namespace Settled

theorem toNat_charge_count (settled : tier.Settled) :
    tier.charge.count.toNat = tier.count.toNat + 1 :=
  toNat_charge_count_of_lt (Nat.lt_of_le_of_lt (Nat.succ_le_succ settled.within) settled.roomy)

/-- A unit on a tier that is full is beyond the budget. -/
theorem overBudget_charge (settled : tier.Settled) (full : tier.count = tier.rule.quota) :
    tier.charge.overBudget = true := by
  rw [overBudget_iff, settled.toNat_charge_count, charge_rule, full]
  exact Nat.lt_succ_self _

/-- The first look past the end of the window is a credit that leaves at most one unit. -/
theorem credit_charge (settled : tier.Settled) (full : tier.count = tier.rule.quota)
    {now : UInt64} (late : tier.windowEnd < now.toNat) :
    ∃ units count, tier.charge.credit now = .ok (units, { tier with count, windowStart := now }) ∧
      count.toNat = tier.rule.quota.toNat + 1 -
        tier.rule.due (now.toNat - tier.windowStart.toNat) := by
  have long : tier.charge.rule.period.toNat < now.toNat - tier.charge.windowStart.toNat := by
    rw [windowEnd] at late
    rw [charge_rule, charge_windowStart]
    omega
  have positive : tier.charge.rule.period ≠ 0 := settled.enforceable.2
  obtain ⟨units, count, credited, unitsEq, sum⟩ := credit_of_period_lt positive long
  refine ⟨units, count, credited, ?_⟩
  rw [settled.toNat_charge_count, full] at unitsEq sum
  rw [charge_rule, charge_windowStart] at unitsEq
  omega

/-- In a window that is over the whole quota has fallen due. -/
theorem left_le_one (settled : tier.Settled) {now : Nat} (late : tier.windowEnd < now) :
    tier.rule.quota.toNat + 1 - tier.rule.due (now - tier.windowStart.toNat) ≤ 1 := by
  have elapsed : tier.rule.period.toNat ≤ now - tier.windowStart.toNat := by
    rw [windowEnd] at late
    omega
  have due := Rule.quota_le_due settled.enforceable.2 elapsed
  omega

end Settled

end Tier

namespace Limiter

/-! ## One tier, and all tiers in order -/

/-- How a caller that is alone gets past a tier: the number of its naps there, and the tier
afterwards. -/
inductive Crossing (tier : Tier) (outlook : Outlook) : Nat → Tier → Prop
  /-- There is room for a unit, and the caller does not sleep. -/
  | enter (room : tier.count.toNat < tier.rule.quota.toNat) :
      Crossing tier outlook 0 { tier with count := tier.count + 1 }
  /-- The quota is used up. The caller goes on after the first nap that takes it past the end of the
  window, and the unit that it consumed is counted before the window is paid off. -/
  | wait {naps count} (full : tier.count = tier.rule.quota) (some : 0 < naps)
      (early : ∀ nap, 0 < nap → nap < naps →
        (outlook.naps tier.nap nap).clock.now.toNat ≤ tier.windowEnd)
      (late : tier.windowEnd < (outlook.naps tier.nap naps).clock.now.toNat)
      (left : count.toNat = tier.rule.quota.toNat + 1 - tier.rule.due
        ((outlook.naps tier.nap naps).clock.now.toNat - tier.windowStart.toNat)) :
      Crossing tier outlook naps
        { tier with count, windowStart := (outlook.naps tier.nap naps).clock.now }

/-- How a caller that is alone gets past tiers in order: the number of its naps on each of them, the
tiers afterwards, and what it then has before it. -/
inductive Route : List Tier → Outlook → List Nat → List Tier → Outlook → Prop
  | nil {outlook} : Route [] outlook [] [] outlook
  | cons {tier next tiers nexts outlook naps counts last}
      (crossing : Crossing tier outlook naps next)
      (rest : Route tiers (outlook.naps tier.nap naps) counts nexts last) :
      Route (tier :: tiers) outlook (naps :: counts) (next :: nexts) last

/-- The naps of a caller with so many on each of the tiers, the latest first. -/
def napsOn : List Tier → List Nat → List Duration
  | tier :: tiers, naps :: counts => napsOn tiers counts ++ List.replicate naps tier.nap
  | _, _ => []

/-- A tier lets the caller pass, or no nap ever takes it past the end of the window. -/
theorem exists_crossing {tier : Tier} (settled : tier.Settled) (outlook : Outlook) :
    (∃ naps next, Crossing tier outlook naps next) ∨
      tier.count = tier.rule.quota ∧
        ∀ nap, 0 < nap → (outlook.naps tier.nap nap).clock.now.toNat ≤ tier.windowEnd := by
  rcases Nat.lt_or_ge tier.count.toNat tier.rule.quota.toNat with room | full
  · exact Or.inl ⟨0, _, .enter room⟩
  · have same : tier.count = tier.rule.quota :=
      UInt64.toNat_inj.mp (Nat.le_antisymm settled.within full)
    by_cases released : ∃ nap, 0 < nap ∧
        tier.windowEnd < (outlook.naps tier.nap nap).clock.now.toNat
    · classical
      obtain ⟨some, late⟩ := Nat.find_spec released
      obtain ⟨units, count, -, left⟩ := settled.credit_charge same late
      refine Or.inl ⟨Nat.find released, _,
        .wait same some (fun nap positive before => ?_) late left⟩
      exact Nat.le_of_not_lt fun past => Nat.find_min released before ⟨positive, past⟩
    · refine Or.inr ⟨same, fun nap positive => ?_⟩
      exact Nat.le_of_not_lt fun past => released ⟨nap, positive, past⟩

namespace Crossing

variable {tier next : Tier} {outlook : Outlook} {naps : Nat}

/-- Whoever had to wait leaves one unit at most. -/
theorem count_le_one (crossing : Crossing tier outlook naps next) (settled : tier.Settled)
    (slept : 0 < naps) : next.count.toNat ≤ 1 := by
  cases crossing with
  | enter room => exact absurd slept (Nat.lt_irrefl 0)
  | wait full some early late left =>
      rw [left]
      exact settled.left_le_one late

end Crossing

namespace Route

variable {tiers nexts : List Tier} {outlook last : Outlook} {counts : List Nat}

theorem record_eq (route : Route tiers outlook counts nexts last) :
    last.clock.naps = napsOn tiers counts ++ outlook.clock.naps := by
  induction route with
  | nil => rfl
  | cons crossing rest ih =>
      rw [ih, Outlook.record_naps, napsOn, List.append_assoc]

theorem count_le_one (route : Route tiers outlook counts nexts last)
    (settled : ∀ tier ∈ tiers, tier.Settled) {place naps : Nat} {next : Tier}
    (here : counts[place]? = some naps) (slept : 0 < naps) (there : nexts[place]? = some next) :
    next.count.toNat ≤ 1 := by
  induction route generalizing place with
  | nil => cases here
  | cons crossing rest ih =>
      rw [List.forall_mem_cons] at settled
      cases place with
      | zero =>
          cases here
          cases there
          exact crossing.count_le_one settled.1 slept
      | succ place => exact ih settled.2 here there

end Route

/-! ## The steps of a call that is alone -/

namespace Run.Solo

variable {run : Run} {limiter : Limiter} {outlook : Outlook} {call : Call} {tier : Tier}
  {place : Nat}

/-- A caller that finds a tier over budget falls asleep on it. -/
theorem blocks (solo : Solo run limiter outlook call) (still : outlook.Undisturbed)
    (standing : call.progress = .underway (.charging place))
    (here : limiter.tiers[place]? = some tier) (exceeds : tier.charge.overBudget = true) :
    ∃ stages after, Leads stages run after ∧
      Solo after (limiter.putTier place tier.charge) (outlook.nap tier.charge.nap)
        (call.onward 1 (.blocked place)) := by
  have charged : limiter.step call (some outlook.clock.now) =
      ⟨limiter.putTier place tier.charge, call.onward 1 (.blocked place), []⟩ := by
    rw [step_eq_act limiter _ standing, act, charge_of_over here exceeds, Call.onward_one]
  obtain ⟨stages, after, -, leads, asleep⟩ :=
    solo.sleeps standing still charged rfl (getElem?_putTier_self here tier.charge)
  exact ⟨stages, after, leads, asleep⟩

/-- A blocked caller looks in vain until the window is over. -/
theorem looks (solo : Solo run limiter (outlook.nap tier.nap) call) (still : outlook.Undisturbed)
    (standing : call.progress = .underway (.blocked place))
    (here : limiter.tiers[place]? = some tier) (exceeds : tier.overBudget = true) (times : Nat)
    (early : ∀ nap, 0 < nap → nap ≤ times →
      (outlook.naps tier.nap nap).clock.now.toNat ≤ tier.windowEnd) :
    ∃ stages after, times ≤ stages.length ∧ Leads stages run after ∧
      Solo after limiter (outlook.naps tier.nap (times + 1)) call := by
  induction times generalizing run outlook with
  | zero => exact ⟨[], run, Nat.zero_le _, .nil, solo⟩
  | succ times ih =>
      have inWindow : (outlook.nap tier.nap).clock.now.toNat - tier.windowStart.toNat ≤
          tier.rule.period.toNat := by
        have first := early 1 Nat.one_pos (Nat.le_add_left 1 times)
        rw [Tier.windowEnd] at first
        exact Nat.sub_le_iff_le_add'.mpr first
      have looked : limiter.step call (some (outlook.nap tier.nap).clock.now) =
          ⟨limiter, call, creditReport place 0 tier.count⟩ := by
        rw [step_eq_act limiter _ standing, act,
          recheck_of_credit here (Tier.credit_of_le_period inWindow), if_pos exceeds,
          call.movedTo_of_eq standing, putTier_of_eq here]
      obtain ⟨first, asleep, taken, leads, again⟩ :=
        solo.sleeps standing still.nap looked standing here
      obtain ⟨stages, after, long, more, final⟩ := ih again still.nap fun nap positive few =>
        early (nap + 1) (Nat.succ_pos nap) (Nat.succ_le_succ few)
      refine ⟨first ++ stages, after, ?_, leads.trans more, final⟩
      rw [List.length_append]
      omega

/-- A caller that reaches a tier crosses it if there is a way across. -/
theorem crosses {naps : Nat} {next : Tier} (solo : Solo run limiter outlook call)
    (still : outlook.Undisturbed) (standing : call.progress = .underway (.charging place))
    (here : limiter.tiers[place]? = some tier) (settled : tier.Settled)
    (crossing : Crossing tier outlook naps next) :
    ∃ stages after, Leads stages run after ∧
      Solo after (limiter.putTier place next) (outlook.naps tier.nap naps)
        (call.onward naps (limiter.stageFrom (place + 1))) := by
  cases crossing with
  | enter room =>
      have roomy : tier.count.toNat + 1 < 2 ^ 64 :=
        Nat.lt_of_le_of_lt (Nat.succ_le_succ settled.within) settled.roomy
      have within : tier.charge.overBudget = false := by
        rw [Tier.overBudget_eq_false_iff, settled.toNat_charge_count]
        exact room
      have charged : limiter.step call (some outlook.clock.now) =
          ⟨limiter.putTier place { tier with count := tier.count + 1 },
            call.onward 0 (limiter.stageFrom (place + 1)), []⟩ := by
        rw [step_eq_act limiter _ standing, act, charge_of_within here within, Call.onward_zero,
          Tier.charge_eq_of_lt roomy]
      obtain ⟨stages, after, -, leads, final⟩ :=
        solo.goesOn standing charged rfl (stageFrom_ne_blocked _ _)
      exact ⟨stages, after, leads, final⟩
  | @wait naps count full some early late left =>
      have exceeds := settled.overBudget_charge full
      obtain ⟨looks, rfl⟩ := Nat.exists_eq_succ_of_ne_zero (Nat.ne_of_gt some)
      obtain ⟨falling, asleep, blocked, sleeping⟩ := solo.blocks still standing here exceeds
      have held := getElem?_putTier_self here tier.charge
      obtain ⟨looking, awake, -, polled, waiting⟩ :=
        sleeping.looks still rfl held exceeds looks fun nap positive few =>
          early nap positive (Nat.lt_succ_of_le few)
      obtain ⟨units, count', credited, left'⟩ := settled.credit_charge full late
      obtain rfl : count = count' := UInt64.toNat_inj.mp (left.trans left'.symm)
      have small := settled.left_le_one late
      rw [← left] at small
      have within : Tier.overBudget { tier with
          count, windowStart := (outlook.naps tier.nap (looks + 1)).clock.now } = false := by
        rw [Tier.overBudget_eq_false_iff]
        exact Nat.le_trans small settled.enforceable.quota_pos
      have released : (limiter.putTier place tier.charge).step (call.onward 1 (.blocked place))
          (.some (outlook.naps tier.charge.nap (looks + 1)).clock.now) =
          ⟨limiter.putTier place { tier with
              count, windowStart := (outlook.naps tier.nap (looks + 1)).clock.now },
            call.onward (looks + 1) (limiter.stageFrom (place + 1)),
            creditReport place units count⟩ := by
        rw [Tier.nap_charge, step_eq_act _ _ rfl, act, recheck_of_credit held credited,
          if_neg (by simp [within]), putTier_putTier, stageFrom_putTier]
        rfl
      obtain ⟨leaving, after, -, goes, final⟩ :=
        waiting.goesOn rfl released rfl (stageFrom_ne_blocked _ _)
      exact ⟨_, after, blocked.trans (polled.trans goes), final⟩

/-- A caller that no nap takes past the end of the window is never released. -/
theorem waitsForever (solo : Solo run limiter outlook call) (still : outlook.Undisturbed)
    (standing : call.progress = .underway (.charging place))
    (here : limiter.tiers[place]? = some tier) (settled : tier.Settled)
    (full : tier.count = tier.rule.quota)
    (early : ∀ nap, 0 < nap → (outlook.naps tier.nap nap).clock.now.toNat ≤ tier.windowEnd)
    (steps : Nat) : ∃ stages after, steps ≤ stages.length ∧ Leads stages run after := by
  have exceeds := settled.overBudget_charge full
  obtain ⟨falling, asleep, blocked, sleeping⟩ := solo.blocks still standing here exceeds
  obtain ⟨looking, awake, long, polled, -⟩ :=
    sleeping.looks still rfl (getElem?_putTier_self here tier.charge) exceeds steps
      fun nap positive _ => early nap positive
  refine ⟨falling ++ looking, awake, ?_, blocked.trans polled⟩
  rw [List.length_append]
  exact Nat.le_trans long (Nat.le_add_left _ _)

/-- A caller that has all tiers from some place on before it, and crosses the first of them. -/
theorem crosses_first {done tiers : List Tier} {next : Tier} {naps : Nat}
    (solo : Solo run limiter outlook call) (still : outlook.Undisturbed)
    (listed : limiter.tiers = done ++ tier :: tiers)
    (standing : call.progress = .underway (limiter.stageFrom done.length))
    (settled : tier.Settled) (crossing : Crossing tier outlook naps next) :
    ∃ stages after, Leads stages run after ∧
      Solo after (limiter.putTier done.length next) (outlook.naps tier.nap naps)
        (call.onward naps ((limiter.putTier done.length next).stageFrom (done ++ [next]).length)) ∧
      (limiter.putTier done.length next).tiers = done ++ [next] ++ tiers := by
  have here : limiter.tiers[done.length]? = some tier := by simp [listed]
  rw [stageFrom_of_getElem? here] at standing
  obtain ⟨stages, after, leads, beyond⟩ := solo.crosses still standing here settled crossing
  rw [stageFrom_putTier, List.length_append, List.length_singleton]
  exact ⟨stages, after, leads, beyond, by simp [listed]⟩

/-- A caller that has all tiers from some place on before it takes the route past them. -/
theorem takes {done tiers nexts : List Tier} {counts : List Nat} {last : Outlook}
    (solo : Solo run limiter outlook call) (still : outlook.Undisturbed)
    (listed : limiter.tiers = done ++ tiers)
    (standing : call.progress = .underway (limiter.stageFrom done.length))
    (settled : ∀ tier ∈ tiers, tier.Settled) (route : Route tiers outlook counts nexts last) :
    ∃ (same : (done ++ nexts).length = limiter.tiers.length) (stages : List Stage) (after : Run),
      Leads stages run after ∧
        Solo after (limiter.withTiers (done ++ nexts) same) last
          (call.onward counts.sum .leaving) := by
  induction route generalizing done run limiter call with
  | nil =>
      rw [stageFrom_of_end listed] at standing
      refine ⟨congrArg List.length listed.symm, [], run, .nil, ?_⟩
      rwa [withTiers_congr listed.symm _ rfl, List.sum_nil, Call.onward_zero,
        Call.movedTo_of_eq standing]
  | @cons tier next tiers nexts outlook naps counts last crossing rest ih =>
      rw [List.forall_mem_cons] at settled
      obtain ⟨first, middle, leads, beyond, split⟩ :=
        solo.crosses_first still listed standing settled.1 crossing
      obtain ⟨same, stages, after, more, final⟩ := ih beyond (still.naps _) split rfl settled.2
      rw [Call.onward_onward] at final
      have all : done ++ [next] ++ nexts = done ++ next :: nexts := List.append_assoc ..
      have same' := all ▸ same.trans List.length_set
      rw [withTiers_congr all same (same'.trans List.length_set.symm)] at final
      exact ⟨same', first ++ stages, after, leads.trans more, final⟩

/-- A caller that has all tiers from some place on before it has a route past them, or it waits on
one of them forever. -/
theorem exists_route {done tiers : List Tier} (solo : Solo run limiter outlook call)
    (still : outlook.Undisturbed) (listed : limiter.tiers = done ++ tiers)
    (standing : call.progress = .underway (limiter.stageFrom done.length))
    (settled : ∀ tier ∈ tiers, tier.Settled) :
    (∃ counts nexts last, Route tiers outlook counts nexts last) ∨
      ∀ steps, ∃ stages after, steps ≤ stages.length ∧ Leads stages run after := by
  induction tiers generalizing done run limiter outlook call with
  | nil => exact Or.inl ⟨[], [], outlook, .nil⟩
  | cons tier tiers ih =>
      rw [List.forall_mem_cons] at settled
      rcases exists_crossing settled.1 outlook with ⟨naps, next, crossing⟩ | ⟨full, early⟩
      · obtain ⟨first, middle, leads, beyond, split⟩ :=
          solo.crosses_first still listed standing settled.1 crossing
        rcases ih beyond (still.naps _) split rfl settled.2 with
          ⟨counts, nexts, last, route⟩ | endless
        · exact Or.inl ⟨naps :: counts, next :: nexts, last, .cons crossing route⟩
        · refine Or.inr fun steps => ?_
          obtain ⟨stages, after, long, more⟩ := endless steps
          refine ⟨first ++ stages, after, ?_, leads.trans more⟩
          rw [List.length_append]
          exact Nat.le_trans long (Nat.le_add_left _ _)
      · have here : limiter.tiers[done.length]? = some tier := by simp [listed]
        rw [stageFrom_of_getElem? here] at standing
        exact Or.inr (solo.waitsForever still standing here settled.1 full early)

end Run.Solo

/-! ## A clock that only naps move -/

/-- The naps that it takes to cross a tier which is reached at an instant. -/
def polls (tier : Tier) (reached : Nat) : Nat :=
  if tier.count < tier.rule.quota then 0
  else if tier.windowEnd < reached then 1
  else (tier.windowEnd - reached) / tier.interval.toNat + 1

/-- The naps that it takes to cross tiers in order, each reached when the naps on those before it
are over. -/
def pollsFrom (reached : Nat) : List Tier → List Nat
  | [] => []
  | tier :: tiers =>
    polls tier reached :: pollsFrom (reached + polls tier reached * tier.interval.toNat) tiers

/-- The first of the readings `reached + interval`, `reached + 2 * interval` and so on that is past
the end of the window. -/
theorem Crossing.naps_eq {tier next : Tier} {outlook : Outlook} {naps : Nat}
    (crossing : Crossing tier outlook naps next) (unscripted : outlook.script = [])
    (fits : outlook.clock.now.toNat + naps * tier.interval.toNat < 2 ^ 64) :
    naps = polls tier outlook.clock.now.toNat := by
  have shows : ∀ nap, nap ≤ naps → (outlook.naps tier.nap nap).clock.now.toNat =
      outlook.clock.now.toNat + nap * tier.interval.toNat := by
    intro nap few
    rw [Outlook.naps_of_unscripted unscripted]
    apply Tier.toNat_now_after
    have less := Nat.mul_le_mul_right tier.interval.toNat few
    omega
  cases crossing with
  | enter room => rw [polls, if_pos (UInt64.lt_iff_toNat_lt.mpr room)]
  | wait full some early late left =>
      have noRoom : ¬ tier.count < tier.rule.quota := by
        rw [full]
        exact UInt64.lt_irrefl _
      rw [shows naps (Nat.le_refl _)] at late
      obtain ⟨before, rfl⟩ := Nat.exists_eq_succ_of_ne_zero (Nat.ne_of_gt some)
      have atLeast := tier.shortestPoll_le_interval
      rw [polls, if_neg noRoom]
      rcases Nat.lt_or_ge tier.windowEnd outlook.clock.now.toNat with past | running
      · -- The window was over from the start, so the first look releases.
        rw [if_pos past]
        refine congrArg Nat.succ (Nat.eq_zero_of_not_pos fun more => ?_)
        have inVain := early 1 Nat.one_pos (Nat.succ_lt_succ more)
        rw [shows 1 (Nat.succ_le_succ (Nat.zero_le _))] at inVain
        omega
      · rw [if_neg (Nat.not_lt.mpr running)]
        refine congrArg Nat.succ (Eq.symm (Nat.div_eq_of_lt_le ?_ ?_))
        · rcases Nat.eq_zero_or_pos before with rfl | more
          · rw [Nat.zero_mul]
            exact Nat.zero_le _
          · have inVain := early before more (Nat.lt_succ_self _)
            rw [shows before (Nat.le_succ _)] at inVain
            omega
        · exact Nat.sub_lt_left_of_lt_add running late

namespace Route

variable {tiers nexts : List Tier} {outlook last : Outlook} {counts : List Nat}

/-- All naps on the way together. -/
theorem asleep_eq (route : Route tiers outlook counts nexts last) :
    last.clock.asleep = outlook.clock.asleep + Tier.sleepTime tiers counts := by
  induction route with
  | nil => rfl
  | cons crossing rest ih =>
      rw [ih, Tier.sleepTime, ManualClock.asleep, Outlook.record_naps, List.map_append,
        List.sum_append, List.map_replicate, List.sum_replicate_nat, Tier.millis_nap,
        ManualClock.asleep]
      omega

/-- On a clock that does not go round and that only naps move, the route is determined by the
instant at which it begins, and it takes as long as the naps. -/
theorem counts_eq (route : Route tiers outlook counts nexts last)
    (unscripted : outlook.script = [])
    (fits : outlook.clock.now.toNat + Tier.sleepTime tiers counts < 2 ^ 64) :
    counts = pollsFrom outlook.clock.now.toNat tiers ∧
      last.clock.now.toNat = outlook.clock.now.toNat + Tier.sleepTime tiers counts := by
  induction route with
  | nil => exact ⟨rfl, rfl⟩
  | @cons tier next tiers nexts outlook naps counts last crossing rest ih =>
      rw [Tier.sleepTime] at fits ⊢
      have first := crossing.naps_eq unscripted (by omega)
      have shows := Tier.toNat_now_after (Nat.lt_of_le_of_lt (Nat.add_le_add_left
        (Nat.le_add_right _ _) _) fits)
      rw [Outlook.naps_of_unscripted unscripted] at ih
      obtain ⟨others, reached⟩ := ih rfl (by rw [shows]; omega)
      rw [shows] at others reached
      refine ⟨?_, by omega⟩
      rw [pollsFrom, ← first, ← others]

end Route

/-! ## The call as a whole -/

/-- How a call ends that takes a route past all tiers. -/
structure World.Released (world : World) (counts : List Nat) (nexts : List Tier) (last : Outlook)
    (after : World) (delay : UInt64) : Prop where
  route : Route world.limiter.tiers ⟨world.clock, world.script⟩ counts nexts last
  tiers_eq : after.limiter.tiers = nexts
  clock_eq : after.clock = last.clock
  script_eq : after.script = last.script
  /-- The naps taken, the latest first. -/
  naps_eq : after.clock.naps = napsOn world.limiter.tiers counts ++ world.clock.naps
  delay_eq : delay.toNat =
    if counts.sum = 0 then 0 else after.clock.now.toNat - world.clock.now.toNat

namespace World

variable {world : World}

/-- The call of a caller that is alone arrives and has all tiers before it. -/
theorem arrives_solo (works : world.answers = none) :
    ∃ stages call next, Run.Leads stages world.opening next ∧
      call.start = world.clock.now ∧ call.slept = false ∧
      call.progress = .underway (world.limiter.stageFrom 0) ∧
      Run.Solo next world.limiter ⟨world.clock, world.script⟩ call := by
  have opening : Run.Solo world.opening world.limiter ⟨world.clock, world.script⟩ Call.fresh :=
    ⟨rfl, rfl, rfl, works, rfl, List.not_mem_nil, rfl⟩
  obtain ⟨stages, next, -, leads, after⟩ :=
    opening.goesOn rfl (step_eq_act _ _ rfl) rfl (stageFrom_ne_blocked _ _)
  exact ⟨stages, _, next, leads, rfl, rfl, rfl, after⟩

/-- A caller that has a route past all tiers takes it and returns. -/
theorem exists_released {counts : List Nat} {nexts : List Tier} {last : Outlook}
    (works : world.answers = none) (alone : ∀ entry ∈ world.script, .call ∉ entry)
    (settled : ∀ tier ∈ world.limiter.tiers, tier.Settled)
    (route : Route world.limiter.tiers ⟨world.clock, world.script⟩ counts nexts last) :
    ∃ after delay, world.opening.Ends after (.returned delay) ∧
      world.Released counts nexts last after delay := by
  obtain ⟨arriving, call, reached, begins, start, awake, standing, solo⟩ := arrives_solo works
  have all : world.limiter.tiers = [] ++ world.limiter.tiers := rfl
  obtain ⟨same, stages, gone, leads, leaving⟩ := solo.takes alone all standing settled route
  obtain ⟨after, delay, ends, measured, tiers, clock, script⟩ := leaving.leaves rfl
  refine ⟨after, delay, Run.ends_of_leads (begins.trans leads) ends, route, tiers, clock, script,
    ?_, ?_⟩
  · rw [clock, route.record_eq]
  · rw [measured, clock]
    show (if (call.slept || counts.sum != 0) = true then _ - call.start.toNat else 0) = _
    rw [awake, start, Bool.false_or]
    by_cases none : counts.sum = 0 <;> simp [none]

/-- A call that ends has taken a route past all tiers. -/
theorem released_of_ends {after : World} {ending : Ending} (works : world.answers = none)
    (alone : ∀ entry ∈ world.script, .call ∉ entry)
    (settled : ∀ tier ∈ world.limiter.tiers, tier.Settled)
    (ends : world.opening.Ends after ending) :
    ∃ counts nexts last delay, ending = .returned delay ∧
      world.Released counts nexts last after delay := by
  obtain ⟨arriving, call, reached, begins, -, -, standing, solo⟩ := arrives_solo works
  have all : world.limiter.tiers = [] ++ world.limiter.tiers := rfl
  rcases solo.exists_route alone all standing settled with ⟨counts, nexts, last, route⟩ | endless
  · obtain ⟨other, delay, returns, released⟩ := exists_released works alone settled route
    obtain ⟨steps, finished, ended⟩ := ends
    have halted : (world.opening.finish steps).2 ≠ .unfinished := by rwa [finished]
    have same := Run.finish_eq_of_ends returns halted
    rw [finished] at same
    cases same
    exact ⟨counts, nexts, last, delay, rfl, released⟩
  · refine absurd ends (Run.not_ends_of_leads (fun steps => ?_) after ending)
    obtain ⟨stages, later, long, leads⟩ := endless steps
    refine ⟨arriving ++ stages, later, ?_, begins.trans leads⟩
    rw [List.length_append]
    exact Nat.le_trans long (Nat.le_add_left _ _)

end World

/-- A call on a limiter that was built, whose counts are within the quotas, with nobody else calling
meanwhile and with any script for its naps. It ends if and only if it has a route past all tiers: on
a tier with room it consumes a unit without sleeping, and on a full one it naps until a reading is
past the end of the window, and no longer; there it leaves one unit at most. Without a script, and
on a clock that does not go round, the naps are counted by a division, and the delay is the time
slept. -/
theorem released_at_first_reading_past_window {settings : List Setting} {start : UInt64}
    {limiter : Limiter} (built : build settings start = .ok limiter) {world : World}
    (rules : world.limiter.rules = limiter.rules) (works : world.answers = none)
    (alone : ∀ entry ∈ world.script, .call ∉ entry)
    (within : ∀ tier ∈ world.limiter.tiers, tier.count.toNat ≤ tier.rule.quota.toNat ∧
      tier.rule.quota.toNat < 2 ^ 64 - 1) :
    (∀ after ending, world.opening.Ends after ending →
      ∃ counts nexts last delay, ending = .returned delay ∧
        world.Released counts nexts last after delay) ∧
    (∀ counts nexts last,
      Route world.limiter.tiers ⟨world.clock, world.script⟩ counts nexts last →
        (∃ after delay, world.opening.Ends after (.returned delay) ∧
          world.Released counts nexts last after delay) ∧
        ∀ (place naps : Nat) (next : Tier), counts[place]? = some naps → 0 < naps →
          nexts[place]? = some next → next.count.toNat ≤ 1) ∧
    (world.script = [] →
      world.clock.now.toNat + world.control.1.clock.asleep < 2 ^ 64 + world.clock.asleep →
        ∃ nexts last after delay, world.control = (after, .returned delay) ∧
          world.Released (pollsFrom world.clock.now.toNat world.limiter.tiers) nexts last after
            delay ∧
          world.clock.asleep + delay.toNat = after.clock.asleep) := by
  have settled : ∀ tier ∈ world.limiter.tiers, tier.Settled := by
    intro tier there
    have listed : tier.rule ∈ limiter.rules := rules ▸ List.mem_map_of_mem there
    obtain ⟨most, room⟩ := within tier there
    exact ⟨enforceable_of_build built _ listed, Nat.add_lt_of_lt_sub room, most⟩
  refine ⟨fun after ending => World.released_of_ends works alone settled,
    fun counts nexts last route => ⟨World.exists_released works alone settled route,
      fun place naps next => route.count_le_one settled⟩, ?_⟩
  intro unscripted fits
  obtain ⟨_, _, _, after, delay, -, -, -, served⟩ := World.exists_served_of_fits
    (fun tier there => (settled tier there).enforceable) unscripted works fits
  have ends : world.opening.Ends after (.returned delay) :=
    ⟨world.patience, served.control_eq, by simp⟩
  obtain ⟨counts, nexts, last, delay', returned, released⟩ :=
    World.released_of_ends works alone settled ends
  cases returned
  have slept := released.route.asleep_eq
  rw [← released.clock_eq] at slept
  rw [served.control_eq] at fits
  simp only at slept fits
  obtain ⟨polled, shows⟩ := released.route.counts_eq unscripted (by simp only; omega)
  rw [← released.clock_eq] at shows
  simp only at polled shows
  refine ⟨nexts, last, after, delay, served.control_eq, polled ▸ released, ?_⟩
  rw [released.delay_eq, slept, shows, Nat.add_sub_cancel_left]
  by_cases none : counts.sum = 0
  · rw [if_pos none, Tier.sleepTime_eq_zero none]
  · rw [if_neg none]

/-- Two tiers whose quotas are used up, 100 milliseconds after the window of the first began. -/
def usedUp : World where
  limiter := { tiers := [⟨⟨2, 1000⟩, 2, 5000⟩, ⟨⟨3, 2000⟩, 3, 4000⟩] }
  clock := { now := 5100 }

/-- The caller wakes up at once; then the clock is put back; and the third nap is far too long. -/
def usedUpAndWoken : World :=
  { usedUp with script := [[], [.set 4000], [.advance (.ofMillis 2100)]] }

/-- The third reading, 6100, is the first one past the window of the first tier. The window of the
second tier is over by then, but the caller sleeps once before it looks. -/
theorem route_usedUpAndWoken :
    ∃ last, Route usedUpAndWoken.limiter.tiers ⟨usedUpAndWoken.clock, usedUpAndWoken.script⟩ [3, 1]
      [⟨⟨2, 1000⟩, 1, 6100⟩, ⟨⟨3, 2000⟩, 1, 6300⟩] last := by
  refine ⟨_, .cons (.wait rfl (by decide) ?_ (by decide +kernel) (by decide +kernel))
    (.cons (.wait rfl (by decide) ?_ (by decide +kernel) (by decide +kernel)) .nil)⟩
  · intro nap positive few
    obtain rfl | rfl : nap = 1 ∨ nap = 2 := by omega
    · decide +kernel
    · decide +kernel
  · intro nap positive few
    exact absurd few (Nat.not_lt.mpr positive)

/-- Undisturbed, the caller polls the first tier every 100 milliseconds, ten times, and the second
one once. -/
theorem released_usedUp :
    build [.list [⟨2, 1000⟩, ⟨3, 2000⟩]] 0 = .ok (ofRules [⟨2, 1000⟩, ⟨3, 2000⟩] 0) ∧
      (∃ last after delay, usedUpAndWoken.opening.Ends after (.returned delay) ∧
        usedUpAndWoken.Released [3, 1] [⟨⟨2, 1000⟩, 1, 6100⟩, ⟨⟨3, 2000⟩, 1, 6300⟩] last after
          delay) ∧
      ∃ nexts last after delay, usedUp.control = (after, .returned delay) ∧
        usedUp.Released [10, 1] nexts last after delay ∧ delay = 1200 := by
  have built : build [.list [⟨2, 1000⟩, ⟨3, 2000⟩]] 0 =
      .ok (ofRules [⟨2, 1000⟩, ⟨3, 2000⟩] 0) := by decide +kernel
  have rules : usedUp.limiter.rules = (ofRules [⟨2, 1000⟩, ⟨3, 2000⟩] 0).rules := by
    decide +kernel
  have within : ∀ tier ∈ usedUp.limiter.tiers, tier.count.toNat ≤ tier.rule.quota.toNat ∧
      tier.rule.quota.toNat < 2 ^ 64 - 1 := by decide +kernel
  have alone : ∀ entry ∈ usedUpAndWoken.script, .call ∉ entry := by decide +kernel
  have fits : usedUp.clock.now.toNat + usedUp.control.1.clock.asleep <
      2 ^ 64 + usedUp.clock.asleep := by decide +kernel
  have polled : pollsFrom usedUp.clock.now.toNat usedUp.limiter.tiers = [10, 1] := by
    decide +kernel
  have ended : usedUp.control.2 = .returned 1200 := by decide +kernel
  obtain ⟨last, route⟩ := route_usedUpAndWoken
  obtain ⟨-, takes, -⟩ := @released_at_first_reading_past_window _ _ _ built usedUpAndWoken rules
    rfl alone within
  obtain ⟨⟨after, delay, ends, released⟩, -⟩ := takes _ _ _ route
  obtain ⟨-, -, counts⟩ := released_at_first_reading_past_window built rules rfl
    (fun _ listed => absurd listed List.not_mem_nil) within
  obtain ⟨nexts, last', after', delay', returned, released', -⟩ := counts rfl fits
  rw [returned] at ended
  cases ended
  exact ⟨built, ⟨last, after, delay, ends, released⟩, nexts, last', after', _, returned,
    polled ▸ released', rfl⟩

end Limiter

end FlowGate
