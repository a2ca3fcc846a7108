/-
# A call that nobody disturbs

When a call is the only one and no script moves the clock, its run is determined by the tiers and
the clock alone. `Lone` says what such a run looks like at any moment; whatever else the world
keeps, the metrics, the events and the count of readings, has no bearing on what happens next. A
passage through the tiers is then the course of the run, stage by stage, and `Served` is how the
call ends. As every nap takes at least 50 milliseconds, the steps of a passage fit into the patience
that a call is given.
-/

import FlowGate.Proofs.Limiter.Course
import FlowGate.Proofs.Limiter.Turn
import FlowGate.Proofs.Tier.Passage

namespace FlowGate.Limiter

open Time (ManualClock)

/-! ## The steps of a lone call -/

theorem step_eq_act (limiter : Limiter) {call : Call} {stage : Stage} (now : UInt64)
    (standing : call.progress = .underway stage) :
    limiter.step call (some now) = limiter.act call now stage := by
  simp only [step, standing]
  by_cases reads : call.reads = true
  · rw [if_pos reads]
  · -- Only a call that leaves without having slept takes no reading, and it has no use for one.
    rw [if_neg reads]
    cases stage <;> simp_all [Call.reads, act, leave, conclude]

/-- The call on the stage `stage` with so many more naps behind it. -/
def Call.onward (call : Call) (naps : Nat) (stage : Stage) : Call :=
  { call with slept := call.slept || naps != 0, progress := .underway stage }

theorem Call.onward_onward (call : Call) (first second : Nat) (stage stage' : Stage) :
    (call.onward first stage).onward second stage' = call.onward (first + second) stage' := by
  rw [onward, onward, onward]
  congr 1
  rcases first with _ | first <;> rcases second with _ | second <;> simp

theorem Call.onward_zero (call : Call) (stage : Stage) :
    call.onward 0 stage = call.movedTo stage := by
  simp [onward, movedTo]

theorem Call.onward_one (call : Call) (stage : Stage) :
    call.onward 1 stage = { call.movedTo stage with slept := true } := by
  simp [onward, movedTo]

theorem Call.movedTo_of_eq {call : Call} {stage : Stage}
    (standing : call.progress = .underway stage) : call.movedTo stage = call := by
  rw [movedTo, ← standing]

theorem putTier_of_eq {limiter : Limiter} {place : Nat} {tier : Tier}
    (here : limiter.tiers[place]? = some tier) : limiter.putTier place tier = limiter := by
  obtain ⟨inside, rfl⟩ := List.getElem?_eq_some_iff.mp here
  exact withTiers_congr (List.set_getElem_self inside) List.length_set rfl

theorem putTier_putTier (limiter : Limiter) (place : Nat) (first second : Tier) :
    (limiter.putTier place first).putTier place second = limiter.putTier place second :=
  withTiers_congr (List.set_set first) (List.length_set.trans List.length_set) List.length_set

theorem stageFrom_putTier (limiter : Limiter) (place : Nat) (tier : Tier) (other : Nat) :
    (limiter.putTier place tier).stageFrom other = limiter.stageFrom other := rfl

theorem stageFrom_of_getElem? {limiter : Limiter} {place : Nat} {tier : Tier}
    (here : limiter.tiers[place]? = some tier) : limiter.stageFrom place = .charging place := by
  rw [stageFrom_eq, if_pos (List.getElem?_eq_some_iff.mp here).1]

theorem stageFrom_of_end {limiter : Limiter} {done : List Tier} (all : limiter.tiers = done ++ []) :
    limiter.stageFrom done.length = .leaving := by
  simp [stageFrom_eq, all]

/-- The stages of a caller at the tiers from a place on, with so many naps on each of them. -/
def stops : Nat → List Nat → List Stage
  | _, [] => []
  | place, naps :: counts =>
    .charging place :: List.replicate naps (.blocked place) ++ stops (place + 1) counts

theorem length_stops (place : Nat) (counts : List Nat) :
    (stops place counts).length = counts.length + counts.sum := by
  induction counts generalizing place with
  | nil => rfl
  | cons naps counts ih =>
      simp only [stops, List.length_append, List.length_cons, List.length_replicate, ih,
        List.sum_cons]
      omega

/-- A caller stops at a tier, beyond reaching it, if it naps there. -/
theorem blocked_mem_stops (place : Nat) (counts : List Nat) (other : Nat) :
    .blocked other ∈ stops place counts ↔
      ∃ i naps, other = place + i ∧ counts[i]? = some naps ∧ 0 < naps := by
  induction counts generalizing place with
  | nil => simp [stops]
  | cons naps counts ih =>
      simp only [stops, List.mem_append, List.mem_cons, reduceCtorEq, false_or,
        List.mem_replicate, Stage.blocked.injEq, ih]
      constructor
      · rintro (⟨some, rfl⟩ | ⟨i, naps', rfl, there, some⟩)
        · exact ⟨0, naps, rfl, rfl, Nat.pos_of_ne_zero some⟩
        · exact ⟨i + 1, naps', by omega, there, some⟩
      · rintro ⟨_ | i, naps', rfl, there, some⟩
        · cases there
          exact Or.inl ⟨Nat.pos_iff_ne_zero.mp some, rfl⟩
        · exact Or.inr ⟨i, naps', by omega, there, some⟩

namespace Run

/-- A run in which a single call acts on this limiter and this clock, without a script and on a
clock that works. What else the run keeps has no bearing on what is to come. -/
structure Lone (run : Run) (limiter : Limiter) (clock : ManualClock) (call : Call) : Prop where
  limiter_eq : run.world.limiter = limiter
  clock_eq : run.world.clock = clock
  unscripted : run.world.script = []
  works : run.world.answers = none
  call_eq : run.top.call = call
  awake : run.top.pending = []
  alone : run.below = []

namespace Lone

variable {run : Run} {limiter : Limiter} {clock : ManualClock} {call : Call} {effect : Effect}

theorem stepCall_eq (lone : Lone run limiter clock call)
    (steps : limiter.step call (some clock.now) = effect) :
    (run.world.stepCall run.top.call).1.limiter = effect.limiter ∧
      (run.world.stepCall run.top.call).1.clock = clock ∧
      (run.world.stepCall run.top.call).1.script = [] ∧
      (run.world.stepCall run.top.call).1.answers = none ∧
      (run.world.stepCall run.top.call).2 = effect.call := by
  have reading : run.world.reading = some clock.now := by
    rw [World.reading, lone.works, lone.clock_eq]
  simp only [World.stepCall, lone.limiter_eq, lone.call_eq, reading, steps]
  exact ⟨trivial, lone.clock_eq, lone.unscripted, lone.works, trivial⟩

/-- The call goes on to a stage where it need not sleep. -/
theorem goesOn (lone : Lone run limiter clock call)
    (steps : limiter.step call (some clock.now) = effect) {stage : Stage}
    (standing : effect.call.progress = .underway stage)
    (notBlocked : ∀ place, stage ≠ .blocked place) :
    ∃ next, run.next = .inl next ∧ Lone next effect.limiter clock effect.call := by
  obtain ⟨tiers, time, script, answers, stepped⟩ := lone.stepCall_eq steps
  refine ⟨_, next_of_goesOn lone.awake (by rw [stepped, standing]) notBlocked, tiers, time, script,
    answers, stepped, rfl, lone.alone⟩

/-- The call falls asleep, and the clock moves over the nap. -/
theorem dozesOff (lone : Lone run limiter clock call)
    (steps : limiter.step call (some clock.now) = effect) {place : Nat}
    (standing : effect.call.progress = .underway (.blocked place)) :
    ∃ next, run.next = .inl next ∧
      Lone next effect.limiter (clock.sleep (.ofMillis (effect.limiter.interval place)))
        effect.call := by
  obtain ⟨tiers, time, script, answers, stepped⟩ := lone.stepCall_eq steps
  refine ⟨_, next_of_sleeps lone.awake (by rw [stepped, standing]), ?_⟩
  simp only [World.sleep, script, tiers, stepped]
  exact ⟨rfl, by rw [time], rfl, answers, rfl, rfl, lone.alone⟩

/-- The nap of a call that falls asleep on a tier is that of the tier. -/
theorem sleeps (lone : Lone run limiter clock call)
    (steps : limiter.step call (some clock.now) = effect) {place : Nat} {tier : Tier}
    (standing : effect.call.progress = .underway (.blocked place))
    (here : effect.limiter.tiers[place]? = some tier) :
    ∃ next, run.next = .inl next ∧ Lone next effect.limiter (clock.sleep tier.nap) effect.call := by
  have interval : effect.limiter.interval place = tier.interval := by
    rw [Limiter.interval, here]
    rfl
  obtain ⟨next, moved, asleep⟩ := lone.dozesOff steps standing
  rw [interval] at asleep
  exact ⟨next, moved, asleep⟩

/-- The call returns, and so ends the run. A call that slept has the time since it started for its
delay. -/
theorem leaves (lone : Lone run limiter clock call)
    (standing : call.progress = .underway .leaving) :
    ∃ after delay, run.next = .inr (after, .returned delay) ∧
      delay.toNat = (if call.slept then clock.now.toNat - call.start.toNat else 0) ∧
      after.limiter.tiers = limiter.tiers ∧ after.clock = clock ∧ after.script = [] ∧
      after.answers = none := by
  obtain ⟨tiers, time, script, answers, stepped⟩ :=
    lone.stepCall_eq (step_eq_act limiter clock.now standing)
  refine ⟨(run.world.stepCall run.top.call).1,
    if call.slept then Word.subSat clock.now call.start else 0,
    next_of_returns lone.awake lone.alone (by rw [stepped]; rfl), ?_, ?_, time, script, answers⟩
  · rw [apply_ite UInt64.toNat, Word.toNat_subSat, UInt64.toNat_zero]
  · rw [tiers]
    rfl

/-! ## At one tier -/

/-- A blocked caller that wakes up looks in vain for some time. -/
theorem doze {place looks : Nat} {tier last : Tier}
    (lone : Lone run limiter (clock.sleep tier.nap) call)
    (standing : call.progress = .underway (.blocked place))
    (here : limiter.tiers[place]? = some tier) (doze : Tier.Doze tier clock looks last) :
    ∃ after, Leads (List.replicate looks (.blocked place)) run after ∧
      Lone after (limiter.putTier place last) (clock.sleepTimes tier.nap (looks + 1)) call := by
  induction doze generalizing run limiter with
  | nil => exact ⟨run, .nil, by rwa [putTier_of_eq here]⟩
  | @look tier next last clock units looks credited exceeds rest ih =>
      have looked : limiter.step call (some (clock.sleep tier.nap).now) =
          ⟨limiter.putTier place next, call, creditReport place units next.count⟩ := by
        rw [step_eq_act limiter _ standing, act, recheck_of_credit here credited, if_pos exceeds,
          call.movedTo_of_eq standing]
      have there := getElem?_putTier_self here next
      obtain ⟨middle, moved, again⟩ := lone.sleeps looked standing there
      obtain ⟨after, leads, final⟩ := ih again there
      rw [putTier_putTier, Tier.nap_of_rule_eq (Tier.credit_rule credited)] at final
      exact ⟨after, .cons (lone.call_eq ▸ standing) moved leads, final⟩

/-- A caller that finds a tier over budget falls asleep on it. -/
theorem blocks {place : Nat} {tier : Tier} (lone : Lone run limiter clock call)
    (standing : call.progress = .underway (.charging place))
    (here : limiter.tiers[place]? = some tier) (exceeds : tier.charge.overBudget = true) :
    ∃ next, run.next = .inl next ∧
      Lone next (limiter.putTier place tier.charge) (clock.sleep tier.charge.nap)
        (call.onward 1 (.blocked place)) := by
  have charged : limiter.step call (some clock.now) =
      ⟨limiter.putTier place tier.charge, call.onward 1 (.blocked place), []⟩ := by
    rw [step_eq_act limiter _ standing, act, charge_of_over here exceeds, Call.onward_one]
  exact lone.sleeps charged rfl (getElem?_putTier_self here tier.charge)

/-- A caller that reaches a tier and gets past it. -/
theorem visit {place naps : Nat} {tier next : Tier} (lone : Lone run limiter clock call)
    (standing : call.progress = .underway (.charging place))
    (here : limiter.tiers[place]? = some tier) (visit : Tier.Visit tier clock naps next) :
    ∃ after, Leads (.charging place :: List.replicate naps (.blocked place)) run after ∧
      Lone after (limiter.putTier place next) (clock.sleepTimes tier.nap naps)
        (call.onward naps (limiter.stageFrom (place + 1))) := by
  cases visit with
  | enter within =>
      have charged : limiter.step call (some clock.now) =
          ⟨limiter.putTier place tier.charge, call.onward 0 (limiter.stageFrom (place + 1)),
            []⟩ := by
        rw [step_eq_act limiter _ standing, act, charge_of_within here within, Call.onward_zero]
      obtain ⟨after, moved, final⟩ := lone.goesOn charged rfl (stageFrom_ne_blocked _ _)
      exact ⟨after, .cons (lone.call_eq ▸ standing) moved .nil, final⟩
  | @wait looks last units next exceeds dozing credited within =>
      obtain ⟨asleep, moved, blocked⟩ := lone.blocks standing here exceeds
      obtain ⟨awake, leads, waiting⟩ :=
        blocked.doze rfl (getElem?_putTier_self here tier.charge) dozing
      rw [putTier_putTier, Tier.nap_charge] at waiting
      have released : (limiter.putTier place last).step (call.onward 1 (.blocked place))
          (some (clock.sleepTimes tier.nap (looks + 1)).now) =
          ⟨limiter.putTier place next, call.onward (looks + 1) (limiter.stageFrom (place + 1)),
            creditReport place units next.count⟩ := by
        rw [step_eq_act _ _ rfl, act, recheck_of_credit (getElem?_putTier_self here last) credited,
          if_neg (by simp [within]), putTier_putTier, stageFrom_putTier]
        rfl
      obtain ⟨after, goes, final⟩ := waiting.goesOn released rfl (stageFrom_ne_blocked _ _)
      refine ⟨after, .cons (lone.call_eq ▸ standing) moved ?_, final⟩
      rw [List.replicate_succ']
      exact leads.trans (.cons (by rw [waiting.call_eq]; rfl) goes .nil)

/-! ## At all tiers -/

/-- A caller that has all tiers from some place on before it, and gets past the first of them. -/
theorem visit_first {done tiers : List Tier} {tier next : Tier} {naps : Nat}
    (lone : Lone run limiter clock call) (listed : limiter.tiers = done ++ tier :: tiers)
    (standing : call.progress = .underway (limiter.stageFrom done.length))
    (visited : Tier.Visit tier clock naps next) :
    ∃ after, Leads (.charging done.length :: List.replicate naps (.blocked done.length)) run after ∧
      Lone after (limiter.putTier done.length next) (clock.sleepTimes tier.nap naps)
        (call.onward naps ((limiter.putTier done.length next).stageFrom (done ++ [next]).length)) ∧
      (limiter.putTier done.length next).tiers = done ++ [next] ++ tiers := by
  have here : limiter.tiers[done.length]? = some tier := by simp [listed]
  rw [stageFrom_of_getElem? here] at standing
  obtain ⟨after, leads, beyond⟩ := lone.visit standing here visited
  rw [stageFrom_putTier, List.length_append, List.length_singleton]
  exact ⟨after, leads, beyond, by simp [listed]⟩

/-- A caller that has all tiers from some place on before it, and gets past them. -/
theorem passage {done tiers nexts : List Tier} {counts : List Nat} {last : ManualClock}
    (lone : Lone run limiter clock call) (listed : limiter.tiers = done ++ tiers)
    (standing : call.progress = .underway (limiter.stageFrom done.length))
    (passage : Tier.Passage tiers clock counts nexts last) :
    ∃ (same : (done ++ nexts).length = limiter.tiers.length) (after : Run),
      Leads (stops done.length counts) run after ∧
        Lone after (limiter.withTiers (done ++ nexts) same) last
          (call.onward counts.sum .leaving) := by
  induction passage generalizing done run limiter call with
  | nil =>
      rw [stageFrom_of_end listed] at standing
      refine ⟨congrArg List.length listed.symm, run, .nil, ?_⟩
      rwa [withTiers_congr listed.symm _ rfl, List.sum_nil, Call.onward_zero,
        Call.movedTo_of_eq standing]
  | @cons tier next tiers nexts clock naps counts last visited rest ih =>
      obtain ⟨middle, first, beyond, split⟩ := lone.visit_first listed standing visited
      obtain ⟨same, after, more, final⟩ := ih beyond split rfl
      rw [List.length_append, List.length_singleton] at more
      rw [Call.onward_onward] at final
      have all : done ++ [next] ++ nexts = done ++ next :: nexts := List.append_assoc ..
      have same' := all ▸ same.trans List.length_set
      rw [withTiers_congr all same (same'.trans List.length_set.symm)] at final
      exact ⟨same', after, first.trans more, final⟩

/-- A caller that has all tiers from some place on before it, and gets stalled. -/
theorem stall {done tiers : List Tier} {counts : List Nat}
    (lone : Lone run limiter clock call) (listed : limiter.tiers = done ++ tiers)
    (standing : call.progress = .underway (limiter.stageFrom done.length))
    (stall : Tier.Stall tiers clock counts) :
    ∃ stages after, Leads stages run after ∧ stages.length ≤ counts.length + counts.sum ∧
      after.world.clock.asleep = clock.asleep + Tier.sleepTime tiers counts := by
  induction stall generalizing done run limiter call with
  | @here tier tiers clock looks last exceeds dozing fits wraps =>
      have here : limiter.tiers[done.length]? = some tier := by simp [listed]
      rw [stageFrom_of_getElem? here] at standing
      obtain ⟨asleep, moved, blocked⟩ := lone.blocks standing here exceeds
      obtain ⟨after, leads, waiting⟩ :=
        blocked.doze rfl (getElem?_putTier_self here tier.charge) dozing
      refine ⟨_, after, .cons (lone.call_eq ▸ standing) moved leads, ?_, ?_⟩
      · simp only [List.length_cons, List.length_replicate, List.length_nil, List.sum_cons,
          List.sum_nil]
        omega
      · rw [waiting.clock_eq, Time.ManualClock.asleep_sleepTimes, Tier.millis_nap, Tier.sleepTime,
          Tier.sleepTime_nil]
        rfl
  | @later tier next tiers clock naps counts visited fits rest ih =>
      obtain ⟨middle, first, beyond, split⟩ := lone.visit_first listed standing visited
      obtain ⟨stages, after, more, short, slept⟩ := ih beyond split rfl
      refine ⟨_, after, first.trans more, ?_, ?_⟩
      · simp only [List.length_append, List.length_cons, List.length_replicate, List.sum_cons]
        omega
      · rw [slept, Time.ManualClock.asleep_sleepTimes, Tier.millis_nap, Tier.sleepTime,
          Nat.add_assoc]

end Lone

end Run

/-! ## The call as a whole -/

namespace World

/-- How a call ends that gets past all tiers with so many naps on each, before the clock goes
round. -/
structure Served (world : World) (counts : List Nat) (nexts : List Tier) (last : ManualClock)
    (after : World) (delay : UInt64) : Prop where
  control_eq : world.control = (after, .returned delay)
  delay_eq : delay.toNat = Tier.sleepTime world.limiter.tiers counts
  tiers_eq : after.limiter.tiers = nexts
  clock_eq : after.clock = last
  unscripted : after.script = []
  works : after.answers = none
  blocksOn_iff (place : Nat) :
    world.blocksOn place = true ↔ ∃ naps, counts[place]? = some naps ∧ 0 < naps

theorem le_patience (world : World) : 2 ^ 64 * (world.limiter.tiers.length + 4) ≤ world.patience :=
  calc
    2 ^ 64 * (world.limiter.tiers.length + 4) =
        UInt64.size * (4 + world.limiter.tiers.length) := by rw [Nat.add_comm]; rfl
    _ ≤ UInt64.size * ((4 + world.limiter.tiers.length) * (1 + world.scriptSize)) :=
      Nat.mul_le_mul_left _ (Nat.le_mul_of_pos_right _ (Nat.le_add_right 1 _))
    _ ≤ world.patience := Nat.le_add_right _ _

theorem lone_opening {world : World} (unscripted : world.script = [])
    (works : world.answers = none) :
    Run.Lone world.opening world.limiter world.clock Call.fresh :=
  ⟨rfl, rfl, unscripted, works, rfl, rfl, rfl⟩

/-- The call of a lone caller arrives and has all tiers before it. -/
theorem arrives {world : World} (unscripted : world.script = []) (works : world.answers = none) :
    ∃ call next, Run.Leads [.arriving] world.opening next ∧
      call.start = world.clock.now ∧ call.slept = false ∧
      call.progress = .underway (world.limiter.stageFrom 0) ∧
      Run.Lone next world.limiter world.clock call := by
  obtain ⟨next, moved, after⟩ := (lone_opening unscripted works).goesOn (step_eq_act _ _ rfl) rfl
    (stageFrom_ne_blocked _ _)
  exact ⟨_, next, .cons rfl moved .nil, rfl, rfl, rfl, after⟩

/-- A caller that gets past all tiers before the clock goes round returns with the time it slept. -/
theorem exists_served {world : World} {counts : List Nat} {nexts : List Tier} {last : ManualClock}
    (unscripted : world.script = []) (works : world.answers = none)
    (passage : Tier.Passage world.limiter.tiers world.clock counts nexts last)
    (fits : world.clock.now.toNat + Tier.sleepTime world.limiter.tiers counts < 2 ^ 64) :
    ∃ after delay, world.Served counts nexts last after delay := by
  obtain ⟨call, reached, arriving, start, awake, standing, lone⟩ := arrives unscripted works
  have all : world.limiter.tiers = [] ++ world.limiter.tiers := rfl
  obtain ⟨same, gone, stopping, leaving⟩ := lone.passage all standing passage
  obtain ⟨after, delay, ended, measured, tiers, clock, script, answers⟩ := leaving.leaves rfl
  have leads : Run.Leads ([.arriving] ++ stops 0 counts) world.opening gone :=
    arriving.trans stopping
  -- The steps that are needed fit into the patience, as a nap takes at least 50 milliseconds.
  obtain ⟨spare, enough⟩ : ∃ spare, world.patience =
      ([.arriving] ++ stops 0 counts : List Stage).length + (spare + 1) := by
    have naps := Tier.sum_le_sleepTime (Nat.le_of_eq passage.length_eq.1)
    have room := world.le_patience
    rw [← passage.length_eq.1] at room
    refine ⟨world.patience - (counts.length + counts.sum + 2), ?_⟩
    rw [List.length_append, List.length_singleton, length_stops]
    omega
  refine ⟨after, delay, ?_, ?_, tiers, clock, script, answers, fun place => ?_⟩
  · rw [World.control_eq, enough, Run.finish_of_leads leads, Run.finish, ended]
  · rw [measured, passage.toNat_now_eq fits]
    show (if (call.slept || counts.sum != 0) = true then _ - call.start.toNat else 0) = _
    rw [awake, start, Nat.add_sub_cancel_left, Bool.false_or]
    by_cases none : counts.sum = 0
    · rw [if_neg (by simp [none]), Tier.sleepTime_eq_zero none]
    · rw [if_pos (by simp [none])]
  · have here : gone.top.call.progress = .underway .leaving := by
      rw [leaving.call_eq]
      rfl
    have last : gone.course (spare + 1) = [gone] := by rw [Run.course, ended]
    rw [blocksOn_iff_mem, enough, Run.course_of_leads leads, last, List.map_singleton, here]
    simp [blocked_mem_stops]

/-- A caller that gets stalled ends, if it does, with naps on record that reach past the end of the
clock's range. -/
theorem le_asleep_of_stall {world : World} {counts : List Nat}
    (unscripted : world.script = []) (works : world.answers = none)
    (stall : Tier.Stall world.limiter.tiers world.clock counts) :
    world.clock.asleep + 2 ^ 64 ≤ world.control.1.clock.asleep + world.clock.now.toNat := by
  obtain ⟨call, reached, arriving, -, -, standing, lone⟩ := arrives unscripted works
  have all : world.limiter.tiers = [] ++ world.limiter.tiers := rfl
  obtain ⟨stages, stuck, stopping, few, slept⟩ := lone.stall all standing stall
  have leads := arriving.trans stopping
  obtain ⟨spare, enough⟩ : ∃ spare, world.patience =
      ([.arriving] ++ stages : List Stage).length + spare := by
    have short := stall.length_le
    have naps := Tier.sum_le_sleepTime short
    have long := stall.sleepTime_lt
    have room := world.le_patience
    refine ⟨world.patience - (stages.length + 1), ?_⟩
    rw [List.length_append, List.length_singleton]
    omega
  have beyond := stall.le_sleepTime
  have more := Time.ManualClock.asleep_le_of_suffix (Run.naps_suffix_finish spare stuck)
  rw [World.control_eq, enough, Run.finish_of_leads leads]
  omega

theorem asleep_le_control (world : World) : world.clock.asleep ≤ world.control.1.clock.asleep := by
  rw [control_eq]
  exact ManualClock.asleep_le_of_suffix (Run.naps_suffix_finish world.patience world.opening)

/-- If the naps of a call, whatever comes of it, stay within the clock's range, the call gets past
all tiers, and none of them holds it for longer than its longest wait. -/
theorem exists_served_of_fits {world : World}
    (enforceable : ∀ tier ∈ world.limiter.tiers, tier.rule.Enforceable)
    (unscripted : world.script = []) (works : world.answers = none)
    (fits : world.clock.now.toNat + world.control.1.clock.asleep < 2 ^ 64 + world.clock.asleep) :
    ∃ counts nexts last after delay,
      Tier.Passage world.limiter.tiers world.clock counts nexts last ∧
      world.clock.now.toNat + Tier.sleepTime world.limiter.tiers counts < 2 ^ 64 ∧
      (∀ (place : Nat) (tier : Tier) (naps : Nat), world.limiter.tiers[place]? = some tier →
        counts[place]? = some naps →
          naps * tier.interval.toNat ≤ tier.longestWait world.clock.now.toNat) ∧
      world.Served counts nexts last after delay := by
  rcases Tier.exists_passage world.limiter.tiers world.clock enforceable with
    ⟨counts, nexts, last, passage, short, bounds⟩ | ⟨counts, stall, -⟩
  · obtain ⟨after, delay, served⟩ := exists_served unscripted works passage short
    exact ⟨counts, nexts, last, after, delay, passage, short, bounds, served⟩
  · have beyond := le_asleep_of_stall unscripted works stall
    omega

end World

end FlowGate.Limiter
