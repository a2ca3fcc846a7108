/-
# Runs at another time

Two runs of the same calls, one of them moved by a span of time: all instants that the one keeps,
the reading of the clock, the window starts, the starts of calls and the instants in the script, are
by this span later in the other, or earlier if it is negative, and all else is the same. A limiter
has no use for an instant but to subtract it from another. So each step of the one run is matched by
the same step of the other, as long as neither clock goes round; `target` is where a step puts the
hand, not brought into the clock's range.

`Moved` is the relation between the two, for everything that a run is made of.
-/

import FlowGate.Proofs.Limiter.Alone

namespace FlowGate

open Time (Duration ManualClock)

/-- The second instant is the first one moved by so many milliseconds. -/
def Time.Moved (shift : Int) (instant instant' : UInt64) : Prop :=
  (instant'.toNat : Int) = instant.toNat + shift

namespace Time.Moved

variable {shift : Int} {instant instant' other other' : UInt64}

theorem add (moved : Moved shift instant instant') {span : UInt64}
    (fits : instant.toNat + span.toNat < 2 ^ 64) (fits' : instant'.toNat + span.toNat < 2 ^ 64) :
    Moved shift (instant + span) (instant' + span) := by
  rw [Moved] at moved ⊢
  rw [UInt64.toNat_add, UInt64.toNat_add, Nat.mod_eq_of_lt fits, Nat.mod_eq_of_lt fits']
  omega

/-- The time between two instants stays the same. -/
theorem subSat_eq (moved : Moved shift instant instant') (also : Moved shift other other') :
    Word.subSat instant' other' = Word.subSat instant other := by
  apply UInt64.toNat_inj.mp
  rw [Word.toNat_subSat, Word.toNat_subSat]
  rw [Moved] at moved also
  omega

end Time.Moved

/-! ## Tiers and limiters -/

/-- The same tier with the window moved. -/
structure Tier.Moved (shift : Int) (tier tier' : Tier) : Prop where
  rule_eq : tier'.rule = tier.rule
  count_eq : tier'.count = tier.count
  windowStart : Time.Moved shift tier.windowStart tier'.windowStart

namespace Tier.Moved

variable {shift : Int} {tier tier' : Tier}

theorem create (rule : Config.Rule) {now now' : UInt64} (moved : Time.Moved shift now now') :
    Moved shift (Tier.create rule now) (Tier.create rule now') := ⟨rfl, rfl, moved⟩

theorem charge (moved : Moved shift tier tier') : Moved shift tier.charge tier'.charge :=
  ⟨moved.rule_eq, by rw [Tier.charge, Tier.charge, moved.count_eq], moved.windowStart⟩

theorem overBudget_eq (moved : Moved shift tier tier') : tier'.overBudget = tier.overBudget := by
  rw [overBudget, overBudget, moved.rule_eq, moved.count_eq]

theorem interval_eq (moved : Moved shift tier tier') : tier'.interval = tier.interval := by
  rw [interval, interval, moved.rule_eq]

/-- A credit fails with the same fault or gives back the same units. -/
theorem credit (moved : Moved shift tier tier') {now now' : UInt64}
    (later : Time.Moved shift now now') :
    (∃ fault, tier.credit now = .error fault ∧ tier'.credit now' = .error fault) ∨
      ∃ units next next', tier.credit now = .ok (units, next) ∧
        tier'.credit now' = .ok (units, next') ∧ Moved shift next next' := by
  rw [Tier.credit, Tier.credit, later.subSat_eq moved.windowStart, moved.rule_eq, moved.count_eq]
  by_cases early : Word.subSat now tier.windowStart ≤ tier.rule.period
  · simp only [if_pos early]
    exact Or.inr ⟨0, tier, tier', rfl, rfl, moved⟩
  · simp only [if_neg early]
    cases Word.share (Word.subSat now tier.windowStart) tier.rule.quota tier.rule.period with
    | error fault => exact Or.inl ⟨fault, rfl, rfl⟩
    | ok due =>
        simp only [bind, Except.bind, pure, Except.pure]
        cases Word.subChecked tier.count (min due tier.count) with
        | error fault => exact Or.inl ⟨fault, rfl, rfl⟩
        | ok remaining => exact Or.inr ⟨_, _, _, rfl, rfl, rfl, rfl, later⟩

end Tier.Moved

namespace Limiter

/-- The same limiter with the windows of all tiers moved. -/
structure Moved (shift : Int) (limiter limiter' : Limiter) : Prop where
  tiers : List.Forall₂ (Tier.Moved shift) limiter.tiers limiter'.tiers
  poisoned_eq : limiter'.poisoned = limiter.poisoned
  metrics_eq : limiter'.metrics = limiter.metrics

namespace Moved

variable {shift : Int} {limiter limiter' : Limiter}

theorem ofRules (rules : List Config.Rule) {now now' : UInt64}
    (moved : Time.Moved shift now now') :
    Moved shift (ofRules rules now) (ofRules rules now') := by
  refine ⟨?_, rfl, rfl⟩
  show List.Forall₂ _ (rules.map _) (rules.map _)
  rw [List.forall₂_map_left_iff, List.forall₂_map_right_iff, List.forall₂_same]
  exact fun rule _ => Tier.Moved.create rule moved

theorem length_eq (moved : Moved shift limiter limiter') :
    limiter'.tiers.length = limiter.tiers.length := moved.tiers.length_eq.symm

/-- At every place there is no tier in either limiter, or a tier and the same one moved. -/
theorem getElem? (moved : Moved shift limiter limiter') (place : Nat) :
    (limiter.tiers[place]? = none ∧ limiter'.tiers[place]? = none) ∨
      ∃ tier tier', limiter.tiers[place]? = some tier ∧ limiter'.tiers[place]? = some tier' ∧
        Tier.Moved shift tier tier' := by
  rcases Nat.lt_or_ge place limiter.tiers.length with inside | outside
  · have inside' : place < limiter'.tiers.length := moved.length_eq ▸ inside
    exact Or.inr ⟨_, _, List.getElem?_eq_getElem inside, List.getElem?_eq_getElem inside',
      moved.tiers.get inside inside'⟩
  · exact Or.inl ⟨List.getElem?_eq_none outside,
      List.getElem?_eq_none (moved.length_eq ▸ outside)⟩

theorem putTier (moved : Moved shift limiter limiter') (place : Nat) {tier tier' : Tier}
    (also : Tier.Moved shift tier tier') :
    Moved shift (limiter.putTier place tier) (limiter'.putTier place tier') := by
  refine ⟨?_, moved.poisoned_eq, moved.metrics_eq⟩
  show List.Forall₂ _ (limiter.tiers.set place tier) (limiter'.tiers.set place tier')
  generalize limiter.tiers = tiers, limiter'.tiers = tiers', moved.tiers = listed
  induction listed generalizing place with
  | nil => exact .nil
  | cons first rest ih =>
      cases place with
      | zero => exact .cons also rest
      | succ place => exact .cons first (ih place)

theorem poison (moved : Moved shift limiter limiter') :
    Moved shift limiter.poison limiter'.poison :=
  ⟨moved.tiers, rfl, moved.metrics_eq⟩

theorem unwound (moved : Moved shift limiter limiter') (stage : Stage) :
    Moved shift (limiter.unwound stage) (limiter'.unwound stage) := by
  rw [Limiter.unwound, Limiter.unwound]
  split
  · exact moved.poison
  · exact moved

theorem stageFrom_eq (moved : Moved shift limiter limiter') (place : Nat) :
    limiter'.stageFrom place = limiter.stageFrom place := by
  rw [Limiter.stageFrom_eq, Limiter.stageFrom_eq, moved.length_eq]

theorem interval_eq (moved : Moved shift limiter limiter') (place : Nat) :
    limiter'.interval place = limiter.interval place := by
  rw [interval, interval]
  rcases moved.getElem? place with ⟨none, none'⟩ | ⟨tier, tier', here, here', also⟩
  · rw [none, none']
  · rw [here, here', Option.map_some, Option.map_some, also.interval_eq]

theorem rules_eq (moved : Moved shift limiter limiter') : limiter'.rules = limiter.rules := by
  rw [rules, rules, ← List.forall₂_eq_eq_eq, List.forall₂_map_left_iff,
    List.forall₂_map_right_iff]
  exact moved.tiers.flip.imp fun _ _ also => also.rule_eq

theorem describe_eq (moved : Moved shift limiter limiter') :
    limiter'.describe = limiter.describe := by
  rw [Limiter.describe_eq, Limiter.describe_eq, moved.rules_eq]

theorem counts_eq (moved : Moved shift limiter limiter') : limiter'.counts = limiter.counts := by
  rw [counts, counts, lock_eq_tiers, lock_eq_tiers, ← List.forall₂_eq_eq_eq,
    List.forall₂_map_left_iff, List.forall₂_map_right_iff]
  exact moved.tiers.flip.imp fun _ _ also => also.count_eq

end Moved

/-! ## One step of a call -/

/-- The same call with its start moved, if it has arrived. -/
structure Call.Moved (shift : Int) (call call' : Call) : Prop where
  slept_eq : call'.slept = call.slept
  progress_eq : call'.progress = call.progress
  start : ∀ stage, call.progress = .underway stage → stage ≠ .arriving →
    Time.Moved shift call.start call'.start

/-- The same effect on a limiter and a call that are moved. -/
structure Effect.Moved (shift : Int) (effect effect' : Effect) : Prop where
  limiter : Limiter.Moved shift effect.limiter effect'.limiter
  call : Call.Moved shift effect.call effect'.call
  events_eq : effect'.events = effect.events

namespace Call.Moved

variable {shift : Int} {call call' : Call} {stage : Stage}

theorem fresh : Moved shift Call.fresh Call.fresh :=
  ⟨rfl, rfl, fun _ standing away => absurd (Progress.underway.inj standing).symm away⟩

theorem reads_eq (moved : Moved shift call call') : call'.reads = call.reads := by
  rw [Call.reads, Call.reads, moved.progress_eq, moved.slept_eq]

theorem fail (moved : Moved shift call call') (stage : Stage) (cause : Failure) :
    Moved shift (call.fail stage cause) (call'.fail stage cause) :=
  ⟨moved.slept_eq, rfl, fun _ standing => nomatch standing⟩

/-- A call that has arrived, at another stage. -/
theorem movedTo (moved : Moved shift call call') (standing : call.progress = .underway stage)
    (arrived : stage ≠ .arriving) (next : Stage) :
    Moved shift (call.movedTo next) (call'.movedTo next) :=
  ⟨moved.slept_eq, rfl, fun _ _ _ => moved.start stage standing arrived⟩

end Call.Moved

namespace Moved

variable {shift : Int} {limiter limiter' : Limiter} {call call' : Call}

theorem charge (moved : Moved shift limiter limiter') (also : Call.Moved shift call call')
    {place : Nat} (standing : call.progress = .underway (.charging place)) :
    Effect.Moved shift (limiter.charge call place) (limiter'.charge call' place) := by
  have arrived : Stage.charging place ≠ .arriving := by simp
  rcases moved.getElem? place with ⟨none, none'⟩ | ⟨tier, tier', here, here', same⟩
  · rw [charge_of_missing none, charge_of_missing none']
    exact ⟨moved.poison, also.fail _ _, rfl⟩
  · have stays := same.charge.overBudget_eq
    cases exceeds : tier.charge.overBudget with
    | true =>
        rw [charge_of_over here exceeds, charge_of_over here' (stays.trans exceeds)]
        exact ⟨moved.putTier place same.charge,
          ⟨rfl, rfl, fun _ _ _ => also.start _ standing arrived⟩, rfl⟩
    | false =>
        rw [charge_of_within here exceeds, charge_of_within here' (stays.trans exceeds),
          moved.stageFrom_eq]
        exact ⟨moved.putTier place same.charge, also.movedTo standing arrived _, rfl⟩

theorem recheck (moved : Moved shift limiter limiter') (also : Call.Moved shift call call')
    {place : Nat} (standing : call.progress = .underway (.blocked place)) {now now' : UInt64}
    (later : Time.Moved shift now now') :
    Effect.Moved shift (limiter.recheck call place now) (limiter'.recheck call' place now') := by
  have arrived : Stage.blocked place ≠ .arriving := by simp
  rcases moved.getElem? place with ⟨none, none'⟩ | ⟨tier, tier', here, here', same⟩
  · rw [recheck_of_missing none, recheck_of_missing none']
    exact ⟨moved.poison, also.fail _ _, rfl⟩
  · rcases same.credit later with
      ⟨fault, failed, failed'⟩ | ⟨units, next, next', credited, credited', after⟩
    · rw [recheck_of_error here failed, recheck_of_error here' failed']
      exact ⟨moved.poison, also.fail _ _, rfl⟩
    · rw [recheck_of_credit here credited, recheck_of_credit here' credited', after.overBudget_eq,
        moved.stageFrom_eq, after.count_eq]
      exact ⟨moved.putTier place after, also.movedTo standing arrived _, rfl⟩

theorem leave (moved : Moved shift limiter limiter') (also : Call.Moved shift call call')
    (standing : call.progress = .underway .leaving) {now now' : UInt64}
    (later : call.slept = true → Time.Moved shift now now') :
    Effect.Moved shift (limiter.leave call now) (limiter'.leave call' now') := by
  have delay : (if call'.slept then Word.subSat now' call'.start else 0) =
      if call.slept then Word.subSat now call.start else 0 := by
    rw [also.slept_eq]
    split
    · next slept =>
      exact (later slept).subSat_eq (also.start _ standing (by simp))
    · rfl
  rw [Limiter.leave, Limiter.leave, conclude, conclude, delay, moved.metrics_eq]
  refine ⟨⟨moved.tiers, moved.poisoned_eq, rfl⟩, ⟨also.slept_eq, rfl, fun _ reached => ?_⟩,
    by rw [also.slept_eq]⟩
  cases reached

theorem act (moved : Moved shift limiter limiter') (also : Call.Moved shift call call')
    {stage : Stage} (standing : call.progress = .underway stage) {now now' : UInt64}
    (later : Time.Moved shift now now') :
    Effect.Moved shift (limiter.act call now stage) (limiter'.act call' now' stage) := by
  cases stage with
  | arriving =>
      simp only [Limiter.act, moved.stageFrom_eq]
      exact ⟨moved, ⟨also.slept_eq, rfl, fun _ _ _ => later⟩, rfl⟩
  | charging place => exact moved.charge also standing
  | blocked place => exact moved.recheck also standing later
  | leaving => exact moved.leave also standing fun _ => later

/-- A step of a call, with readings of both clocks or with none, as both fail. -/
theorem step (moved : Moved shift limiter limiter') (also : Call.Moved shift call call')
    {reading reading' : Option UInt64} (offered : Option.Rel (Time.Moved shift) reading reading') :
    Effect.Moved shift (limiter.step call reading) (limiter'.step call' reading') := by
  cases standing : call.progress with
  | returned delay =>
      have standing' := also.progress_eq.trans standing
      simp only [Limiter.step, standing, standing']
      exact ⟨moved, also, rfl⟩
  | failed stage cause =>
      have standing' := also.progress_eq.trans standing
      simp only [Limiter.step, standing, standing']
      exact ⟨moved, also, rfl⟩
  | underway stage =>
      have standing' := also.progress_eq.trans standing
      cases offered with
      | some later =>
          rw [step_eq_act limiter _ standing, step_eq_act limiter' _ standing']
          exact moved.act also standing later
      | none =>
          simp only [Limiter.step, standing, standing', also.reads_eq]
          by_cases reads : call.reads = true
          · simp only [if_pos reads]
            exact ⟨moved.unwound stage, also.fail _ _, rfl⟩
          · -- Only a call that leaves without having slept takes no reading.
            simp only [if_neg reads]
            have leaving : stage = .leaving ∧ call.slept = false := by
              cases stage <;> simp_all [Call.reads]
            obtain ⟨rfl, awake⟩ := leaving
            exact moved.leave also standing fun slept => absurd slept (by simp [awake])

end Moved

/-! ## One step of a run -/

/-- The same incident; the instant on which a clock is set is moved. -/
inductive Incident.Moved (shift : Int) : Incident → Incident → Prop
  | advance (span : Duration) : Moved shift (.advance span) (.advance span)
  | set {instant instant' : UInt64} (moved : Time.Moved shift instant instant') :
      Moved shift (.set instant) (.set instant')
  | full : Moved shift .full .full
  | call : Moved shift .call .call

/-- The same clock with its hand moved. -/
structure ClockMoved (shift : Int) (clock clock' : ManualClock) : Prop where
  now : Time.Moved shift clock.now clock'.now
  naps_eq : clock'.naps = clock.naps

/-- The same frame; the call and what is still to happen during its nap are moved. -/
structure Frame.Moved (shift : Int) (frame frame' : Frame) : Prop where
  call : Call.Moved shift frame.call frame'.call
  nap_eq : frame'.nap = frame.nap
  pending : List.Forall₂ (Incident.Moved shift) frame.pending frame'.pending

/-- The same world with the limiter, the clock and the script moved. -/
structure World.Moved (shift : Int) (world world' : World) : Prop where
  limiter : Limiter.Moved shift world.limiter world'.limiter
  clock : ClockMoved shift world.clock world'.clock
  script : List.Forall₂ (List.Forall₂ (Incident.Moved shift)) world.script world'.script
  readings_eq : world'.readings = world.readings
  answers_eq : world'.answers = world.answers
  nested_eq : world'.nested = world.nested
  events_eq : world'.events = world.events

/-- The same run with the world and all frames moved. -/
structure Run.Moved (shift : Int) (run run' : Run) : Prop where
  world : World.Moved shift run.world run'.world
  top : Frame.Moved shift run.top run'.top
  below : List.Forall₂ (Frame.Moved shift) run.below run'.below

theorem ClockMoved.advance {shift : Int} {clock clock' : ManualClock}
    (moved : ClockMoved shift clock clock') {span : Duration}
    (fits : clock.now.toNat + span.millis.toNat < 2 ^ 64)
    (fits' : clock'.now.toNat + span.millis.toNat < 2 ^ 64) :
    ClockMoved shift (clock.advance span) (clock'.advance span) :=
  ⟨moved.now.add fits fits', moved.naps_eq⟩

theorem ClockMoved.note {shift : Int} {clock clock' : ManualClock}
    (moved : ClockMoved shift clock clock') (nap : Duration) :
    ClockMoved shift (clock.note nap) (clock'.note nap) :=
  ⟨moved.now, congrArg (List.cons nap) moved.naps_eq⟩

namespace World

/-- The instant on which a call that falls asleep puts the hand, not brought into its range: past
the nap, if no script is left, and else where it is. -/
def wakeTarget (world : World) (tier : Nat) : Nat :=
  match world.script with
  | [] => world.clock.now.toNat + (Duration.ofMillis (world.limiter.interval tier)).millis.toNat
  | _ :: _ => world.clock.now.toNat

namespace Moved

variable {shift : Int} {world world' : World} {call call' : Call}

theorem reading (moved : Moved shift world world') :
    Option.Rel (Time.Moved shift) world.reading world'.reading := by
  rw [World.reading, World.reading, moved.answers_eq, moved.readings_eq]
  cases world.answers with
  | none => exact .some moved.clock.now
  | some answers =>
      by_cases left : world.readings < answers
      · simp only [if_pos left]
        exact .some moved.clock.now
      · simp only [if_neg left]
        exact .none

theorem stepCall (moved : Moved shift world world') (also : Call.Moved shift call call') :
    Moved shift (world.stepCall call).1 (world'.stepCall call').1 ∧
      Call.Moved shift (world.stepCall call).2 (world'.stepCall call').2 := by
  have effect := moved.limiter.step also moved.reading
  have offered : world'.reading.isSome = world.reading.isSome := by
    have same := moved.reading
    generalize world.reading = reading, world'.reading = reading' at same
    cases same <;> rfl
  refine ⟨⟨effect.limiter, moved.clock, moved.script, ?_, moved.answers_eq, moved.nested_eq, ?_⟩,
    effect.call⟩
  · simp only [World.stepCall, also.reads_eq, offered, moved.readings_eq]
  · simp only [World.stepCall, effect.events_eq, moved.events_eq]

theorem sleep (moved : Moved shift world world') (also : Call.Moved shift call call') {tier : Nat}
    (fits : world.wakeTarget tier < 2 ^ 64) (fits' : world'.wakeTarget tier < 2 ^ 64) :
    Moved shift (world.sleep call tier).1 (world'.sleep call' tier).1 ∧
      Frame.Moved shift (world.sleep call tier).2 (world'.sleep call' tier).2 := by
  have same := moved.limiter.interval_eq tier
  have listed := moved.script
  rw [wakeTarget] at fits fits'
  rw [World.sleep, World.sleep, same]
  cases scripted : world.script with
  | nil =>
      rw [scripted, List.forall₂_nil_left_iff] at listed
      rw [scripted] at fits
      rw [listed, same] at fits'
      simp only [listed]
      exact ⟨⟨moved.limiter, (moved.clock.note _).advance fits fits', .nil,
        moved.readings_eq, moved.answers_eq, moved.nested_eq, moved.events_eq⟩, also, rfl, .nil⟩
  | cons entry rest =>
      rw [scripted, List.forall₂_cons_left_iff] at listed
      obtain ⟨entry', rest', first, others, scripted'⟩ := listed
      simp only [scripted']
      exact ⟨⟨moved.limiter, moved.clock.note _, others, moved.readings_eq, moved.answers_eq,
        moved.nested_eq, moved.events_eq⟩, also, rfl, first⟩

end Moved

end World

namespace Run

/-- The instant on which the next step puts the hand, not brought into its range. -/
def target (run : Run) : Nat :=
  match run.top.pending with
  | .advance span :: _ => run.world.clock.now.toNat + span.millis.toNat
  | .set instant :: _ => instant.toNat
  | .full :: _ => run.world.clock.now.toNat + run.top.nap.millis.toNat
  | .call :: _ => run.world.clock.now.toNat
  | [] =>
    let (world, call) := run.world.stepCall run.top.call
    match call.progress with
    | .underway (.blocked tier) => world.wakeTarget tier
    | _ => world.clock.now.toNat

namespace Moved

variable {shift : Int} {run run' : Run}

/-- Two runs that go on are moved against each other still, and if one of them ends, so does the
other one in the same way. -/
def Follows (shift : Int) : Run ⊕ World × Ending → Run ⊕ World × Ending → Prop :=
  Sum.LiftRel (Run.Moved shift) fun ended ended' =>
    World.Moved shift ended.1 ended'.1 ∧ ended'.2 = ended.2

/-- The top call takes a step. -/
theorem next_of_awake (moved : Moved shift run run') (awake : run.top.pending = [])
    (fits : run.target < 2 ^ 64) (fits' : run'.target < 2 ^ 64) :
    Follows shift run.next run'.next := by
  have awake' : run'.top.pending = [] := by
    have pending := moved.top.pending
    rwa [awake, List.forall₂_nil_left_iff] at pending
  obtain ⟨world, call⟩ := moved.world.stepCall moved.top.call
  have same := call.progress_eq
  simp only [target, awake, awake'] at fits fits'
  rw [Run.next_of_awake awake, Run.next_of_awake awake', settle, settle, same]
  rw [same] at fits'
  cases standing : (run.world.stepCall run.top.call).2.progress with
  | failed stage cause => exact .inr ⟨world, rfl⟩
  | returned delay =>
      cases around : run.below with
      | nil =>
          have alone := moved.below
          rw [around, List.forall₂_nil_left_iff] at alone
          rw [alone]
          exact .inr ⟨world, rfl⟩
      | cons frame frames =>
          have below := moved.below
          rw [around, List.forall₂_cons_left_iff] at below
          obtain ⟨frame', frames', first, others, around'⟩ := below
          rw [around']
          exact .inl ⟨⟨world.limiter, world.clock, world.script, world.readings_eq,
            world.answers_eq, congrArg (List.cons delay) world.nested_eq, world.events_eq⟩, first,
            others⟩
  | underway stage =>
      cases stage with
      | blocked tier =>
          rw [standing] at fits fits'
          obtain ⟨asleep, frame⟩ := world.sleep call fits fits'
          exact .inl ⟨asleep, frame, moved.below⟩
      | arriving => exact .inl ⟨world, ⟨call, rfl, .nil⟩, moved.below⟩
      | charging place => exact .inl ⟨world, ⟨call, rfl, .nil⟩, moved.below⟩
      | leaving => exact .inl ⟨world, ⟨call, rfl, .nil⟩, moved.below⟩

/-- One step of two runs that are moved against each other, if it takes neither hand out of its
range. -/
theorem next (moved : Moved shift run run') (fits : run.target < 2 ^ 64)
    (fits' : run'.target < 2 ^ 64) : Follows shift run.next run'.next := by
  obtain ⟨limiter, clock, script, readings, answers, nested, events⟩ := moved.world
  cases due : run.top.pending with
  | nil => exact moved.next_of_awake due fits fits'
  | cons incident pending =>
      have listed := moved.top.pending
      rw [due, List.forall₂_cons_left_iff] at listed
      obtain ⟨incident', pending', first, others, due'⟩ := listed
      cases first with
      | advance span =>
          simp only [target, due, due'] at fits fits'
          simp only [Run.next, due, due']
          have later := clock.advance fits fits'
          exact .inl ⟨⟨limiter, later, script, readings, answers, nested, events⟩,
            ⟨moved.top.call, moved.top.nap_eq, others⟩, moved.below⟩
      | set later =>
          simp only [Run.next, due, due']
          exact .inl ⟨⟨limiter, ⟨later, clock.naps_eq⟩, script, readings, answers, nested, events⟩,
            ⟨moved.top.call, moved.top.nap_eq, others⟩, moved.below⟩
      | full =>
          simp only [target, due, due', moved.top.nap_eq] at fits fits'
          simp only [Run.next, due, due', moved.top.nap_eq]
          have later := clock.advance fits fits'
          exact .inl ⟨⟨limiter, later, script, readings, answers, nested, events⟩,
            ⟨moved.top.call, rfl, others⟩, moved.below⟩
      | call =>
          simp only [Run.next, due, due']
          exact .inl ⟨moved.world, ⟨.fresh, rfl, .nil⟩,
            .cons ⟨moved.top.call, moved.top.nap_eq, others⟩ moved.below⟩

/-- Two runs that are moved against each other come to worlds that are, and end in the same way. -/
theorem finish (moved : Moved shift run run') (steps : Nat)
    (fits : ∀ passed ∈ run.course steps, passed.target < 2 ^ 64)
    (fits' : ∀ passed ∈ run'.course steps, passed.target < 2 ^ 64) :
    World.Moved shift (run.finish steps).1 (run'.finish steps).1 ∧
      (run'.finish steps).2 = (run.finish steps).2 := by
  induction steps generalizing run run' with
  | zero => exact ⟨moved.world, rfl⟩
  | succ steps ih =>
      rw [course, List.forall_mem_cons] at fits fits'
      have follows := moved.next fits.1 fits'.1
      rw [Run.finish, Run.finish]
      generalize run.next = onward, run'.next = onward' at fits fits' follows
      cases follows with
      | inl after => exact ih after fits.2 fits'.2
      | inr ended => exact ended

end Moved

end Run

end Limiter

end FlowGate
