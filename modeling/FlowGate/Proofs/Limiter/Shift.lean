/-
# A session at another time

A session that begins at another time, and in which every instant on which the clock is set is moved
along, is the same session: what it answers, records and counts is the same, and the clock and the
windows show another time. The calls are matched step by step; here the operations around them are,
of which a drive is the only one that looks at the clock by itself.

`targets` lists the instants on which the clock is put in the course of an operation, none of them
brought into the clock's range. A session in which all of them are within it is one whose clock does
not go round.
-/

import FlowGate.Proofs.Limiter.Moved

namespace FlowGate.Limiter

open Time (Duration ManualClock)

/-! ## Where the clock is put -/

namespace World

/-- The instants on which the clock is put during a call. -/
def targets (world : World) : List Nat := (world.opening.course world.patience).map Run.target

/-- The instants on which the clock is put during a row of calls. -/
def targetsTimes (world : World) : Nat → List Nat
  | 0 => []
  | times + 1 =>
    world.targets ++ match world.control with
      | (world, .returned _) => world.targetsTimes times
      | _ => []

/-- The instants on which the clock is put while calls are made until `finish`. -/
def targetsTo (world : World) (finish : Nat) (step : Duration) : Nat → List Nat
  | 0 => []
  | rounds + 1 =>
    if finish ≤ world.clock.now.toNat then []
    else
      world.targets ++ match world.control with
        | (world, .returned _) =>
          (world.clock.now.toNat + step.millis.toNat) ::
            { world with clock := world.clock.advance step }.targetsTo finish step rounds
        | _ => []

end World

namespace Session

/-- The instants on which the clock is put during an operation. -/
def targets (session : Session) : Op → List Nat
  | .control times => session.world.targetsTimes times
  | .drive run step =>
    session.world.targetsTo (session.world.clock.now.toNat + run.millis.toNat) step UInt64.size
  | .controlFailing answers => { session.world with answers := some answers }.targets
  | .set instant => [instant.toNat]
  | .advance span => [session.world.clock.now.toNat + span.millis.toNat]
  | _ => []

/-- The instants on which the clock is put in the course of a session. -/
def targetsAll (session : Session) : List Command → List Nat
  | [] => []
  | command :: commands =>
    (if command.handle < session.handles then
      { session with world := session.world.cleared }.targets command.op else []) ++
      (session.perform command).1.targetsAll commands

end Session

/-! ## Calls -/

namespace World

namespace Moved

variable {shift : Int} {world world' : World}

theorem scriptSize_eq (moved : Moved shift world world') :
    world'.scriptSize = world.scriptSize := by
  rw [scriptSize, scriptSize]
  generalize world.script = script, world'.script = script', moved.script = listed
  induction listed with
  | nil => rfl
  | cons first rest ih => rw [List.foldr_cons, List.foldr_cons, ih, first.length_eq]

theorem patience_eq (moved : Moved shift world world') : world'.patience = world.patience := by
  rw [patience, patience, moved.limiter.length_eq, moved.scriptSize_eq, moved.answers_eq]

theorem cleared (moved : Moved shift world world') : Moved shift world.cleared world'.cleared :=
  ⟨moved.limiter, ⟨moved.clock.now, rfl⟩, moved.script, moved.readings_eq, moved.answers_eq, rfl,
    rfl⟩

theorem control (moved : Moved shift world world')
    (fits : ∀ target ∈ world.targets, target < 2 ^ 64)
    (fits' : ∀ target ∈ world'.targets, target < 2 ^ 64) :
    Moved shift world.control.1 world'.control.1 ∧ world'.control.2 = world.control.2 := by
  have opening : Run.Moved shift world.opening world'.opening :=
    ⟨⟨moved.limiter, moved.clock, moved.script, rfl, moved.answers_eq, moved.nested_eq,
      moved.events_eq⟩, ⟨.fresh, rfl, .nil⟩, .nil⟩
  rw [targets, List.forall_mem_map] at fits fits'
  rw [control_eq, control_eq, moved.patience_eq]
  rw [moved.patience_eq] at fits'
  exact opening.finish world.patience fits fits'

theorem controlFailing (moved : Moved shift world world') (answers : Nat)
    (fits : ∀ target ∈ { world with answers := some answers }.targets, target < 2 ^ 64)
    (fits' : ∀ target ∈ { world' with answers := some answers }.targets, target < 2 ^ 64) :
    Moved shift (world.controlFailing answers).1 (world'.controlFailing answers).1 ∧
      (world'.controlFailing answers).2 = (world.controlFailing answers).2 := by
  have failing : Moved shift { world with answers := some answers }
      { world' with answers := some answers } :=
    ⟨moved.limiter, moved.clock, moved.script, moved.readings_eq, rfl, moved.nested_eq,
      moved.events_eq⟩
  obtain ⟨after, same⟩ := failing.control fits fits'
  exact ⟨⟨after.limiter, after.clock, after.script, after.readings_eq, rfl, after.nested_eq,
    after.events_eq⟩, same⟩

theorem controlTimes (moved : Moved shift world world') (times : Nat)
    (fits : ∀ target ∈ world.targetsTimes times, target < 2 ^ 64)
    (fits' : ∀ target ∈ world'.targetsTimes times, target < 2 ^ 64) :
    Moved shift (world.controlTimes times).1 (world'.controlTimes times).1 ∧
      (world'.controlTimes times).2 = (world.controlTimes times).2 := by
  induction times generalizing world world' with
  | zero => exact ⟨moved, rfl⟩
  | succ times ih =>
      rw [targetsTimes, List.forall_mem_append] at fits fits'
      obtain ⟨after, same⟩ := moved.control fits.1 fits'.1
      obtain ⟨-, fits⟩ := fits
      obtain ⟨-, fits'⟩ := fits'
      rw [World.controlTimes, World.controlTimes]
      generalize world.control = called, world'.control = called' at fits fits' after same
      obtain ⟨next, ending⟩ := called
      obtain ⟨next', ending'⟩ := called'
      cases same
      cases ending with
      | failed cause => exact ⟨after, rfl⟩
      | unfinished => exact ⟨after, rfl⟩
      | returned delay =>
          obtain ⟨last, rest⟩ := ih after fits fits'
          refine ⟨last, ?_⟩
          show (delay :: (next'.controlTimes times).2.1, (next'.controlTimes times).2.2) = _
          rw [rest]

theorem driveTo (moved : Moved shift world world') {finish finish' : Nat}
    (later : (finish' : Int) = finish + shift) (step : Duration) (rounds : Nat)
    (fits : ∀ target ∈ world.targetsTo finish step rounds, target < 2 ^ 64)
    (fits' : ∀ target ∈ world'.targetsTo finish' step rounds, target < 2 ^ 64) :
    Moved shift (world.driveTo finish step rounds).1 (world'.driveTo finish' step rounds).1 ∧
      (world'.driveTo finish' step rounds).2 = (world.driveTo finish step rounds).2 := by
  induction rounds generalizing world world' with
  | zero => exact ⟨moved, rfl⟩
  | succ rounds ih =>
      have alike : finish' ≤ world'.clock.now.toNat ↔ finish ≤ world.clock.now.toNat := by
        have now := moved.clock.now
        rw [Time.Moved] at now
        omega
      rw [targetsTo] at fits fits'
      rw [World.driveTo, World.driveTo]
      by_cases past : finish ≤ world.clock.now.toNat
      · rw [if_pos past, if_pos (alike.mpr past)]
        exact ⟨moved, rfl⟩
      · have past' := mt alike.mp past
        rw [if_neg past, List.forall_mem_append] at fits
        rw [if_neg past', List.forall_mem_append] at fits'
        rw [if_neg past, if_neg past']
        obtain ⟨after, same⟩ := moved.control fits.1 fits'.1
        obtain ⟨-, fits⟩ := fits
        obtain ⟨-, fits'⟩ := fits'
        generalize world.control = called, world'.control = called' at fits fits' after same
        obtain ⟨next, ending⟩ := called
        obtain ⟨next', ending'⟩ := called'
        cases same
        cases ending with
        | failed cause => exact ⟨after, rfl⟩
        | unfinished => exact ⟨after, rfl⟩
        | returned delay =>
            simp only [List.forall_mem_cons] at fits fits'
            have stepped : Moved shift { next with clock := next.clock.advance step }
                { next' with clock := next'.clock.advance step } :=
              ⟨after.limiter, after.clock.advance fits.1 fits'.1, after.script, after.readings_eq,
                after.answers_eq, after.nested_eq, after.events_eq⟩
            obtain ⟨last, rest⟩ := ih stepped fits.2 fits'.2
            refine ⟨last, ?_⟩
            simp only [rest]

end Moved

end World

/-! ## Operations -/

/-- The same operation; instants on which it sets the clock, or will, are moved. -/
inductive Op.Moved (shift : Int) : Op → Op → Prop
  | control (times : Nat) : Moved shift (.control times) (.control times)
  | drive (run step : Duration) : Moved shift (.drive run step) (.drive run step)
  | controlFailing (answers : Nat) : Moved shift (.controlFailing answers) (.controlFailing answers)
  | set {instant instant' : UInt64} (moved : Time.Moved shift instant instant') :
      Moved shift (.set instant) (.set instant')
  | advance (span : Duration) : Moved shift (.advance span) (.advance span)
  | tiers : Moved shift .tiers .tiers
  | describe : Moved shift .describe .describe
  | resetMetrics : Moved shift .resetMetrics .resetMetrics
  | clone : Moved shift .clone .clone
  | onSleep {entries entries' : List (List Incident)}
      (moved : List.Forall₂ (List.Forall₂ (Incident.Moved shift)) entries entries') :
      Moved shift (.onSleep entries) (.onSleep entries')

/-- The same operation through the same handle. -/
structure Command.Moved (shift : Int) (command command' : Command) : Prop where
  handle_eq : command'.handle = command.handle
  op : Op.Moved shift command.op command'.op

/-- The same answer; the windows of tiers that it shows are moved. -/
inductive Reply.Moved (shift : Int) : Reply → Reply → Prop
  | tiers {tiers tiers' : List Tier} (moved : List.Forall₂ (Tier.Moved shift) tiers tiers') :
      Moved shift (.tiers tiers) (.tiers tiers')
  | same {reply : Reply} (noTiers : ∀ tiers, reply ≠ .tiers tiers) : Moved shift reply reply

/-- The same report on a clock whose hand is moved. -/
structure Report.Moved (shift : Int) (report report' : Report) : Prop where
  reply : Reply.Moved shift report.reply report'.reply
  now : Time.Moved shift report.now report'.now
  counts_eq : report'.counts = report.counts
  metrics_eq : report'.metrics = report.metrics
  naps_eq : report'.naps = report.naps
  nested_eq : report'.nested = report.nested
  events_eq : report'.events = report.events

/-- The same session with the world moved. -/
structure Session.Moved (shift : Int) (session session' : Session) : Prop where
  world : World.Moved shift session.world session'.world
  handles_eq : session'.handles = session.handles

/-- The answer to calls shows no tiers. -/
theorem Ending.reply_ne_tiers (ending : Ending) (tiers : List Tier) :
    ending.reply ≠ .tiers tiers := by
  cases ending <;> simp [Ending.reply]

theorem ofRow_ne_tiers (delays : List UInt64) (stop : Option Ending) (tiers : List Tier) :
    (stop.map Ending.reply).getD (.delays delays) ≠ .tiers tiers := by
  cases stop with
  | none => simp
  | some ending => exact ending.reply_ne_tiers tiers

namespace Session.Moved

variable {shift : Int} {session session' : Session}

theorem report (moved : Moved shift session session') {reply reply' : Reply}
    (also : Reply.Moved shift reply reply') :
    Report.Moved shift (session.report reply) (session'.report reply') where
  reply := also
  now := moved.world.clock.now
  counts_eq := moved.world.limiter.counts_eq
  metrics_eq := moved.world.limiter.metrics_eq
  naps_eq := congrArg List.reverse moved.world.clock.naps_eq
  nested_eq := congrArg List.reverse moved.world.nested_eq
  events_eq := congrArg List.reverse moved.world.events_eq

/-- One operation. -/
theorem apply (moved : Moved shift session session') {op op' : Op} (also : Op.Moved shift op op')
    (fits : ∀ target ∈ session.targets op, target < 2 ^ 64)
    (fits' : ∀ target ∈ session'.targets op', target < 2 ^ 64) :
    Moved shift (session.apply op).1 (session'.apply op').1 ∧
      Reply.Moved shift (session.apply op).2 (session'.apply op').2 := by
  obtain ⟨world, handles⟩ := moved
  cases also with
  | control times =>
      obtain ⟨after, same⟩ := world.controlTimes times fits fits'
      rw [apply_control, apply_control, same]
      exact ⟨⟨after, handles⟩, .same (ofRow_ne_tiers _ _)⟩
  | drive run step =>
      have later : ((session'.world.clock.now.toNat + run.millis.toNat : Nat) : Int) =
          (session.world.clock.now.toNat + run.millis.toNat : Nat) + shift := by
        have now := world.clock.now
        rw [Time.Moved] at now
        omega
      obtain ⟨after, same⟩ := world.driveTo later step UInt64.size fits fits'
      simp only [Session.apply, same]
      exact ⟨⟨after, handles⟩, .same (ofRow_ne_tiers _ _)⟩
  | controlFailing answers =>
      obtain ⟨after, same⟩ := world.controlFailing answers fits fits'
      simp only [Session.apply, same]
      exact ⟨⟨after, handles⟩, .same (Ending.reply_ne_tiers _)⟩
  | set later =>
      simp only [Session.apply]
      exact ⟨⟨⟨world.limiter, ⟨later, world.clock.naps_eq⟩, world.script, world.readings_eq,
        world.answers_eq, world.nested_eq, world.events_eq⟩, handles⟩, .same (by simp)⟩
  | advance span =>
      have within := fits _ List.mem_cons_self
      have within' := fits' _ List.mem_cons_self
      simp only [Session.apply]
      exact ⟨⟨⟨world.limiter, world.clock.advance within within', world.script, world.readings_eq,
        world.answers_eq, world.nested_eq, world.events_eq⟩, handles⟩, .same (by simp)⟩
  | tiers =>
      simp only [Session.apply, lock_eq_tiers]
      exact ⟨⟨world, handles⟩, .tiers world.limiter.tiers⟩
  | describe =>
      simp only [Session.apply, world.limiter.describe_eq]
      exact ⟨⟨world, handles⟩, .same (by simp)⟩
  | resetMetrics =>
      simp only [Session.apply, resetMetrics]
      exact ⟨⟨⟨⟨world.limiter.tiers, world.limiter.poisoned_eq, rfl⟩, world.clock, world.script,
        world.readings_eq,
        world.answers_eq, world.nested_eq, world.events_eq⟩, handles⟩, .same (by simp)⟩
  | clone =>
      simp only [Session.apply, handles]
      exact ⟨⟨world, rfl⟩, .same (by simp)⟩
  | onSleep later =>
      simp only [Session.apply]
      exact ⟨⟨⟨world.limiter, world.clock, List.rel_append world.script later, world.readings_eq,
        world.answers_eq, world.nested_eq, world.events_eq⟩, handles⟩, .same (by simp)⟩

/-- One command, and the report on it. -/
theorem perform (moved : Moved shift session session') {command command' : Command}
    (also : Command.Moved shift command command')
    (fits : ∀ target ∈ (if command.handle < session.handles then
      { session with world := session.world.cleared }.targets command.op else []), target < 2 ^ 64)
    (fits' : ∀ target ∈ (if command'.handle < session'.handles then
      { session' with world := session'.world.cleared }.targets command'.op else []),
        target < 2 ^ 64) :
    Moved shift (session.perform command).1 (session'.perform command').1 ∧
      Report.Moved shift (session.perform command).2 (session'.perform command').2 := by
  have cleared : Moved shift { session with world := session.world.cleared }
      { session' with world := session'.world.cleared } :=
    ⟨moved.world.cleared, moved.handles_eq⟩
  have known : command'.handle < session'.handles ↔ command.handle < session.handles := by
    rw [also.handle_eq, moved.handles_eq]
  by_cases found : command.handle < session.handles
  · rw [if_pos found] at fits
    rw [if_pos (known.mpr found)] at fits'
    rw [perform_of_lt found, perform_of_lt (known.mpr found)]
    obtain ⟨after, reply⟩ := cleared.apply also.op fits fits'
    exact ⟨after, after.report reply⟩
  · have lost := mt known.mp found
    simp only [Session.perform, if_neg found, if_neg lost]
    exact ⟨cleared, cleared.report (.same (by simp))⟩

/-- A whole session, operation by operation. -/
theorem course (moved : Moved shift session session') {commands commands' : List Command}
    (also : List.Forall₂ (Command.Moved shift) commands commands')
    (fits : ∀ target ∈ session.targetsAll commands, target < 2 ^ 64)
    (fits' : ∀ target ∈ session'.targetsAll commands', target < 2 ^ 64) :
    List.Forall₂ (fun after after' => Moved shift after.1 after'.1 ∧
        Report.Moved shift after.2 after'.2)
      (session.course commands) (session'.course commands') := by
  induction also generalizing session session' with
  | nil => exact .nil
  | cons first rest ih =>
      rw [targetsAll, List.forall_mem_append] at fits fits'
      obtain ⟨after, report⟩ := moved.perform first fits.1 fits'.1
      exact .cons ⟨after, report⟩ (ih after fits.2 fits'.2)

end Session.Moved

/-- A limiter is built twice from the same settings, and used in the same way at two times: every
instant on which the clock is set, by an operation or during a nap, is moved along. As long as
neither clock goes round, the two sessions answer the same, with the same delays and failures, take
the same naps, and have after every operation the same counts, events and metrics; the clock and the
windows of the one are moved against those of the other. -/
theorem course_moved {settings : List Setting} {start start' : UInt64}
    {limiter limiter' : Limiter} (built : build settings start = .ok limiter)
    (built' : build settings start' = .ok limiter') {shift : Int}
    (moved : Time.Moved shift start start') {commands commands' : List Command}
    (along : List.Forall₂ (Command.Moved shift) commands commands')
    (fits : ∀ target ∈ (Session.start limiter start).targetsAll commands, target < 2 ^ 64)
    (fits' : ∀ target ∈ (Session.start limiter' start').targetsAll commands', target < 2 ^ 64) :
    List.Forall₂ (fun after after' => Session.Moved shift after.1 after'.1 ∧
        Report.Moved shift after.2 after'.2)
      ((Session.start limiter start).course commands)
      ((Session.start limiter' start').course commands') := by
  obtain ⟨-, rfl⟩ := (build_eq_ok_iff settings start limiter).mp built
  obtain ⟨-, rfl⟩ := (build_eq_ok_iff settings start' limiter').mp built'
  have began : Session.Moved shift (Session.start (ofRules (rulesOf settings) start) start)
      (Session.start (ofRules (rulesOf settings) start') start') :=
    ⟨⟨Moved.ofRules _ moved, ⟨moved, rfl⟩, .nil, rfl, rfl, rfl, rfl⟩, rfl⟩
  exact began.course along fits fits'

/-- A day of calls that begins at `dawn`: one nap is cut short, during another one the clock is set
and somebody else calls, and this caller is woken at once; later the clock fails, and it is set
back. -/
def day (dawn : UInt64) : List Command :=
  [{ op := .onSleep [[.advance (.ofMillis 300)], [.set (dawn + 1500), .call], []] },
    { op := .control 3 },
    { op := .advance (.ofMillis 700) },
    { op := .controlFailing 4 },
    { op := .set (dawn + 100) },
    { op := .control 1 }]

/-- The session of such a day, on tiers for one unit a second and three units in two seconds. -/
def dayAt (dawn : UInt64) : Session := Session.start (ofRules [⟨1, 1000⟩, ⟨3, 2000⟩] dawn) dawn

/-- The tiers in the course of such a day, with their counts and the starts of their windows. -/
def dayTiers (dawn first start second start' : UInt64) : List Tier :=
  [⟨⟨1, 1000⟩, first, dawn + start⟩, ⟨⟨3, 2000⟩, second, dawn + start'⟩]

/-- The naps of a caller, so many of the first tier and then so many of the second. -/
def dayNaps (first second : Nat) : List Duration :=
  List.replicate first (.ofMillis 100) ++ List.replicate second (.ofMillis 200)

/-- What such a day comes to: the report on every operation, and the tiers after it. -/
def dayOutcomes (dawn : UInt64) : List (Report × List Tier) :=
  [(⟨.nothing, dawn, [0, 0], ⟨0, 0, 0⟩, [], [], []⟩, dayTiers dawn 0 0 0 0),
    (⟨.delays [0, 2600, 1300], dawn + 3900, [1, 0], ⟨4, 3, 5000⟩, dayNaps 25 1, [1100],
        [.tierCredited 0 1 2, .tierCredited 0 1 1, .callerDelayed 1100, .callerDelayed 2600,
          .tierCredited 0 1 1, .tierCredited 1 4 0, .callerDelayed 1300]⟩,
      dayTiers dawn 1 3700 0 3900),
    (⟨.nothing, dawn + 4600, [1, 0], ⟨4, 3, 5000⟩, [], [], []⟩, dayTiers dawn 1 3700 0 3900),
    (⟨.failure .clockFailed, dawn + 4800, [1, 0], ⟨4, 3, 5000⟩, dayNaps 2 0, [],
        [.tierCredited 0 1 1]⟩,
      dayTiers dawn 1 4800 0 3900),
    (⟨.nothing, dawn + 100, [1, 0], ⟨4, 3, 5000⟩, [], [], []⟩, dayTiers dawn 1 4800 0 3900),
    (⟨.delays [5800], dawn + 5900, [1, 1], ⟨5, 4, 10800⟩, dayNaps 58 0, [],
        [.tierCredited 0 1 1, .callerDelayed 5800]⟩,
      dayTiers dawn 1 5900 1 3900)]

/-- A day that begins at zero, and the same one fifty years later. -/
theorem course_moved_dayAt :
    (∀ target ∈ (dayAt 0).targetsAll (day 0), target < 2 ^ 64) ∧
      (∀ target ∈ (dayAt 1700000000000).targetsAll (day 1700000000000), target < 2 ^ 64) ∧
      ((dayAt 0).course (day 0)).map (fun after => (after.2, after.1.world.limiter.tiers)) =
        dayOutcomes 0 ∧
      ((dayAt 1700000000000).course (day 1700000000000)).map
          (fun after => (after.2, after.1.world.limiter.tiers)) = dayOutcomes 1700000000000 ∧
      List.Forall₂ (fun after after' => Session.Moved 1700000000000 after.1 after'.1 ∧
          Report.Moved 1700000000000 after.2 after'.2)
        ((dayAt 0).course (day 0)) ((dayAt 1700000000000).course (day 1700000000000)) := by
  have built : build [.list [⟨1, 1000⟩, ⟨3, 2000⟩]] 0 =
      .ok (ofRules [⟨1, 1000⟩, ⟨3, 2000⟩] 0) := by decide +kernel
  have built' : build [.list [⟨1, 1000⟩, ⟨3, 2000⟩]] 1700000000000 =
      .ok (ofRules [⟨1, 1000⟩, ⟨3, 2000⟩] 1700000000000) := by decide +kernel
  have along : List.Forall₂ (Command.Moved 1700000000000) (day 0) (day 1700000000000) :=
    .cons ⟨rfl, .onSleep (.cons (.cons (.advance _) .nil)
      (.cons (.cons (.set (by rfl)) (.cons .call .nil)) (.cons .nil .nil)))⟩
    (.cons ⟨rfl, .control 3⟩ (.cons ⟨rfl, .advance _⟩ (.cons ⟨rfl, .controlFailing 4⟩
      (.cons ⟨rfl, .set (by rfl)⟩ (.cons ⟨rfl, .control 1⟩ .nil)))))
  have fits : ∀ target ∈ (dayAt 0).targetsAll (day 0), target < 2 ^ 64 := by decide +kernel
  have fits' : ∀ target ∈ (dayAt 1700000000000).targetsAll (day 1700000000000),
      target < 2 ^ 64 := by decide +kernel
  exact ⟨fits, fits', by decide +kernel, by decide +kernel,
    course_moved built built' (by rfl) along fits fits'⟩

end FlowGate.Limiter
