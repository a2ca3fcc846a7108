/-
# The succession of windows

Callers decide on sightings that may be as old as they like. All the same, the windows that are
opened form one succession: each is opened from the start of the one before it, at least a period
later, and the start that is in force is that of the last one. The starts grow strictly, so a start
that was left behind never comes back, and whoever still holds a sighting of it cannot open a window
any more.

`Chronicle` says this of a contest and of the settlements that led to it. It holds from the first
move through every run in which no clock shows the largest word, where the saturated bounds of the
phases would count.
-/

import FlowGate.Proofs.Sampler.Build
import FlowGate.Proofs.Sampler.Phase
import FlowGate.Sampler.Contest
import Mathlib.Data.List.Basic

namespace FlowGate.Sampler

open Config (Cycle)

/-! ## What a decision can do -/

/-- What can come of a sighting, from the start that is in force to the start afterwards. -/
inductive Outcome (cycle : Cycle) (sighting : Sighting) : UInt64 → Decision → UInt64 → Prop
  /-- The event falls into the window that the caller saw. -/
  | inside {before} (phase : phaseAt cycle sighting.start sighting.now = .active) :
      Outcome cycle sighting before .pass before
  /-- The event falls between windows. -/
  | between {before} (phase : phaseAt cycle sighting.start sighting.now = .dormant) :
      Outcome cycle sighting before .suppress before
  /-- A window is due and the caller opens it. -/
  | opened (phase : phaseAt cycle sighting.start sighting.now = .eligible) :
      Outcome cycle sighting sighting.start .pass sighting.now
  /-- A window is due, but somebody else has opened it. -/
  | outrun {before} (phase : phaseAt cycle sighting.start sighting.now = .eligible)
      (stale : before ≠ sighting.start) : Outcome cycle sighting before .suppress before

theorem decideSeen_cycle (sampler : Sampler) (seen now : UInt64) :
    (sampler.decideSeen seen now).1.cycle = sampler.cycle := by
  by_cases current : sampler.lastStart = seen <;>
    cases phase : phaseAt sampler.cycle seen now <;>
      simp [decideSeen, openWindow?, concluded, phase, current]

theorem decideSeen_outcome (sampler : Sampler) (sighting : Sighting) :
    Outcome sampler.cycle sighting sampler.lastStart
      (sampler.decideSeen sighting.start sighting.now).2
      (sampler.decideSeen sighting.start sighting.now).1.lastStart := by
  cases phase : phaseAt sampler.cycle sighting.start sighting.now with
  | active =>
      simp only [decideSeen, phase, concluded]
      exact .inside phase
  | dormant =>
      simp only [decideSeen, phase, concluded]
      exact .between phase
  | eligible =>
      by_cases current : sampler.lastStart = sighting.start
      · simp only [decideSeen, phase, openWindow?, current, concluded]
        exact .opened phase
      · simp only [decideSeen, phase, openWindow?, if_neg current, concluded]
        exact .outrun phase current

namespace Outcome

variable {cycle : Cycle} {sighting : Sighting} {before after : UInt64} {decision : Decision}

/-- Whoever finds a window due while the start that it saw is still in force opens it. -/
theorem of_current (outcome : Outcome cycle sighting before decision after)
    (eligible : phaseAt cycle sighting.start sighting.now = .eligible)
    (current : before = sighting.start) : decision = .pass ∧ after = sighting.now := by
  cases outcome with
  | inside phase => exact absurd (phase.symm.trans eligible) (by simp)
  | between phase => exact absurd (phase.symm.trans eligible) (by simp)
  | opened phase => exact ⟨rfl, rfl⟩
  | outrun phase stale => exact absurd current stale

/-- Whoever finds a window due after the start that it saw has been left is suppressed. -/
theorem of_stale (outcome : Outcome cycle sighting before decision after)
    (eligible : phaseAt cycle sighting.start sighting.now = .eligible)
    (stale : before ≠ sighting.start) : decision = .suppress ∧ after = before := by
  cases outcome with
  | inside phase => exact absurd (phase.symm.trans eligible) (by simp)
  | between phase => exact absurd (phase.symm.trans eligible) (by simp)
  | opened phase => exact absurd rfl stale
  | outrun phase stale => exact ⟨rfl, rfl⟩

/-- Whoever finds no window due leaves the start alone, and passes only inside a window. -/
theorem of_not_eligible (outcome : Outcome cycle sighting before decision after)
    (early : phaseAt cycle sighting.start sighting.now ≠ .eligible) :
    after = before ∧
      (decision = .pass → phaseAt cycle sighting.start sighting.now = .active) := by
  cases outcome with
  | inside phase => exact ⟨rfl, fun _ => phase⟩
  | between phase => exact ⟨rfl, fun passes => nomatch passes⟩
  | opened phase => exact absurd phase early
  | outrun phase stale => exact absurd phase early

end Outcome

namespace Settlement

/-- The caller found a new window due, and so tried to open it. -/
def attempts (cycle : Cycle) (settlement : Settlement) : Bool :=
  phaseAt cycle settlement.sighting.start settlement.sighting.now == .eligible

/-- The caller tried to open a window while the start that it had seen was still in force. -/
def opens (cycle : Cycle) (settlement : Settlement) : Bool :=
  settlement.attempts cycle && settlement.before == settlement.sighting.start

/-- The outcome that a settlement records is one that can come of its sighting. -/
def Sound (cycle : Cycle) (settlement : Settlement) : Prop :=
  Outcome cycle settlement.sighting settlement.before settlement.decision settlement.after

variable {cycle : Cycle} {settlement : Settlement}

theorem attempts_iff : settlement.attempts cycle = true ↔
    phaseAt cycle settlement.sighting.start settlement.sighting.now = .eligible := by
  rw [attempts, beq_iff_eq]

theorem opens_iff : settlement.opens cycle = true ↔
    settlement.attempts cycle = true ∧ settlement.before = settlement.sighting.start := by
  rw [opens, Bool.and_eq_true, beq_iff_eq]

/-- Whoever opens a window passes, and the window starts at its reading. -/
theorem Sound.of_opens (sound : settlement.Sound cycle)
    (opens : settlement.opens cycle = true) :
    settlement.decision = .pass ∧ settlement.after = settlement.sighting.now := by
  obtain ⟨attempts, current⟩ := opens_iff.mp opens
  exact Outcome.of_current sound (attempts_iff.mp attempts) current

/-- Whoever tries to open a window and does not is suppressed, and the start stays. -/
theorem Sound.of_attempts (sound : settlement.Sound cycle)
    (attempts : settlement.attempts cycle = true) (fails : ¬ settlement.opens cycle = true) :
    settlement.decision = .suppress ∧ settlement.after = settlement.before :=
  Outcome.of_stale sound (attempts_iff.mp attempts) fun current =>
    fails (opens_iff.mpr ⟨attempts, current⟩)

/-- Whoever does not open a window leaves the start alone. -/
theorem Sound.of_not_opens (sound : settlement.Sound cycle)
    (fails : ¬ settlement.opens cycle = true) : settlement.after = settlement.before := by
  by_cases attempts : settlement.attempts cycle = true
  · exact (sound.of_attempts attempts fails).2
  · exact (Outcome.of_not_eligible sound (mt attempts_iff.mpr attempts)).1

/-- Whoever passes without opening a window falls into the one that it saw. -/
theorem Sound.active_of_pass (sound : settlement.Sound cycle)
    (fails : ¬ settlement.opens cycle = true) (passes : settlement.decision = .pass) :
    phaseAt cycle settlement.sighting.start settlement.sighting.now = .active := by
  by_cases attempts : settlement.attempts cycle = true
  · have suppressed := (sound.of_attempts attempts fails).1
    exact absurd (passes.symm.trans suppressed) (by simp)
  · exact (Outcome.of_not_eligible sound (mt attempts_iff.mpr attempts)).2 passes

end Settlement

/-! ## Windows -/

/-- The settlements by which windows were opened. -/
def openings (cycle : Cycle) (past : List Settlement) : List Settlement :=
  past.filter (·.opens cycle)

/-- The starts from which windows were opened. -/
def leftStarts (cycle : Cycle) (past : List Settlement) : List Nat :=
  (openings cycle past).map (·.sighting.start.toNat)

/-- The starts of all windows: zero, and every instant at which a window was opened. -/
def starts (cycle : Cycle) (past : List Settlement) : List Nat :=
  0 :: (openings cycle past).map (·.after.toNat)

section Snoc

variable {cycle : Cycle} {settlement : Settlement} (past : List Settlement)

theorem openings_append_of_opens (opens : settlement.opens cycle = true) :
    openings cycle (past ++ [settlement]) = openings cycle past ++ [settlement] := by
  simp [openings, opens]

theorem openings_append_of_not_opens (fails : ¬ settlement.opens cycle = true) :
    openings cycle (past ++ [settlement]) = openings cycle past := by
  simp [openings, fails]

end Snoc

/-- A settlement leads from one contest to another. -/
structure Contest.Settles (contest : Contest) (settlement : Settlement) (next : Contest) :
    Prop where
  /-- The sighting was waiting to be settled. -/
  listed : settlement.sighting ∈ contest.unsettled
  /-- No sighting is added. -/
  kept : next.unsettled ⊆ contest.unsettled
  cycle_eq : next.sampler.cycle = contest.sampler.cycle
  before_eq : settlement.before = contest.sampler.lastStart
  after_eq : settlement.after = next.sampler.lastStart
  sound : settlement.Sound contest.sampler.cycle

/-- A move that settles a sighting, if there is one at the place, does so as described. -/
theorem Contest.move_settle (contest : Contest) (place : Nat) :
    (contest.move (.settle place) = (contest, none)) ∨
      ∃ settlement next, contest.move (.settle place) = (next, some settlement) ∧
        contest.Settles settlement next := by
  cases there : contest.unsettled[place]? with
  | none =>
      left
      simp only [move, there]
  | some sighting =>
      right
      refine ⟨_, _, by simp only [move, there]; rfl, ?_⟩
      exact
        { listed := List.mem_of_getElem? there
          kept := List.eraseIdx_subset
          cycle_eq := decideSeen_cycle _ _ _
          before_eq := rfl
          after_eq := rfl
          sound := decideSeen_outcome _ _ }

theorem Contest.Settles.old {contest next : Contest} {settlement : Settlement}
    (settles : contest.Settles settlement next) {past : List Settlement} {sighting : Sighting}
    (listed : sighting ∈ next.unsettled ++ (past ++ [settlement]).map Settlement.sighting) :
    sighting ∈ contest.unsettled ++ past.map Settlement.sighting := by
  simp only [List.map_append, List.map_cons, List.map_nil, List.mem_append,
    List.mem_singleton] at listed
  rcases listed with waiting | settled | rfl
  · exact List.mem_append_left _ (settles.kept waiting)
  · exact List.mem_append_right _ settled
  · exact List.mem_append_left _ settles.listed

/-- What a contest and the settlements that led to it say of each other. -/
structure Chronicle (cycle : Cycle) (contest : Contest) (past : List Settlement) : Prop where
  /-- The cycle is never written. -/
  cycle_eq : contest.sampler.cycle = cycle
  /-- Settlements record what came of their sightings. -/
  sound : ∀ settlement ∈ past, settlement.Sound cycle
  /-- Every sighting shows a start that was in force at some time. -/
  seen : ∀ sighting ∈ contest.unsettled ++ past.map Settlement.sighting,
    sighting.now < Word.top ∧ sighting.start.toNat ∈ starts cycle past
  /-- Every window was opened from the start of the one before it; the last one is in force. -/
  linked : leftStarts cycle past ++ [contest.sampler.lastStart.toNat] = starts cycle past
  /-- Any two windows start at least a period apart. -/
  spaced : (starts cycle past).Pairwise fun earlier later =>
    earlier + cycle.period.toNat ≤ later
  /-- Each window took a period. -/
  paced : (openings cycle past).length * cycle.period.toNat ≤ contest.sampler.lastStart.toNat
  /-- A start from which somebody tried to open a window has been left. -/
  contested : ∀ settlement ∈ past, settlement.attempts cycle = true →
    settlement.sighting.start.toNat ∈ leftStarts cycle past

namespace Chronicle

variable {cycle : Cycle} {contest : Contest} {past : List Settlement}

theorem fresh (sampler : Sampler) (unopened : sampler.lastStart = 0) :
    Chronicle sampler.cycle { sampler } [] where
  cycle_eq := rfl
  sound := by simp
  seen := by simp
  linked := by simp [leftStarts, openings, starts, unopened]
  spaced := by simp [starts, openings]
  paced := by simp [openings]
  contested := by simp

theorem sound_of_settles (chronicle : Chronicle cycle contest past) {next : Contest}
    {settlement : Settlement} (settles : contest.Settles settlement next) :
    settlement.Sound cycle := by
  rw [← chronicle.cycle_eq]
  exact settles.sound

/-- No window starts after the one that is in force. -/
theorem le_lastStart (chronicle : Chronicle cycle contest past) {start : Nat}
    (known : start ∈ starts cycle past) : start ≤ contest.sampler.lastStart.toNat := by
  have spaced := chronicle.spaced
  rw [← chronicle.linked] at known spaced
  rcases List.mem_append.mp known with left | last
  · have := (List.pairwise_append.mp spaced).2.2 start left _ (List.mem_singleton.mpr rfl)
    omega
  · exact Nat.le_of_eq (List.mem_singleton.mp last)

/-- A caller takes a sighting: it sees the start that is in force. -/
theorem sight (chronicle : Chronicle cycle contest past) {now : UInt64} (below : now < Word.top) :
    Chronicle cycle (contest.move (.sight now)).1 past := by
  refine ⟨chronicle.cycle_eq, chronicle.sound, ?_, chronicle.linked, chronicle.spaced,
    chronicle.paced, chronicle.contested⟩
  intro sighting listed
  simp only [Contest.move, List.mem_append, List.mem_singleton] at listed
  rcases listed with (old | rfl) | settled
  · exact chronicle.seen sighting (List.mem_append_left _ old)
  · refine ⟨below, ?_⟩
    rw [← chronicle.linked]
    exact List.mem_append_right _ (List.mem_singleton.mpr rfl)
  · exact chronicle.seen sighting (List.mem_append_right _ settled)

/-- A caller settles a sighting and opens a window. -/
theorem settle_opens (chronicle : Chronicle cycle contest past) {next : Contest}
    {settlement : Settlement} (settles : contest.Settles settlement next)
    (opens : settlement.opens cycle = true) :
    Chronicle cycle next (past ++ [settlement]) := by
  obtain ⟨attempts, current⟩ := Settlement.opens_iff.mp opens
  have sound := chronicle.sound_of_settles settles
  have known := chronicle.seen _ (List.mem_append_left _ settles.listed)
  have later : contest.sampler.lastStart.toNat + cycle.period.toNat ≤ settlement.after.toNat := by
    rw [(sound.of_opens opens).2, ← settles.before_eq, current]
    exact period_le_of_eligible known.1 (Settlement.attempts_iff.mp attempts)
  have opened := openings_append_of_opens past opens
  have grown : starts cycle (past ++ [settlement]) =
      starts cycle past ++ [settlement.after.toNat] := by
    simp [starts, opened]
  have left : leftStarts cycle (past ++ [settlement]) =
      leftStarts cycle past ++ [settlement.sighting.start.toNat] := by
    simp [leftStarts, opened]
  refine ⟨settles.cycle_eq.trans chronicle.cycle_eq, ?_, ?_, ?_, ?_, ?_, ?_⟩
  · exact List.forall_mem_append.mpr ⟨chronicle.sound, by simpa using sound⟩
  · intro sighting listed
    rw [grown]
    have ⟨below, start⟩ := chronicle.seen sighting (settles.old listed)
    exact ⟨below, List.mem_append_left _ start⟩
  · rw [left, grown, ← chronicle.linked, ← settles.after_eq, ← settles.before_eq, current]
  · rw [grown]
    refine List.pairwise_append.mpr ⟨chronicle.spaced, List.pairwise_singleton _ _, ?_⟩
    intro start earlier instant last
    have := chronicle.le_lastStart earlier
    rw [List.mem_singleton.mp last]
    omega
  · rw [opened, List.length_append, List.length_singleton, Nat.add_mul, Nat.one_mul,
      ← settles.after_eq]
    exact Nat.le_trans (Nat.add_le_add_right chronicle.paced _) later
  · rw [left]
    intro other listed tries
    rcases List.mem_append.mp listed with old | new
    · exact List.mem_append_left _ (chronicle.contested other old tries)
    · rw [List.mem_singleton.mp new]
      exact List.mem_append_right _ (List.mem_singleton.mpr rfl)

/-- A caller settles a sighting without opening a window. If it tried to, then the start that it
saw is not in force any more, so it has been left. -/
theorem settle_other (chronicle : Chronicle cycle contest past) {next : Contest}
    {settlement : Settlement} (settles : contest.Settles settlement next)
    (fails : ¬ settlement.opens cycle = true) :
    Chronicle cycle next (past ++ [settlement]) := by
  have sound := chronicle.sound_of_settles settles
  have known := chronicle.seen _ (List.mem_append_left _ settles.listed)
  have stays : next.sampler.lastStart = contest.sampler.lastStart := by
    rw [← settles.after_eq, ← settles.before_eq]
    exact sound.of_not_opens fails
  have same := openings_append_of_not_opens past fails
  have sameStarts : starts cycle (past ++ [settlement]) = starts cycle past := by
    rw [starts, same, starts]
  have sameLeft : leftStarts cycle (past ++ [settlement]) = leftStarts cycle past := by
    rw [leftStarts, same, leftStarts]
  refine ⟨settles.cycle_eq.trans chronicle.cycle_eq, ?_, ?_, ?_, ?_, ?_, ?_⟩
  · exact List.forall_mem_append.mpr ⟨chronicle.sound, by simpa using sound⟩
  · intro sighting listed
    rw [sameStarts]
    exact chronicle.seen sighting (settles.old listed)
  · rw [sameLeft, sameStarts, stays]
    exact chronicle.linked
  · rw [sameStarts]
    exact chronicle.spaced
  · rw [same, stays]
    exact chronicle.paced
  · rw [sameLeft]
    intro other listed tries
    rcases List.mem_append.mp listed with old | new
    · exact chronicle.contested other old tries
    · obtain rfl := List.mem_singleton.mp new
      have start := known.2
      rw [← chronicle.linked] at start
      refine (List.mem_append.mp start).resolve_right fun last => fails ?_
      refine Settlement.opens_iff.mpr ⟨tries, ?_⟩
      rw [settles.before_eq]
      exact (UInt64.toNat_inj.mp (List.mem_singleton.mp last)).symm

theorem settle (chronicle : Chronicle cycle contest past) {next : Contest}
    {settlement : Settlement} (settles : contest.Settles settlement next) :
    Chronicle cycle next (past ++ [settlement]) := by
  by_cases opens : settlement.opens cycle = true
  · exact chronicle.settle_opens settles opens
  · exact chronicle.settle_other settles opens

/-! ## Runs -/

/-- One move keeps the chronicle, whoever makes it. -/
theorem move (chronicle : Chronicle cycle contest past) (move : Move)
    (readable : ∀ now, move = .sight now → now < Word.top) :
    Chronicle cycle (contest.move move).1 (past ++ (contest.move move).2.toList) := by
  cases move with
  | sight now =>
      have kept := chronicle.sight (readable now rfl)
      rwa [← List.append_nil past] at kept
  | settle place =>
      rcases contest.move_settle place with stays | ⟨settlement, next, moved, settles⟩
      · rw [stays]
        simpa using chronicle
      · rw [moved]
        exact chronicle.settle settles

/-- A run keeps the chronicle if no clock shows the largest word. -/
theorem play (chronicle : Chronicle cycle contest past) (moves : List Move)
    (readable : ∀ now, Move.sight now ∈ moves → now < Word.top) :
    Chronicle cycle (contest.play moves).1 (past ++ (contest.play moves).2) := by
  induction moves generalizing contest past with
  | nil => simpa [Contest.play] using chronicle
  | cons move moves ih =>
      have next := chronicle.move move fun now is =>
        readable now (by rw [is]; exact List.mem_cons_self)
      have rest := ih next fun now listed => readable now (List.mem_cons_of_mem _ listed)
      simpa [Contest.play, List.append_assoc] using rest

/-- Later in a run the start in force is at least as late. -/
theorem lastStart_le {later : Contest} {more : List Settlement}
    (chronicle : Chronicle cycle contest past) (next : Chronicle cycle later (past ++ more)) :
    contest.sampler.lastStart.toNat ≤ later.sampler.lastStart.toNat := by
  apply next.le_lastStart
  have last : contest.sampler.lastStart.toNat ∈ starts cycle past := by
    rw [← chronicle.linked]
    exact List.mem_append_right _ (List.mem_singleton.mpr rfl)
  simp only [starts, openings, List.filter_append, List.map_append, List.mem_cons,
    List.mem_append] at last ⊢
  exact last.imp_right Or.inl

end Chronicle

theorem Contest.play_append (contest : Contest) (early late : List Move) :
    contest.play (early ++ late) =
      (((contest.play early).1.play late).1,
        (contest.play early).2 ++ ((contest.play early).1.play late).2) := by
  induction early generalizing contest with
  | nil => rfl
  | cons move early ih => simp [Contest.play, ih, List.append_assoc]

/-- The chronicle of any run of a sampler that was built. -/
theorem chronicle_of_build {cycle : Cycle} {sampler : Sampler}
    (built : build cycle = .ok sampler) (moves : List Move)
    (readable : ∀ now, Move.sight now ∈ moves → now < Word.top) :
    Chronicle cycle (Contest.play { sampler } moves).1 (Contest.play { sampler } moves).2 := by
  obtain ⟨-, rfl⟩ := (build_eq_ok_iff _ _).mp built
  exact (Chronicle.fresh { cycle } rfl).play moves readable

end FlowGate.Sampler
