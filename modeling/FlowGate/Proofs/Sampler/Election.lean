/-
# Who opens a window

Several callers can find the same window due. The first of them to act moves the start, and since
the starts of windows grow strictly, the start that the others saw never comes back: each start has
exactly one winner, however late the others act and whatever their clocks show.
-/

import FlowGate.Proofs.Sampler.Succession
import Mathlib.Data.List.Nodup

namespace FlowGate.Sampler

open Config (Cycle)

/-- The windows that were opened from a given start. -/
def winners (cycle : Cycle) (start : UInt64) (past : List Settlement) : Nat :=
  past.countP fun settlement =>
    settlement.opens cycle && settlement.sighting.start == start

theorem count_leftStarts (cycle : Cycle) (start : UInt64) (past : List Settlement) :
    (leftStarts cycle past).count start.toNat = winners cycle start past := by
  rw [leftStarts, openings, List.count_eq_countP, List.countP_map, List.countP_filter, winners]
  congr 1
  funext settlement
  rw [Bool.and_comm]
  congr 1
  rw [Bool.eq_iff_iff, Function.comp_apply, beq_iff_eq, beq_iff_eq, UInt64.toNat_inj]

namespace Chronicle

variable {cycle : Cycle} {contest : Contest} {past : List Settlement}

/-- No start is left twice. -/
theorem nodup_leftStarts (chronicle : Chronicle cycle contest past)
    (positive : 0 < cycle.period.toNat) : (leftStarts cycle past).Nodup := by
  have distinct : (starts cycle past).Nodup := by
    apply chronicle.spaced.imp
    intro earlier later apart equal
    omega
  rw [← chronicle.linked] at distinct
  exact distinct.of_append_left

/-- Once somebody has tried to open a window from a start, exactly one window has been opened from
there. -/
theorem winners_eq_one (chronicle : Chronicle cycle contest past)
    (positive : 0 < cycle.period.toNat) {settlement : Settlement} (listed : settlement ∈ past)
    (tries : settlement.attempts cycle = true) :
    winners cycle settlement.sighting.start past = 1 := by
  rw [← count_leftStarts]
  exact List.count_eq_one_of_mem (chronicle.nodup_leftStarts positive)
    (chronicle.contested settlement listed tries)

/-- A window starts at least a period after the one from which it was opened. -/
theorem before_add_period_le (chronicle : Chronicle cycle contest past)
    {settlement : Settlement} (listed : settlement ∈ past)
    (opens : settlement.opens cycle = true) :
    settlement.before.toNat + cycle.period.toNat ≤ settlement.after.toNat := by
  obtain ⟨attempts, current⟩ := Settlement.opens_iff.mp opens
  have known := chronicle.seen _
    (List.mem_append_right _ (List.mem_map_of_mem listed))
  rw [((chronicle.sound settlement listed).of_opens opens).2, current]
  exact period_le_of_eligible known.1 (Settlement.attempts_iff.mp attempts)

/-- The start changes exactly when a window is opened. -/
theorem opens_iff_after_ne (chronicle : Chronicle cycle contest past)
    (positive : 0 < cycle.period.toNat) {settlement : Settlement} (listed : settlement ∈ past) :
    settlement.opens cycle = true ↔ settlement.after ≠ settlement.before := by
  constructor
  · intro opens same
    have later := chronicle.before_add_period_le listed opens
    rw [same] at later
    omega
  · intro moved
    by_contra fails
    exact moved ((chronicle.sound settlement listed).of_not_opens fails)

end Chronicle

/-- In every run of a sampler that was built in which no clock shows the largest word, the start
in force never decreases; it changes exactly when a window is opened, and whoever opens one passes
and moves the start to its own reading, by at least a period; once a caller has tried to open a
window from a start, exactly one has succeeded from there, and every other one that tries is
suppressed and leaves the start alone; and the windows that were opened took a period each. -/
theorem one_winner_per_start {cycle : Cycle} {sampler : Sampler}
    (built : build cycle = .ok sampler) (moves : List Move)
    (readable : ∀ now, Move.sight now ∈ moves → now < Word.top) :
    let past := (Contest.play { sampler } moves).2
    let last := (Contest.play { sampler } moves).1.sampler.lastStart
    (∀ early, early <+: moves →
      (Contest.play { sampler } early).1.sampler.lastStart ≤ last) ∧
    (∀ settlement ∈ past,
      settlement.opens cycle = true ↔ settlement.after ≠ settlement.before) ∧
    (∀ settlement ∈ past, settlement.opens cycle = true →
      settlement.decision = .pass ∧ settlement.after = settlement.sighting.now ∧
        settlement.before.toNat + cycle.period.toNat ≤ settlement.after.toNat) ∧
    (∀ start, (∃ settlement ∈ past,
        settlement.attempts cycle = true ∧ settlement.sighting.start = start) →
      winners cycle start past = 1 ∧
      ∀ settlement ∈ past, settlement.attempts cycle = true →
        settlement.sighting.start = start → ¬ settlement.opens cycle = true →
        settlement.decision = .suppress ∧ settlement.after = settlement.before) ∧
    past.countP (·.opens cycle) * cycle.period.toNat ≤ last.toNat := by
  intro past last
  have chronicle : Chronicle cycle _ past := chronicle_of_build built moves readable
  have positive := ((build_eq_ok_iff _ _).mp built).1.period_pos
  refine ⟨?_, ?_, ?_, ?_, ?_⟩
  · rintro early ⟨rest, rfl⟩
    have first := chronicle_of_build built early fun now listed =>
      readable now (List.mem_append_left _ listed)
    have next := first.play rest fun now listed =>
      readable now (List.mem_append_right _ listed)
    rw [UInt64.le_iff_toNat_le]
    simpa only [last, Contest.play_append] using first.lastStart_le next
  · intro settlement listed
    exact chronicle.opens_iff_after_ne positive listed
  · intro settlement listed opens
    obtain ⟨passes, starts⟩ := (chronicle.sound settlement listed).of_opens opens
    exact ⟨passes, starts, chronicle.before_add_period_le listed opens⟩
  · rintro start ⟨settlement, listed, tries, rfl⟩
    refine ⟨chronicle.winners_eq_one positive listed tries, ?_⟩
    intro other there attempts _ fails
    exact (chronicle.sound other there).of_attempts attempts fails
  · rw [List.countP_eq_length_filter]
    exact chronicle.paced

/-- Three callers see the start at zero. The one whose clock shows 1500 acts first and wins, the one
at 1200 comes late and so does the one at 9000, which acts after another window was opened. -/
def lateCallers : List Move :=
  [.sight 1500, .sight 1200, .sight 9000, .settle 0, .settle 0, .sight 2600, .settle 1, .settle 0]

/-- Four callers try to open a window, and two windows are opened: one from zero, by one of the
three that saw it, and one from 1500. -/
theorem one_winner_lateCallers :
    let cycle : Cycle := ⟨100, 1000⟩
    let sampler : Sampler := { cycle }
    let past := (Contest.play { sampler } lateCallers).2
    let last := (Contest.play { sampler } lateCallers).1.sampler.lastStart
    build cycle = .ok sampler ∧
      (∀ now, Move.sight now ∈ lateCallers → now < Word.top) ∧
      past.countP (·.attempts cycle) = 4 ∧ last = 2600 ∧
      winners cycle 0 past = 1 ∧ winners cycle 1500 past = 1 ∧
      past.countP (·.opens cycle) * cycle.period.toNat ≤ last.toNat := by
  intro cycle sampler past last
  have built : build cycle = .ok sampler := rfl
  have readable : ∀ now, Move.sight now ∈ lateCallers → now < Word.top := by
    simp only [lateCallers, List.mem_cons, Move.sight.injEq, reduceCtorEq, List.not_mem_nil,
      false_or, or_false]
    rintro now (rfl | rfl | rfl | rfl) <;> decide
  obtain ⟨-, -, -, elected, paced⟩ := one_winner_per_start built lateCallers readable
  refine ⟨built, readable, by decide +kernel, by decide +kernel, (elected 0 ?_).1,
    (elected 1500 ?_).1, paced⟩ <;> decide +kernel

end FlowGate.Sampler
