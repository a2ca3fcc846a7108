/-
# Phases in numbers

The bounds of a window are held at the largest word. An instant that is itself below the largest
word cannot see this: for it a phase is what it would be among the natural numbers. At the largest
word every bound is reached, so a window that would not be due for long is due there.

Either way the phases that follow the start of a window come in one order, in which none of them
comes back.
-/

import FlowGate.Proofs.Sampler.Build
import FlowGate.Sampler.Phase
import Mathlib.Algebra.Ring.Nat

namespace FlowGate

open Config (Cycle)

namespace Word

theorem le_top (a : UInt64) : a ≤ top := UInt64.le_iff_toNat_le.mpr (toNat_le_top a)

theorem lt_top_iff (a : UInt64) : a < top ↔ a.toNat < 2 ^ 64 - 1 := by
  rw [UInt64.lt_iff_toNat_lt, toNat_top]
  omega

theorem eq_top_or_lt_top (a : UInt64) : a = top ∨ a < top := by
  rw [← UInt64.toNat_inj, UInt64.lt_iff_toNat_lt]
  exact Nat.eq_or_lt_of_le (toNat_le_top a)

/-- An instant below the largest word is past a saturated sum exactly if it is past the sum. -/
theorem addSat_le_iff {instant : UInt64} (below : instant < top) (a b : UInt64) :
    addSat a b ≤ instant ↔ a.toNat + b.toNat ≤ instant.toNat := by
  rw [lt_top_iff] at below
  rw [UInt64.le_iff_toNat_le, toNat_addSat, toNat_top]
  omega

theorem lt_addSat_iff {instant : UInt64} (below : instant < top) (a b : UInt64) :
    instant < addSat a b ↔ instant.toNat < a.toNat + b.toNat := by
  rw [← UInt64.not_le, addSat_le_iff below, Nat.not_le]

end Word

namespace Sampler

/-- The phase of an instant below the largest word, without any bound on sums. -/
theorem phaseAt_of_lt_top {now : UInt64} (below : now < Word.top) (cycle : Cycle)
    (start : UInt64) :
    phaseAt cycle start now =
      if start.toNat ≤ now.toNat ∧ now.toNat < start.toNat + cycle.window.toNat then .active
      else if start.toNat + cycle.period.toNat ≤ now.toNat then .eligible
      else .dormant := by
  simp only [phaseAt, Word.lt_addSat_iff below, Word.addSat_le_iff below, UInt64.le_iff_toNat_le]

theorem active_iff {now : UInt64} (below : now < Word.top) (cycle : Cycle) (start : UInt64) :
    phaseAt cycle start now = .active ↔
      start.toNat ≤ now.toNat ∧ now.toNat < start.toNat + cycle.window.toNat := by
  rw [phaseAt_of_lt_top below]
  split
  · next inside => exact iff_of_true rfl inside
  · next outside =>
    refine iff_of_false ?_ outside
    split <;> exact fun equal => nomatch equal

theorem period_le_of_eligible {cycle : Cycle} {start now : UInt64} (below : now < Word.top)
    (eligible : phaseAt cycle start now = .eligible) :
    start.toNat + cycle.period.toNat ≤ now.toNat := by
  rw [phaseAt_of_lt_top below] at eligible
  split at eligible
  · cases eligible
  · split at eligible
    · next late => exact late
    · cases eligible

/-- As the window is shorter than the period, it is over before another one is due. -/
theorem eligible_iff {cycle : Cycle} {now : UInt64} (acceptable : cycle.Acceptable)
    (below : now < Word.top) (start : UInt64) :
    phaseAt cycle start now = .eligible ↔ start.toNat + cycle.period.toNat ≤ now.toNat := by
  refine ⟨period_le_of_eligible below, fun due => ?_⟩
  have shorter := acceptable.window_lt_period
  rw [phaseAt_of_lt_top below, if_neg (by omega), if_pos due]

theorem dormant_iff {cycle : Cycle} {now : UInt64} (acceptable : cycle.Acceptable)
    (below : now < Word.top) (start : UInt64) :
    phaseAt cycle start now = .dormant ↔
      ¬ (start.toNat ≤ now.toNat ∧ now.toNat < start.toNat + cycle.window.toNat) ∧
        ¬ start.toNat + cycle.period.toNat ≤ now.toNat := by
  rw [← active_iff below, ← eligible_iff acceptable below]
  cases phaseAt cycle start now <;> decide

/-- An instant is inside a window that starts with it. -/
theorem phaseAt_self_of_lt_top {cycle : Cycle} {now : UInt64} (acceptable : cycle.Acceptable)
    (below : now < Word.top) : phaseAt cycle now now = .active := by
  rw [active_iff below]
  have := acceptable.window_pos
  omega

/-! ## The last instant -/

/-- At the last instant every window is over, and another one may be opened. -/
theorem phaseAt_top (cycle : Cycle) (start : UInt64) :
    phaseAt cycle start Word.top = .eligible := by
  have ended : ¬ Word.top < Word.addSat start cycle.window := UInt64.not_lt.mpr (Word.le_top _)
  rw [phaseAt, if_neg fun inside => ended inside.2, if_pos (Word.le_top _)]

/-! ## The order of phases -/

/-- The place of a phase among those that follow the start of a window. -/
def Phase.rank : Phase → Nat
  | .active => 0
  | .dormant => 1
  | .eligible => 2

theorem Phase.rank_le_eligible (phase : Phase) : phase.rank ≤ Phase.eligible.rank := by
  cases phase <;> decide

/-- From the start of a window on, later instants come in no earlier phase. -/
theorem rank_phaseAt_le {cycle : Cycle} {start earlier later : UInt64}
    (acceptable : cycle.Acceptable) (begun : start ≤ earlier) (order : earlier ≤ later) :
    (phaseAt cycle start earlier).rank ≤ (phaseAt cycle start later).rank := by
  rcases Word.eq_top_or_lt_top later with rfl | below
  · rw [phaseAt_top]
    exact Phase.rank_le_eligible _
  · have earlierBelow : earlier < Word.top := UInt64.lt_of_le_of_lt order below
    rw [UInt64.le_iff_toNat_le] at begun order
    cases phase : phaseAt cycle start later with
    | eligible => exact Phase.rank_le_eligible _
    | active =>
        have inside := (active_iff below cycle start).mp phase
        rw [(active_iff earlierBelow cycle start).mpr ⟨begun, by omega⟩]
    | dormant =>
        have notDue := ((dormant_iff acceptable below start).mp phase).2
        cases before : phaseAt cycle start earlier with
        | active => decide
        | dormant => decide
        | eligible =>
            have due := period_le_of_eligible earlierBelow before
            exact absurd (Nat.le_trans due order) notDue

/-- That bounds are held can be seen at the last instant alone. At every other one a phase is what
the numbers say; at the last one a window is due, whenever the previous one started. And from the
start of a window through the last instant the phases are active, dormant and eligible in this
order, with none that comes back. -/
theorem phases_held_only_at_top {cycle : Cycle} (acceptable : cycle.Acceptable) (start : UInt64) :
    (∀ now < Word.top,
      (phaseAt cycle start now = .active ↔
        start.toNat ≤ now.toNat ∧ now.toNat < start.toNat + cycle.window.toNat) ∧
      (phaseAt cycle start now = .eligible ↔
        start.toNat + cycle.period.toNat ≤ now.toNat) ∧
      (phaseAt cycle start now = .dormant ↔
        ¬ (start.toNat ≤ now.toNat ∧ now.toNat < start.toNat + cycle.window.toNat) ∧
          ¬ start.toNat + cycle.period.toNat ≤ now.toNat)) ∧
    phaseAt cycle start Word.top = .eligible ∧
    ∀ earlier later, start ≤ earlier → earlier ≤ later →
      (phaseAt cycle start earlier).rank ≤ (phaseAt cycle start later).rank := by
  refine ⟨fun now below => ⟨?_, ?_, ?_⟩, phaseAt_top cycle start, fun earlier later => ?_⟩
  · exact active_iff below cycle start
  · exact eligible_iff acceptable below start
  · exact dormant_iff acceptable below start
  · exact rank_phaseAt_le acceptable

/-- A window of five milliseconds out of a hundred that starts sixty before the last instant: the
period would reach beyond it, and yet another window is due at the last instant, though not at the
one before. -/
theorem phases_sixtyBeforeTop :
    let cycle : Cycle := ⟨5, 100⟩
    let start : UInt64 := Word.top - 60
    cycle.Acceptable ∧ Word.top.toNat < start.toNat + cycle.period.toNat ∧
      phaseAt cycle start (Word.top - 56) = .active ∧
      phaseAt cycle start (Word.top - 55) = .dormant ∧
      phaseAt cycle start (Word.top - 1) = .dormant ∧
      phaseAt cycle start Word.top = .eligible ∧
      (phaseAt cycle start (Word.top - 56)).rank ≤ (phaseAt cycle start (Word.top - 1)).rank := by
  intro cycle start
  have acceptable : cycle.Acceptable := by
    constructor <;> decide
  obtain ⟨exactly, last, ordered⟩ := phases_held_only_at_top acceptable start
  refine ⟨acceptable, by decide, (exactly (Word.top - 56) (by decide)).1.mpr (by decide),
    (exactly (Word.top - 55) (by decide)).2.2.mpr (by decide),
    (exactly (Word.top - 1) (by decide)).2.2.mpr (by decide), last,
    ordered _ _ (by decide) (by decide)⟩

end Sampler

end FlowGate
