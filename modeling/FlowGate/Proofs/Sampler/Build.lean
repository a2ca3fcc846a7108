/-
# What building a sampler answers

A sampler is built exactly when its window lasts at least a millisecond and is strictly shorter
than the period. It starts with a window that began at zero, whatever the clock shows. A cycle that
fails in several ways is refused for the first of them.
-/

import FlowGate.Sampler.Basic

namespace FlowGate

open Config (Cycle ConfigError)

namespace Config.Cycle

/-- A cycle that a sampler can follow: there is a window, and it is shorter than the period. -/
def Acceptable (cycle : Cycle) : Prop := 0 < cycle.window ∧ cycle.window < cycle.period

theorem check_eq_ok_iff (cycle : Cycle) : cycle.check = .ok () ↔ cycle.Acceptable := by
  rw [check, Acceptable, UInt64.pos_iff_ne_zero, ← UInt64.not_le]
  by_cases noWindow : cycle.window = 0
  · simp [noWindow]
  · by_cases noPeriod : cycle.period = 0
    · simp [noWindow, noPeriod]
    · by_cases short : cycle.period ≤ cycle.window <;> simp [noWindow, noPeriod, short]

/-- What a cycle is refused for. The period is looked at only if there is a window, and the two are
compared only if there is a period. -/
inductive Refused (cycle : Cycle) : ConfigError → Prop
  | window (noWindow : cycle.window = 0) : Refused cycle .zeroWindow
  | period (window : cycle.window ≠ 0) (noPeriod : cycle.period = 0) : Refused cycle .zeroPeriod
  | order (window : cycle.window ≠ 0) (period : cycle.period ≠ 0)
      (long : cycle.period ≤ cycle.window) :
      Refused cycle (.windowNotShorter cycle.window cycle.period)

theorem check_eq_error_iff (cycle : Cycle) (refusal : ConfigError) :
    cycle.check = .error refusal ↔ cycle.Refused refusal := by
  rw [check]
  constructor
  · intro refused
    by_cases noWindow : cycle.window = 0
    · rw [if_pos noWindow] at refused
      cases refused
      exact .window noWindow
    · rw [if_neg noWindow] at refused
      by_cases noPeriod : cycle.period = 0
      · rw [if_pos noPeriod] at refused
        cases refused
        exact .period noWindow noPeriod
      · rw [if_neg noPeriod] at refused
        by_cases long : cycle.period ≤ cycle.window
        · rw [if_pos long] at refused
          cases refused
          exact .order noWindow noPeriod long
        · rw [if_neg long] at refused
          cases refused
  · rintro (noWindow | ⟨window, noPeriod⟩ | ⟨window, period, long⟩)
    · rw [if_pos noWindow]
    · rw [if_neg window, if_pos noPeriod]
    · rw [if_neg window, if_neg period, if_pos long]

variable {cycle : Cycle}

theorem Acceptable.window_pos (acceptable : cycle.Acceptable) : 0 < cycle.window.toNat :=
  UInt64.lt_iff_toNat_lt.mp acceptable.1

theorem Acceptable.window_lt_period (acceptable : cycle.Acceptable) :
    cycle.window.toNat < cycle.period.toNat :=
  UInt64.lt_iff_toNat_lt.mp acceptable.2

theorem Acceptable.period_pos (acceptable : cycle.Acceptable) : 0 < cycle.period.toNat :=
  Nat.lt_trans acceptable.window_pos acceptable.window_lt_period

end Config.Cycle

namespace Sampler

theorem build_eq_ok_iff (cycle : Cycle) (sampler : Sampler) :
    build cycle = .ok sampler ↔ cycle.Acceptable ∧ sampler = { cycle } := by
  rw [← Cycle.check_eq_ok_iff]
  constructor
  · intro built
    simp only [build, bind, Except.bind, pure, Except.pure] at built
    cases passed : cycle.check with
    | error fault => simp [passed] at built
    | ok _ => exact ⟨rfl, by simpa [passed] using built.symm⟩
  · rintro ⟨passed, rfl⟩
    simp [build, passed, bind, Except.bind, pure, Except.pure]

theorem build_eq_error_iff (cycle : Cycle) (refusal : ConfigError) :
    build cycle = .error refusal ↔ cycle.Refused refusal := by
  rw [← Cycle.check_eq_error_iff, build]
  exact bind_pure_eq_error_iff

end Sampler

end FlowGate
