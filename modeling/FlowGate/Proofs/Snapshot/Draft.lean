/-
# Settings of a filter

A filter is drafted by settings in any order and number, and checked only when it is built. Of
several settings that say something about a field the last one holds: `lastOf` reads this off the
list of settings, and it is proved for all fields at once. What makes it more than bookkeeping is
that a window and a period are not set directly. Setting one of them converts the other to a span
and back, any number of times; so that a field which nobody touched keeps its value, at any length,
rests on the way through a span losing nothing.
-/

import FlowGate.Proofs.Sampler.Build
import FlowGate.Snapshot.Filter

namespace FlowGate.Snapshot

open Config (Cycle ConfigError)
open Time (Duration)

namespace Setting

/-- The window that a setting gives, in milliseconds. Of a span the whole milliseconds count, as
many as fit into a word. -/
def window? : Setting → Option Nat
  | .window span => some (min (span.nanoseconds / 1000000) (UInt64.size - 1))
  | .cycle given => some given.window.toNat
  | _ => none

/-- The period that a setting gives, in milliseconds, counted like a window. -/
def period? : Setting → Option Nat
  | .period span => some (min (span.nanoseconds / 1000000) (UInt64.size - 1))
  | .cycle given => some given.period.toNat
  | _ => none

/-- The exempt targets that a setting gives. -/
def exempt? : Setting → Option (List String)
  | .exempt targets => some targets
  | _ => none

/-- The clock that a setting gives, in place of the wall clock. -/
def clock? : Setting → Option (Option Nat)
  | .clock number => some (some number)
  | _ => none

end Setting

/-- What the last of the settings gives that gives something for a field, or the standard if none
does. -/
def lastOf {Value : Type} (field : Setting → Option Value) (standard : Value)
    (settings : List Setting) : Value :=
  (settings.filterMap field).getLastD standard

theorem lastOf_cons {Value : Type} (field : Setting → Option Value) (standard : Value)
    (setting : Setting) (settings : List Setting) :
    lastOf field standard (setting :: settings) =
      lastOf field ((field setting).getD standard) settings := by
  cases given : field setting with
  | none => rw [lastOf, List.filterMap_cons_none given, Option.getD_none, lastOf]
  | some value =>
      rw [lastOf, List.filterMap_cons_some given, List.getLastD_cons, Option.getD_some, lastOf]

namespace Draft

variable {draft : Draft}

/-- A view of a draft that every setting either replaces or leaves alone shows what the last setting
said that replaced it. -/
theorem view_foldl_apply {Value : Type} (view : Draft → Value) {field : Setting → Option Value}
    (follows : ∀ draft setting, view (draft.apply setting) = (field setting).getD (view draft))
    (settings : List Setting) (draft : Draft) :
    view (settings.foldl Draft.apply draft) = lastOf field (view draft) settings := by
  induction settings generalizing draft with
  | nil => rfl
  | cons setting settings ih => rw [List.foldl_cons, ih, follows, lastOf_cons]

theorem apply_window (span : Duration) :
    draft.apply (.window span) =
      { draft with cycle := ⟨span.millis, draft.cycle.period⟩ } := by
  rw [apply, Cycle.ofDurations, Duration.millis_ofMillis]

theorem apply_period (span : Duration) :
    draft.apply (.period span) =
      { draft with cycle := ⟨draft.cycle.window, span.millis⟩ } := by
  rw [apply, Cycle.ofDurations, Duration.millis_ofMillis]

theorem window_apply (draft : Draft) (setting : Setting) :
    (draft.apply setting).cycle.window.toNat =
      setting.window?.getD draft.cycle.window.toNat := by
  cases setting with
  | window span =>
      rw [apply_window, Setting.window?, Option.getD_some]
      exact span.toNat_millis_eq_min
  | period span =>
      rw [apply_period]
      rfl
  | cycle cycle => rfl
  | exempt targets => rfl
  | clock clock => rfl

theorem period_apply (draft : Draft) (setting : Setting) :
    (draft.apply setting).cycle.period.toNat =
      setting.period?.getD draft.cycle.period.toNat := by
  cases setting with
  | window span =>
      rw [apply_window]
      rfl
  | period span =>
      rw [apply_period, Setting.period?, Option.getD_some]
      exact span.toNat_millis_eq_min
  | cycle cycle => rfl
  | exempt targets => rfl
  | clock clock => rfl

theorem exempt_apply (draft : Draft) (setting : Setting) :
    (draft.apply setting).exempt = setting.exempt?.getD draft.exempt := by
  cases setting <;> rfl

theorem clock_apply (draft : Draft) (setting : Setting) :
    (draft.apply setting).clock = setting.clock?.getD draft.clock := by
  cases setting <;> rfl

theorem build_eq_ok_iff (draft : Draft) (filter : Filter) :
    draft.build = .ok filter ↔
      draft.cycle.Acceptable ∧
        filter = ⟨{ cycle := draft.cycle }, draft.exempt, draft.clock⟩ := by
  constructor
  · intro built
    cases sampled : Sampler.build draft.cycle with
    | error refusal =>
        rw [build, sampled] at built
        cases built
    | ok sampler =>
        rw [build, sampled] at built
        obtain ⟨acceptable, rfl⟩ := (Sampler.build_eq_ok_iff draft.cycle sampler).mp sampled
        cases built
        exact ⟨acceptable, rfl⟩
  · rintro ⟨acceptable, rfl⟩
    rw [build, (Sampler.build_eq_ok_iff draft.cycle _).mpr ⟨acceptable, rfl⟩]
    rfl

theorem build_eq_error_iff (draft : Draft) (refusal : ConfigError) :
    draft.build = .error refusal ↔ draft.cycle.Refused refusal := by
  rw [← Sampler.build_eq_error_iff, build]
  exact bind_pure_eq_error_iff

end Draft

/-- Whatever settings make a draft, in any order: its window, its period, its exempt targets and its
clock are those of the last setting that gave them, or the standard ones. Setting the window leaves
the period as it is and the other way round, so the two commute. The draft makes a filter exactly if
there is a window and it is shorter than the period, and hands on to it the cycle, the exempt
targets and the clock. Otherwise it is refused for an empty window first, then for an empty period,
and then for the two of them together. -/
theorem last_setting_of_a_kind_holds (settings : List Setting) :
    let draft := Draft.ofSettings settings
    draft.cycle.window.toNat = lastOf Setting.window? 1000 settings ∧
    draft.cycle.period.toNat = lastOf Setting.period? 60000 settings ∧
    (∀ span, (draft.apply (.window span)).cycle.period = draft.cycle.period ∧
      (draft.apply (.period span)).cycle.window = draft.cycle.window) ∧
    (∀ window period, (draft.apply (.window window)).apply (.period period) =
      (draft.apply (.period period)).apply (.window window)) ∧
    (∀ filter, draft.build = .ok filter ↔
      (0 < draft.cycle.window ∧ draft.cycle.window < draft.cycle.period) ∧
        filter =
          { sampler := { cycle := draft.cycle }
            exempt := lastOf Setting.exempt? [] settings
            clock := lastOf Setting.clock? none settings }) ∧
    ∀ refusal, draft.build = .error refusal ↔ draft.cycle.Refused refusal := by
  intro draft
  have window := Draft.view_foldl_apply (·.cycle.window.toNat) Draft.window_apply settings {}
  have period := Draft.view_foldl_apply (·.cycle.period.toNat) Draft.period_apply settings {}
  have exempt := Draft.view_foldl_apply (·.exempt) Draft.exempt_apply settings {}
  have clock := Draft.view_foldl_apply (·.clock) Draft.clock_apply settings {}
  refine ⟨window, period, fun span => ⟨?_, ?_⟩, fun window period => ?_, fun filter => ?_,
    draft.build_eq_error_iff⟩
  · rw [Draft.apply_window]
  · rw [Draft.apply_period]
  · rw [Draft.apply_window, Draft.apply_period, Draft.apply_period, Draft.apply_window]
  · rw [← exempt, ← clock]
    exact draft.build_eq_ok_iff filter

/-- The longest period there is survives the setting of a window. -/
example :
    (Draft.ofSettings [.cycle ⟨5, Word.top⟩, .window ⟨0, 1999999, by decide⟩]).cycle =
      ⟨1, Word.top⟩ := by
  decide +kernel

end FlowGate.Snapshot
