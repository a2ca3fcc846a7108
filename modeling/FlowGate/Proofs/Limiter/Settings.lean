/-
# Which settings make a limiter

Settings come in two forms, single tiers and whole lists, in any mixture. All that a limiter takes
from them is the list of rules that they name, in order: two rows of settings that name the same
rules are interchangeable, also in what they are refused for. Without any rule they are refused as
such. Otherwise the first rule that breaks a condition decides, and of a rule that breaks both
conditions the quota is reported.

`Lists` says which rules settings name, with every period computed from nanoseconds. Only whole
milliseconds count, so a rule can break its condition although its period is not empty.
-/

import FlowGate.Proofs.Limiter.Build

namespace FlowGate

open Config (Rule ConfigError)

namespace Config.Rule

/-- What a rule at a place of a list is refused for, if it is. The period is looked at only if the
quota is good. -/
inductive Breaks (rule : Rule) (place : Nat) : ConfigError → Prop
  | quota (noQuota : rule.quota = 0) : Breaks rule place (.zeroQuota place)
  | period (quota : rule.quota ≠ 0) (noPeriod : rule.period = 0) :
      Breaks rule place (.zeroTierPeriod place)

/-- What a list of rules is refused for: that there is none, or what the first of them is refused
for that cannot be enforced. -/
inductive Refused (rules : List Rule) : ConfigError → Prop
  | empty (none : rules = []) : Refused rules .noTiers
  | first {place rule refusal} (here : rules[place]? = some rule)
      (before : ∀ earlier ∈ rules.take place, earlier.Enforceable)
      (breaks : rule.Breaks place refusal) : Refused rules refusal

variable {rule : Rule} {rules : List Rule} {refusal : ConfigError}

theorem check_eq_error_iff (place : Nat) :
    rule.check place = .error refusal ↔ rule.Breaks place refusal := by
  rw [check]
  constructor
  · intro refused
    by_cases noQuota : rule.quota = 0
    · rw [if_pos noQuota] at refused
      cases refused
      exact .quota noQuota
    · rw [if_neg noQuota] at refused
      by_cases noPeriod : rule.period = 0
      · rw [if_pos noPeriod] at refused
        cases refused
        exact .period noQuota noPeriod
      · rw [if_neg noPeriod] at refused
        cases refused
  · rintro (noQuota | ⟨quota, noPeriod⟩)
    · rw [if_pos noQuota]
    · rw [if_neg quota, if_pos noPeriod]

theorem Breaks.not_enforceable {place : Nat} (breaks : rule.Breaks place refusal) :
    ¬ rule.Enforceable := by
  rw [← check_eq_ok_iff rule place, (check_eq_error_iff place).mpr breaks]
  exact fun equal => nomatch equal

/-- Looking at rules in order finds the first one that cannot be enforced. -/
theorem checkFrom_eq_error_iff (tier : Nat) :
    checkFrom tier rules = .error refusal ↔
      ∃ place rule, rules[place]? = some rule ∧
        (∀ earlier ∈ rules.take place, earlier.Enforceable) ∧
        rule.Breaks (tier + place) refusal := by
  induction rules generalizing tier with
  | nil => simp [checkFrom]
  | cons head rules ih =>
      by_cases good : head.Enforceable
      · -- The search goes on behind the head, and so does every place that it can find.
        have passed := (check_eq_ok_iff head tier).mpr good
        have onward : checkFrom tier (head :: rules) = checkFrom (tier + 1) rules := by
          rw [checkFrom, passed]
          rfl
        rw [onward, ih]
        constructor
        · rintro ⟨place, rule, here, before, breaks⟩
          rw [Nat.add_right_comm] at breaks
          exact ⟨place + 1, rule, here, List.forall_mem_cons.mpr ⟨good, before⟩, breaks⟩
        · rintro ⟨place, rule, here, before, breaks⟩
          cases place with
          | zero =>
              cases here
              exact absurd good breaks.not_enforceable
          | succ place =>
              refine ⟨place, rule, here, (List.forall_mem_cons.mp before).2, ?_⟩
              rwa [Nat.add_right_comm]
      · cases checked : head.check tier with
        | ok _ => exact absurd ((check_eq_ok_iff head tier).mp checked) good
        | error fault =>
            have stops : checkFrom tier (head :: rules) = .error fault := by
              rw [checkFrom, checked]
              rfl
            have breaks := (check_eq_error_iff tier).mp checked
            rw [stops]
            constructor
            · intro same
              cases same
              exact ⟨0, head, rfl, by simp, breaks⟩
            · rintro ⟨place, rule, here, before, breaks⟩
              cases place with
              | zero =>
                  cases here
                  rw [← stops, checkFrom, (check_eq_error_iff tier).mpr breaks]
                  rfl
              | succ place => exact absurd (before head List.mem_cons_self) good

theorem checkAll_eq_error_iff : checkAll rules = .error refusal ↔ Refused rules refusal := by
  rw [checkAll]
  by_cases none : rules = []
  · rw [if_pos (List.isEmpty_iff.mpr none)]
    constructor
    · intro refused
      cases refused
      exact .empty none
    · rintro (_ | @⟨place, rule, _, here, _, _⟩)
      · rfl
      · rw [none] at here
        cases here
  · rw [if_neg (mt List.isEmpty_iff.mp none), checkFrom_eq_error_iff]
    simp only [Nat.zero_add]
    constructor
    · rintro ⟨place, rule, here, before, breaks⟩
      exact .first here before breaks
    · rintro (empty | @⟨place, rule, _, here, before, breaks⟩)
      · exact absurd empty none
      · exact ⟨place, rule, here, before, breaks⟩

end Config.Rule

namespace Limiter

/-- The rules that settings name, in order. Of a period given as a span the whole milliseconds
count, as many as fit into a word. -/
inductive Lists : List Setting → List Rule → Prop
  | nil : Lists [] []
  | tier {quota period span settings rules}
      (whole : period.toNat = min (span.nanoseconds / 1000000) (UInt64.size - 1))
      (rest : Lists settings rules) :
      Lists (.tier quota span :: settings) (⟨quota, period⟩ :: rules)
  | list {given settings rules} (rest : Lists settings rules) :
      Lists (.list given :: settings) (given ++ rules)

theorem lists_iff {settings : List Setting} {rules : List Rule} :
    Lists settings rules ↔ rules = rulesOf settings := by
  constructor
  · intro lists
    induction lists with
    | nil => rfl
    | @tier quota period span settings rules whole rest ih =>
        rw [← span.toNat_millis_eq_min, UInt64.toNat_inj] at whole
        rw [whole, ih]
        rfl
    | list rest ih =>
        rw [ih]
        rfl
  · rintro rfl
    induction settings with
    | nil => exact .nil
    | cons setting settings ih =>
        cases setting with
        | tier quota span => exact .tier span.toNat_millis_eq_min ih
        | list given => exact .list ih

theorem build_eq_error_iff (settings : List Setting) (now : UInt64) (refusal : ConfigError) :
    build settings now = .error refusal ↔ Rule.Refused (rulesOf settings) refusal := by
  rw [← Rule.checkAll_eq_error_iff, build]
  exact bind_pure_eq_error_iff

/-- Of settings only the rules that they name matter. -/
theorem build_eq_of_rulesOf_eq {settings others : List Setting}
    (same : rulesOf others = rulesOf settings) (now : UInt64) :
    build others now = build settings now :=
  congrArg (fun rules => Rule.checkAll rules >>= fun _ => pure (ofRules rules now)) same

/-- Settings name exactly one list of rules. A limiter is built from them exactly if there is a rule
and every rule can be enforced, and then it has a fresh tier for each rule, in order, whose window
starts at the moment of building. Otherwise the settings are refused, for having no rule or for what
the first rule breaks that cannot be enforced. Other settings that name the same rules have the same
outcome. -/
theorem build_answers_for_listed_rules (settings : List Setting) (now : UInt64) :
    ∃ rules, (∀ listed, Lists settings listed ↔ listed = rules) ∧
      (∀ limiter, build settings now = .ok limiter ↔
        (rules ≠ [] ∧ ∀ rule ∈ rules, rule.quota ≠ 0 ∧ rule.period ≠ 0) ∧
          limiter = { tiers := rules.map fun rule => ⟨rule, 0, now⟩ }) ∧
      (∀ refusal, build settings now = .error refusal ↔ Rule.Refused rules refusal) ∧
      ∀ others, Lists others rules → build others now = build settings now := by
  refine ⟨rulesOf settings, fun listed => lists_iff, build_eq_ok_iff settings now,
    build_eq_error_iff settings now, fun others lists => ?_⟩
  have same : rulesOf settings = rulesOf others := lists_iff.mp lists
  exact build_eq_of_rulesOf_eq same.symm now

/-- The place of a rule is counted over all settings, and of the two conditions that this rule
breaks the quota is reported. -/
example :
    build [.list [⟨5, 1000⟩, ⟨2, 60000⟩], .tier 0 ⟨0, 999999, by decide⟩, .tier 0 (.ofMillis 1)] 0 =
      .error (.zeroQuota 2) := by
  rfl

end Limiter

end FlowGate
