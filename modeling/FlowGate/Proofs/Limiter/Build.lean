/-
# What building a limiter answers

A limiter is built exactly when there is a rule and every rule allows something and lasts at least
a millisecond. It then holds one fresh tier for each rule, in order. Every later fact about a
limiter that somebody built starts from here.
-/

import FlowGate.Limiter.Basic

namespace FlowGate

namespace Config.Rule

/-- A rule that a limiter can enforce: it allows something and lasts at least a millisecond. -/
def Enforceable (rule : Rule) : Prop := rule.quota ≠ 0 ∧ rule.period ≠ 0

theorem Enforceable.quota_pos {rule : Rule} (enforceable : rule.Enforceable) :
    0 < rule.quota.toNat :=
  Nat.pos_of_ne_zero fun zero => enforceable.1 (UInt64.toNat_inj.mp zero)

theorem Enforceable.period_pos {rule : Rule} (enforceable : rule.Enforceable) :
    0 < rule.period.toNat :=
  Nat.pos_of_ne_zero fun zero => enforceable.2 (UInt64.toNat_inj.mp zero)

theorem check_eq_ok_iff (rule : Rule) (tier : Nat) :
    rule.check tier = .ok () ↔ rule.Enforceable := by
  rw [check, Enforceable]
  by_cases noQuota : rule.quota = 0
  · simp [noQuota]
  · by_cases noPeriod : rule.period = 0 <;> simp [noQuota, noPeriod]

theorem checkFrom_eq_ok_iff (rules : List Rule) (tier : Nat) :
    checkFrom tier rules = .ok () ↔ ∀ rule ∈ rules, rule.Enforceable := by
  induction rules generalizing tier with
  | nil => simp [checkFrom]
  | cons rule rules ih =>
      rw [List.forall_mem_cons, ← check_eq_ok_iff rule tier, ← ih (tier + 1), checkFrom]
      cases rule.check tier with
      | error fault =>
          constructor
          · intro passed
            cases passed
          · rintro ⟨passed, -⟩
            cases passed
      | ok _ => exact ⟨fun rest => ⟨rfl, rest⟩, And.right⟩

theorem checkAll_eq_ok_iff (rules : List Rule) :
    checkAll rules = .ok () ↔ rules ≠ [] ∧ ∀ rule ∈ rules, rule.Enforceable := by
  cases rules with
  | nil => simp [checkAll]
  | cons rule rules =>
      rw [← checkFrom_eq_ok_iff _ 0]
      simp [checkAll]

end Config.Rule

namespace Limiter

open Config (Rule)

/-- The rules of all settings, in the order in which they were given. -/
def rulesOf (settings : List Setting) : List Rule := settings.flatMap Setting.toRules

theorem build_eq_ok_iff (settings : List Setting) (now : UInt64) (limiter : Limiter) :
    build settings now = .ok limiter ↔
      (rulesOf settings ≠ [] ∧ ∀ rule ∈ rulesOf settings, rule.Enforceable) ∧
        limiter = ofRules (rulesOf settings) now := by
  rw [← Rule.checkAll_eq_ok_iff]
  show (Rule.checkAll (rulesOf settings) >>= fun _ =>
    pure (ofRules (rulesOf settings) now)) = .ok limiter ↔ _
  cases Rule.checkAll (rulesOf settings) with
  | error fault =>
      constructor
      · intro built
        cases built
      · rintro ⟨passed, -⟩
        cases passed
  | ok _ =>
      constructor
      · intro built
        cases built
        exact ⟨rfl, rfl⟩
      · rintro ⟨-, rfl⟩
        rfl

theorem rules_ofRules (rules : List Rule) (now : UInt64) : (ofRules rules now).rules = rules := by
  simp [Limiter.rules, ofRules, Tier.create, Function.comp_def]

/-- All rules of a limiter that was built can be enforced. -/
theorem enforceable_of_build {settings : List Setting} {now : UInt64} {limiter : Limiter}
    (built : build settings now = .ok limiter) : ∀ rule ∈ limiter.rules, rule.Enforceable := by
  obtain ⟨⟨-, enforceable⟩, rfl⟩ := (build_eq_ok_iff settings now limiter).mp built
  rwa [rules_ofRules]

/-- A tier of a limiter that was just built is fresh, and its rule can be enforced. -/
theorem tier_of_build {settings : List Setting} {now : UInt64} {limiter : Limiter}
    (built : build settings now = .ok limiter) {place : Nat} {rule : Rule}
    (listed : limiter.rules[place]? = some rule) :
    limiter.tiers[place]? = some (Tier.create rule now) ∧ rule.Enforceable := by
  obtain ⟨⟨-, enforceable⟩, rfl⟩ := (build_eq_ok_iff settings now limiter).mp built
  rw [rules_ofRules] at listed
  refine ⟨?_, enforceable rule (List.mem_of_getElem? listed)⟩
  simp [ofRules, listed]

end Limiter

end FlowGate
