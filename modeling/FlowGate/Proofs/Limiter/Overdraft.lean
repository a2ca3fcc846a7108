/-
# How far a tier can be overdrawn

A count can exceed its quota, but only by units of callers that are waiting for room, or that were
waiting when their clock failed. Credits may release somebody else than the caller who made them,
and a failed call gives nothing back; neither takes a count further beyond the quota. So a tier is
within budget whenever nobody waits and nobody has been lost.

The bound needs no assumption on the clock or on the number of calls.
-/

import FlowGate.Proofs.Limiter.Books

namespace FlowGate.Limiter

open Config (Rule)

namespace Crowd

/-- The callers that are blocked on the tier at a place. -/
def blockedOn (crowd : Crowd) (place : Nat) : Nat :=
  crowd.calls.countP (·.progress == .underway (.blocked place))

/-- The callers whose call failed while it was blocked on the tier at a place. -/
def failedOn (crowd : Crowd) (place : Nat) : Nat :=
  crowd.calls.countP fun call =>
    match call.progress with
    | .failed stage _ => stage == .blocked place
    | _ => false

/-- A tier holds the callers that are blocked on it and those that failed there. -/
theorem heldBy_eq (crowd : Crowd) (place : Nat) :
    crowd.heldBy place = crowd.blockedOn place + crowd.failedOn place := by
  obtain ⟨limiter, calls⟩ := crowd
  induction calls with
  | nil => rfl
  | cons call calls ih =>
      simp only [heldBy, blockedOn, failedOn, List.countP_cons] at ih ⊢
      rw [ih]
      cases standing : call.progress with
      | returned delay => simp [Call.heldBy, standing]
      | underway stage =>
          cases stage <;> simp [Call.heldBy, standing]
          omega
      | failed stage cause =>
          cases stage <;> simp [Call.heldBy, standing]
          omega

/-- If every call has returned, nobody is held. -/
theorem heldBy_eq_zero {crowd : Crowd}
    (returned : ∀ call ∈ crowd.calls, ∃ delay, call.progress = .returned delay) (place : Nat) :
    crowd.heldBy place = 0 := by
  rw [heldBy, List.countP_eq_zero]
  intro call listed
  obtain ⟨delay, done⟩ := returned call listed
  simp [Call.heldBy, done]

end Crowd

/-- In every state that a limiter can reach from where it was built, no tier is overdrawn by more
than the callers that are blocked on it and those that failed there; in particular, none is
overdrawn once every call has returned. -/
theorem count_le_quota_add_blockedOn_add_failedOn {settings : List Setting} {start : UInt64}
    {limiter : Limiter} (built : build settings start = .ok limiter) (moves : List Move) :
    let crowd := (Crowd.play { limiter } moves).1
    (∀ place rule, limiter.rules[place]? = some rule →
      ∃ tier, crowd.limiter.tiers[place]? = some tier ∧ tier.rule = rule ∧
        tier.count.toNat ≤ rule.quota.toNat + crowd.blockedOn place + crowd.failedOn place) ∧
    ((∀ call ∈ crowd.calls, ∃ delay, call.progress = .returned delay) →
      ∀ tier ∈ crowd.limiter.tiers, tier.overBudget = false) := by
  intro crowd
  constructor
  · intro place rule listed
    obtain ⟨tier, here, books⟩ := books_of_build built moves listed
    refine ⟨tier, here, books.rule_eq, ?_⟩
    rw [Nat.add_assoc, ← Crowd.heldBy_eq]
    exact books.overdraft
  · intro returned tier listed
    obtain ⟨place, here⟩ := List.mem_iff_getElem?.mp listed
    have known : limiter.rules[place]? = some tier.rule := by
      rw [← Crowd.rules_play moves { limiter }, Limiter.rules, List.getElem?_map]
      exact congrArg (Option.map Tier.rule) here
    obtain ⟨tier', here', books⟩ := books_of_build built moves known
    obtain rfl : tier = tier' := Option.some.inj (here.symm.trans here')
    rw [Tier.overBudget_eq_false_iff]
    have overdraft := books.overdraft
    rwa [Crowd.heldBy_eq_zero returned, Nat.add_zero] at overdraft

/-- Three callers at a tier for one unit a second: one returns, and two are blocked. -/
def twoBlocked : List Move :=
  [.join, .join, .join, .step 0 (some 0), .step 0 (some 0), .step 0 none, .step 1 (some 0),
    .step 1 (some 0), .step 2 (some 0), .step 2 (some 0)]

/-- The two that were blocked are released by a single credit, and return. -/
def bothReturn : List Move :=
  [.step 1 (some 2500), .step 2 (some 2500), .step 1 (some 2500), .step 2 (some 2500)]

/-- The bound is reached with one caller blocked and another lost to its clock; if instead both
return, the tier ends within budget. -/
theorem count_twoBlocked :
    let rule : Rule := ⟨1, 1000⟩
    let limiter := ofRules [rule] 0
    let lost := (Crowd.play { limiter } (twoBlocked ++ [.step 2 none])).1
    let done := (Crowd.play { limiter } (twoBlocked ++ bothReturn)).1
    build [.list [rule]] 0 = .ok limiter ∧ limiter.rules[0]? = some rule ∧
      (lost.limiter.counts = [3] ∧ lost.blockedOn 0 = 1 ∧ lost.failedOn 0 = 1 ∧
        ∃ tier, lost.limiter.tiers[0]? = some tier ∧ tier.rule = rule ∧
          tier.count.toNat ≤ rule.quota.toNat + lost.blockedOn 0 + lost.failedOn 0) ∧
      (∀ call ∈ done.calls, ∃ delay, call.progress = .returned delay) ∧
      ∀ tier ∈ done.limiter.tiers, tier.overBudget = false := by
  intro rule limiter
  have built : build [.list [rule]] 0 = .ok limiter := rfl
  have listed : limiter.rules[0]? = some rule := rfl
  have lost : let crowd := (Crowd.play { limiter } (twoBlocked ++ [.step 2 none])).1
      crowd.limiter.counts = [3] ∧ crowd.blockedOn 0 = 1 ∧ crowd.failedOn 0 = 1 := by
    decide +kernel
  have ends : (Crowd.play { limiter } (twoBlocked ++ bothReturn)).1.calls.map Call.progress =
      [.returned 0, .returned 2500, .returned 2500] := by decide +kernel
  have returned : ∀ call ∈ (Crowd.play { limiter } (twoBlocked ++ bothReturn)).1.calls,
      ∃ delay, call.progress = .returned delay := by
    intro call there
    have known := List.mem_map_of_mem (f := Call.progress) there
    rw [ends] at known
    simp only [List.mem_cons, List.not_mem_nil, or_false] at known
    rcases known with known | known | known <;> exact ⟨_, known⟩
  -- From here on the limiter is not computed any more.
  clear_value limiter rule
  have lostBound := (count_le_quota_add_blockedOn_add_failedOn built
    (twoBlocked ++ [.step 2 none])).1 0 rule listed
  have doneBound := (count_le_quota_add_blockedOn_add_failedOn built
    (twoBlocked ++ bothReturn)).2 returned
  exact ⟨built, listed, ⟨lost.1, lost.2.1, lost.2.2, lostBound⟩, returned, doneBound⟩

end FlowGate.Limiter
