/-
# Tiers changed in place

A credit answers the next tier, so it is by the form of the answer that a credit which fails leaves
the old tier. Here a tier is kept in one place and written to, a field at a time, in the order in
which a credit goes about it; what was written before a failure stays written. Even so, a credit
that fails leaves every field as it was. The share is computed before the first write and can be
refused for a period of zero only; the difference, computed between the writes, never passes zero.

In a history of entries it follows that the first credit which comes after the start of the window
fails, if the period is zero, and that nothing else ever does.
-/

import FlowGate.Proofs.Tier.Statement

namespace FlowGate.Tier

/-- A computation on a tier that is kept in one place. -/
abbrev InPlace := EStateM Fault Tier

namespace InPlace

variable {Answer : Type}

/-! ## Operations, write by write -/

/-- A result computed on words: the tier is not touched, whether there is one or not. -/
def compute : Except Fault Answer → InPlace Answer
  | .ok answer => pure answer
  | .error fault => throw fault

def writeCount (count : UInt64) : InPlace Unit := modify ({ · with count })

def writeWindowStart (windowStart : UInt64) : InPlace Unit := modify ({ · with windowStart })

/-- Consume one unit. -/
def charge : InPlace Unit := do
  let tier ← get
  writeCount (Word.addSat tier.count 1)

/-- Consume so many units, one by one. -/
def chargeTimes : Nat → InPlace Unit
  | 0 => pure ()
  | times + 1 => do
    charge
    chargeTimes times

/-- Give back what fell due by `now`. The window starts anew before the count is brought down. -/
def credit (now : UInt64) : InPlace UInt64 := do
  let tier ← get
  let elapsed := Word.subSat now tier.windowStart
  if elapsed ≤ tier.rule.period then pure 0
  else do
    let due ← compute (Word.share elapsed tier.rule.quota tier.rule.period)
    writeWindowStart now
    let credited := min due tier.count
    let remaining ← compute (Word.subChecked tier.count credited)
    writeCount remaining
    pure credited

/-- Make one entry; answers the units given back if the entry was a credit. -/
def enact : Entry → InPlace (Option UInt64)
  | .charge units => do
    chargeTimes units
    pure none
  | .credit now => do
    let credited ← credit now
    pure (some credited)

/-- Make entries in order, up to the first one that fails. -/
def enactAll : List Entry → InPlace Unit
  | [] => pure ()
  | entry :: entries => do
    let _ ← enact entry
    enactAll entries

/-! ## Agreement with the operations that answer the next tier -/

theorem run_chargeTimes (units : Nat) (tier : Tier) :
    (chargeTimes units).run tier = .ok () (tier.chargeTimes units) := by
  induction units generalizing tier with
  | zero => rfl
  | succ units ih => exact ih tier.charge

/-- In place, a credit does what it answers otherwise, and nothing at all if it fails. -/
theorem run_credit (now : UInt64) (tier : Tier) :
    (credit now).run tier =
      match tier.credit now with
      | .ok (units, next) => .ok units next
      | .error fault => .error fault tier := by
  simp only [credit, Tier.credit, EStateM.run_bind, EStateM.run_get]
  by_cases early : Word.subSat now tier.windowStart ≤ tier.rule.period
  · simp only [if_pos early, EStateM.run_pure]
  · simp only [if_neg early]
    cases Word.share (Word.subSat now tier.windowStart) tier.rule.quota tier.rule.period with
    | error fault => rfl
    | ok due =>
      simp only [Word.subChecked_min]
      rfl

theorem run_enact (entry : Entry) (tier : Tier) :
    (enact entry).run tier =
      match tier.post entry with
      | .ok posting => .ok posting.credited posting.tier
      | .error fault => .error fault tier := by
  cases entry with
  | charge units => simp only [enact, post, EStateM.run_bind, run_chargeTimes, EStateM.run_pure]
  | credit now =>
      simp only [enact, post, EStateM.run_bind, run_credit]
      cases tier.credit now with
      | ok credit => rfl
      | error fault => rfl

section Entries

variable {tier : Tier} {entry : Entry} {posting : Posting} {fault : Fault}

theorem run_enactAll_cons_of_ok (posted : tier.post entry = .ok posting) (entries : List Entry) :
    (enactAll (entry :: entries)).run tier = (enactAll entries).run posting.tier := by
  simp only [enactAll, EStateM.run_bind, run_enact, posted]

theorem run_enactAll_cons_of_error (failed : tier.post entry = .error fault)
    (entries : List Entry) : (enactAll (entry :: entries)).run tier = .error fault tier := by
  simp only [enactAll, EStateM.run_bind, run_enact, failed]

end Entries

/-- Entries made in place leave the tier with which their statement ends, and they fail if the
statement does, with its fault. -/
theorem run_enactAll (entries : List Entry) (tier : Tier) :
    (enactAll entries).run tier =
      match (tier.statement entries).2 with
      | none => .ok () (tier.closing entries)
      | some fault => .error fault (tier.closing entries) := by
  induction entries generalizing tier with
  | nil => rfl
  | cons entry entries ih =>
      cases posted : tier.post entry with
      | error fault =>
          rw [run_enactAll_cons_of_error posted, closing, statement, posted]
          rfl
      | ok posting =>
          rw [run_enactAll_cons_of_ok posted, ih, closing_cons_of_ok posted,
            statement_cons_of_ok posted]

end InPlace

/-! ## When entries fail -/

variable {tier : Tier}

/-- A credit fails exactly if the period is zero and the window started before. -/
theorem credit_eq_error_iff {now : UInt64} {fault : Fault} :
    tier.credit now = .error fault ↔
      fault = .divisionByZero ∧ tier.rule.period = 0 ∧ tier.windowStart < now := by
  constructor
  · intro failed
    have zero : tier.rule.period = 0 := by
      by_contra positive
      obtain ⟨units, next, credited⟩ := exists_credit_eq_ok now positive
      rw [credited] at failed
      cases failed
    rcases Nat.lt_or_ge tier.windowStart.toNat now.toNat with late | early
    · rw [credit_of_period_eq_zero zero late] at failed
      cases failed
      exact ⟨rfl, zero, UInt64.lt_iff_toNat_lt.mpr late⟩
    · rw [credit_of_le_period (by omega)] at failed
      cases failed
  · rintro ⟨rfl, zero, late⟩
    exact credit_of_period_eq_zero zero (UInt64.lt_iff_toNat_lt.mp late)

theorem post_credit_eq_error_iff {now : UInt64} {fault : Fault} :
    tier.post (.credit now) = .error fault ↔ tier.credit now = .error fault :=
  bind_pure_eq_error_iff

/-- Consuming units never fails. -/
theorem post_eq_error_iff {entry : Entry} {fault : Fault} :
    tier.post entry = .error fault ↔
      fault = .divisionByZero ∧ tier.rule.period = 0 ∧
        ∃ now, entry = .credit now ∧ tier.windowStart < now := by
  cases entry with
  | charge units => simp [post]
  | credit now => simp [post_credit_eq_error_iff, credit_eq_error_iff]

theorem post_rule {entry : Entry} {posting : Posting} (posted : tier.post entry = .ok posting) :
    posting.tier.rule = tier.rule := by
  cases entry with
  | charge units =>
      cases posted
      exact chargeTimes_rule tier units
  | credit now =>
      rw [post] at posted
      cases credited : tier.credit now with
      | error fault =>
          rw [credited] at posted
          cases posted
      | ok credit =>
          rw [credited] at posted
          cases posted
          exact credit_rule credited

namespace InPlace

/-- Entries fail at the first credit that comes after the start of the window, if the period is
zero; they leave the tier that this credit found. Nothing else makes them fail. -/
theorem run_enactAll_eq_error_iff {entries : List Entry} {fault : Fault} {left : Tier} :
    (enactAll entries).run tier = .error fault left ↔
      fault = .divisionByZero ∧ tier.rule.period = 0 ∧
        ∃ past now rest, entries = past ++ .credit now :: rest ∧
          (enactAll past).run tier = .ok () left ∧ left.windowStart < now := by
  induction entries generalizing tier with
  | nil =>
      constructor
      · intro failed
        cases failed
      · rintro ⟨-, -, past, now, rest, split, -⟩
        simp at split
  | cons entry entries ih =>
      cases posted : tier.post entry with
      | error found =>
          rw [run_enactAll_cons_of_error posted]
          obtain ⟨rfl, zero, now, rfl, late⟩ := post_eq_error_iff.mp posted
          constructor
          · intro same
            cases same
            exact ⟨rfl, zero, [], now, entries, rfl, rfl, late⟩
          · rintro ⟨rfl, -, past, now', rest, split, passed, -⟩
            cases past with
            | nil =>
                cases passed
                rfl
            | cons first past =>
                cases split
                rw [run_enactAll_cons_of_error posted] at passed
                cases passed
      | ok posting =>
          rw [run_enactAll_cons_of_ok posted, ih, post_rule posted]
          refine and_congr_right fun _ => and_congr_right fun zero => ?_
          constructor
          · rintro ⟨past, now, rest, rfl, passed, late⟩
            refine ⟨entry :: past, now, rest, rfl, ?_, late⟩
            rwa [run_enactAll_cons_of_ok posted]
          · rintro ⟨past, now, rest, split, passed, late⟩
            cases past with
            | nil =>
                cases split
                cases passed
                -- This credit is the first entry, and it has not failed.
                rw [post_eq_error_iff.mpr ⟨rfl, zero, now, rfl, late⟩] at posted
                cases posted
            | cons first past =>
                cases split
                rw [run_enactAll_cons_of_ok posted] at passed
                exact ⟨past, now, rest, rfl, passed, late⟩

end InPlace

end FlowGate.Tier
