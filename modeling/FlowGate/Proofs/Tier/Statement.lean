/-
# What the entries of a statement add up to

A tier may be charged and credited in any order and at any instants, also earlier ones than before.
Its count and the start of its window are moved by different rules, and yet they stay in step. Every
unit consumed is counted or was given back, and what was given back fell due while the window start
moved. It can be less than that for two reasons only: a credit is rounded down, which costs less
than a unit each time, and a credit that finds less counted than fell due forgets the rest.

`Course` lists what a single entry can do, with all that is known of it. The sums are inductions
over it; how a credit is computed is not opened again.
-/

import FlowGate.Proofs.Tier.Credit
import Mathlib.Data.List.Chain

namespace FlowGate

open Config (Rule)

namespace Tier

/-! ## The figures of a statement -/

/-- The units that entries consume. -/
def consumedBy : List Entry → Nat
  | [] => 0
  | .charge units :: entries => units + consumedBy entries
  | .credit _ :: entries => consumedBy entries

/-- The units that postings give back. -/
def givenBack (postings : List Posting) : Nat :=
  ((postings.filterMap Posting.credited).map UInt64.toNat).sum

/-- The postings that move the start of the window, which was at `start` before the first one. -/
def shifts (start : UInt64) : List Posting → List Posting
  | [] => []
  | posting :: postings =>
    if posting.tier.windowStart = start then shifts start postings
    else posting :: shifts posting.tier.windowStart postings

/-- The tier that a statement ends with. -/
def closing (tier : Tier) (entries : List Entry) : Tier :=
  ((tier.statement entries).1.map Posting.tier).getLastD tier

theorem givenBack_cons_none (tier : Tier) (postings : List Posting) :
    givenBack (⟨none, tier⟩ :: postings) = givenBack postings := rfl

theorem givenBack_cons_some (units : UInt64) (tier : Tier) (postings : List Posting) :
    givenBack (⟨some units, tier⟩ :: postings) = units.toNat + givenBack postings := rfl

theorem shifts_cons_of_eq {start : UInt64} {posting : Posting} (postings : List Posting)
    (stays : posting.tier.windowStart = start) :
    shifts start (posting :: postings) = shifts start postings := if_pos stays

theorem shifts_cons_of_ne {start : UInt64} {posting : Posting} (postings : List Posting)
    (moves : posting.tier.windowStart ≠ start) :
    shifts start (posting :: postings) =
      posting :: shifts posting.tier.windowStart postings := if_neg moves

section Post

variable {tier : Tier} {entry : Entry} {posting : Posting}

theorem statement_cons_of_ok (posted : tier.post entry = .ok posting) (entries : List Entry) :
    tier.statement (entry :: entries) =
      (posting :: (posting.tier.statement entries).1, (posting.tier.statement entries).2) := by
  rw [statement, posted]

theorem closing_cons_of_ok (posted : tier.post entry = .ok posting) (entries : List Entry) :
    tier.closing (entry :: entries) = posting.tier.closing entries := by
  rw [closing, statement_cons_of_ok posted, List.map_cons, List.getLastD_cons, closing]

end Post

/-! ## What single entries do -/

/-- A statement in which no entry fails, entry by entry: its postings, and the tier it ends with. -/
inductive Course : Tier → List Entry → List Posting → Tier → Prop
  | nil {tier} : Course tier [] [] tier
  /-- Units are consumed. -/
  | charge {tier units entries postings last}
      (rest : Course (tier.chargeTimes units) entries postings last) :
      Course tier (.charge units :: entries) (⟨none, tier.chargeTimes units⟩ :: postings) last
  /-- A credit that comes no later than a period after the start of the window, or before it. -/
  | early {tier now entries postings last}
      (early : now.toNat - tier.windowStart.toNat ≤ tier.rule.period.toNat)
      (rest : Course tier entries postings last) :
      Course tier (.credit now :: entries) (⟨some 0, tier⟩ :: postings) last
  /-- A credit that comes later, with which the window starts anew. -/
  | late {tier next now units entries postings last}
      (late : tier.rule.period.toNat < now.toNat - tier.windowStart.toNat)
      (sameRule : next.rule = tier.rule) (starts : next.windowStart = now)
      (share : units.toNat =
        min (tier.rule.due (now.toNat - tier.windowStart.toNat)) tier.count.toNat)
      (sum : next.count.toNat + units.toNat = tier.count.toNat)
      (rest : Course next entries postings last) :
      Course tier (.credit now :: entries) (⟨some units, next⟩ :: postings) last

/-- Under a rule that lasts at least a millisecond no entry of a statement fails. -/
theorem exists_course {tier : Tier} (positive : tier.rule.period ≠ 0) (entries : List Entry) :
    ∃ postings, tier.statement entries = (postings, none) ∧
      Course tier entries postings (tier.closing entries) := by
  induction entries generalizing tier with
  | nil => exact ⟨[], rfl, .nil⟩
  | cons entry entries ih =>
      cases entry with
      | charge units =>
          have posted : tier.post (.charge units) = .ok ⟨none, tier.chargeTimes units⟩ := rfl
          obtain ⟨postings, stated, course⟩ :=
            @ih (tier.chargeTimes units) (by rwa [chargeTimes_rule])
          rw [statement_cons_of_ok posted, closing_cons_of_ok posted, stated]
          exact ⟨_, rfl, .charge course⟩
      | credit now =>
          obtain ⟨units, next, credited⟩ := exists_credit_eq_ok now positive
          have posted : tier.post (.credit now) = .ok ⟨some units, next⟩ := by
            rw [post, credited]
            rfl
          obtain ⟨postings, stated, course⟩ := @ih next (by rwa [credit_rule credited])
          rw [statement_cons_of_ok posted, closing_cons_of_ok posted, stated]
          refine ⟨_, rfl, ?_⟩
          rcases credit_cases credited with
            ⟨early, rfl, rfl⟩ | ⟨late, sameRule, starts, share, sum⟩
          · exact .early early course
          · exact .late late sameRule starts share sum course

namespace Course

variable {tier last : Tier} {entries : List Entry} {postings : List Posting}

/-- The start of the window never goes back, whatever the instants of the credits are. -/
theorem isChain_windowStart (course : Course tier entries postings last) :
    (tier.windowStart :: postings.map (·.tier.windowStart)).IsChain (· ≤ ·) := by
  induction course with
  | nil => exact .singleton _
  | charge rest ih =>
      rw [chargeTimes_windowStart] at ih
      rw [List.map_cons, List.isChain_cons_cons, chargeTimes_windowStart]
      exact ⟨UInt64.le_refl _, ih⟩
  | early early rest ih =>
      rw [List.map_cons, List.isChain_cons_cons]
      exact ⟨UInt64.le_refl _, ih⟩
  | late late sameRule starts share sum rest ih =>
      rw [List.map_cons, List.isChain_cons_cons]
      refine ⟨?_, ih⟩
      rw [starts, UInt64.le_iff_toNat_le]
      omega

theorem windowStart_le (course : Course tier entries postings last) :
    tier.windowStart.toNat ≤ last.windowStart.toNat := by
  induction course with
  | nil => exact Nat.le_refl _
  | charge rest ih => rwa [chargeTimes_windowStart] at ih
  | early early rest ih => exact ih
  | late late sameRule starts share sum rest ih =>
      rw [starts] at ih
      omega

/-- As long as the count need not be held at the largest word, what was consumed is counted or was
given back. -/
theorem count_add_consumedBy (course : Course tier entries postings last)
    (few : tier.count.toNat + consumedBy entries < 2 ^ 64) :
    tier.count.toNat + consumedBy entries = last.count.toNat + givenBack postings := by
  induction course with
  | nil => rfl
  | @charge tier units entries postings last rest ih =>
      rw [consumedBy] at few ⊢
      have count := tier.toNat_chargeTimes_count units
      rw [Word.toNat_top] at count
      have after := ih (by omega)
      rw [givenBack_cons_none]
      omega
  | early early rest ih =>
      rw [givenBack_cons_some, UInt64.toNat_zero, Nat.zero_add]
      exact ih few
  | @late tier next now units entries postings last late sameRule starts share sum rest ih =>
      rw [consumedBy] at few ⊢
      have after := ih (by omega)
      rw [givenBack_cons_some]
      omega

/-- What was given back fell due while the window start moved. -/
theorem mul_givenBack_le (course : Course tier entries postings last) :
    tier.rule.period.toNat * givenBack postings ≤
      (last.windowStart.toNat - tier.windowStart.toNat) * tier.rule.quota.toNat := by
  induction course with
  | nil => exact Nat.zero_le _
  | @charge tier units entries postings last rest ih =>
      rw [chargeTimes_rule, chargeTimes_windowStart] at ih
      rwa [givenBack_cons_none]
  | early early rest ih =>
      rwa [givenBack_cons_some, UInt64.toNat_zero, Nat.zero_add]
  | @late tier next now units entries postings last late sameRule starts share sum rest ih =>
      have forward := rest.windowStart_le
      rw [sameRule, starts] at ih
      rw [starts] at forward
      have paid : tier.rule.period.toNat * units.toNat ≤
          (now.toNat - tier.windowStart.toNat) * tier.rule.quota.toNat :=
        calc
          tier.rule.period.toNat * units.toNat ≤
              tier.rule.period.toNat * tier.rule.due (now.toNat - tier.windowStart.toNat) :=
            Nat.mul_le_mul_left _ (by omega)
          _ ≤ (now.toNat - tier.windowStart.toNat) * tier.rule.quota.toNat := Nat.mul_div_le _ _
      rw [givenBack_cons_some]
      calc
        tier.rule.period.toNat * (units.toNat + givenBack postings) =
            tier.rule.period.toNat * units.toNat +
              tier.rule.period.toNat * givenBack postings := Nat.mul_add ..
        _ ≤ (now.toNat - tier.windowStart.toNat) * tier.rule.quota.toNat +
            (last.windowStart.toNat - now.toNat) * tier.rule.quota.toNat :=
          Nat.add_le_add paid ih
        _ = (last.windowStart.toNat - tier.windowStart.toNat) * tier.rule.quota.toNat := by
          rw [← Nat.add_mul]
          congr 1
          omega

/-- A credit that leaves something counted gives back all that fell due, less a fraction of a unit;
so as long as every move of the window start leaves something counted, what fell due meanwhile was
given back but for a fraction of a unit for each move. -/
theorem mul_windowStart_le (course : Course tier entries postings last)
    (positive : 0 < tier.rule.period.toNat)
    (left : ∀ posting ∈ shifts tier.windowStart postings, posting.tier.count ≠ 0) :
    (last.windowStart.toNat - tier.windowStart.toNat) * tier.rule.quota.toNat +
        (shifts tier.windowStart postings).length ≤
      tier.rule.period.toNat * givenBack postings +
        (shifts tier.windowStart postings).length * tier.rule.period.toNat := by
  induction course with
  | nil => simp [shifts, givenBack]
  | @charge tier units entries postings last rest ih =>
      rw [chargeTimes_rule, chargeTimes_windowStart] at ih
      have stays : shifts tier.windowStart (⟨none, tier.chargeTimes units⟩ :: postings) =
          shifts tier.windowStart postings :=
        shifts_cons_of_eq postings (chargeTimes_windowStart tier units)
      rw [stays] at left ⊢
      rw [givenBack_cons_none]
      exact ih positive left
  | @early tier now entries postings last early rest ih =>
      have stays : shifts tier.windowStart (⟨some 0, tier⟩ :: postings) =
          shifts tier.windowStart postings := shifts_cons_of_eq postings rfl
      rw [stays] at left ⊢
      rw [givenBack_cons_some, UInt64.toNat_zero, Nat.zero_add]
      exact ih positive left
  | @late tier next now units entries postings last late sameRule starts share sum rest ih =>
      have moves : next.windowStart ≠ tier.windowStart := by
        rintro same
        rw [← same, starts, Nat.sub_self] at late
        exact absurd late (Nat.not_lt_zero _)
      rw [shifts_cons_of_ne postings moves] at left ⊢
      rw [List.forall_mem_cons] at left
      have forward := rest.windowStart_le
      have after := ih (by rwa [sameRule]) left.2
      rw [sameRule, starts] at after
      rw [starts] at forward ⊢
      have counted : next.count.toNat ≠ 0 := fun none => left.1 (UInt64.toNat_inj.mp none)
      have whole : units.toNat = tier.rule.due (now.toNat - tier.windowStart.toNat) := by omega
      have owed : (now.toNat - tier.windowStart.toNat) * tier.rule.quota.toNat + 1 ≤
          tier.rule.period.toNat * units.toNat + tier.rule.period.toNat := by
        rw [whole, Rule.due]
        exact Nat.lt_mul_div_succ _ positive
      have split : (last.windowStart.toNat - tier.windowStart.toNat) * tier.rule.quota.toNat =
          (now.toNat - tier.windowStart.toNat) * tier.rule.quota.toNat +
            (last.windowStart.toNat - now.toNat) * tier.rule.quota.toNat := by
        rw [← Nat.add_mul]
        congr 1
        omega
      rw [givenBack_cons_some, split, List.length_cons, Nat.mul_add, Nat.succ_mul]
      omega

end Course

/-- However a tier is charged and credited from its creation on, under a rule that lasts at least a
millisecond: every entry is made; the start of the window never goes back, and never before the
creation; what was consumed is counted or was given back; and what was given back is at most what
fell due from the creation to the start of the window. If the window start moved and something was
left counted each time, it falls short of that by less than a unit for each move. -/
theorem credits_follow_windowStart {rule : Rule} (positive : rule.period ≠ 0) (opened : UInt64)
    (entries : List Entry) :
    ∃ postings, (create rule opened).statement entries = (postings, none) ∧
      let last := (create rule opened).closing entries
      let moved := shifts opened postings
      (opened :: postings.map (·.tier.windowStart)).Pairwise (· ≤ ·) ∧
      (consumedBy entries < 2 ^ 64 →
        consumedBy entries = last.count.toNat + givenBack postings) ∧
      rule.period.toNat * givenBack postings ≤
        (last.windowStart.toNat - opened.toNat) * rule.quota.toNat ∧
      ((∀ posting ∈ moved, posting.tier.count ≠ 0) → moved ≠ [] →
        (last.windowStart.toNat - opened.toNat) * rule.quota.toNat <
          rule.period.toNat * givenBack postings + moved.length * rule.period.toNat) := by
  have lasts : (create rule opened).rule.period ≠ 0 := positive
  obtain ⟨postings, stated, course⟩ := exists_course lasts entries
  refine ⟨postings, stated, List.isChain_iff_pairwise.mp course.isChain_windowStart, ?_,
    course.mul_givenBack_le, fun left some => ?_⟩
  · intro few
    have empty : (create rule opened).count.toNat = 0 := rfl
    have balance := course.count_add_consumedBy (by rwa [empty, Nat.zero_add])
    rwa [empty, Nat.zero_add] at balance
  · have lasting : 0 < rule.period.toNat := Nat.pos_of_ne_zero fun zero =>
      positive (UInt64.toNat_inj.mp zero)
    refine Nat.lt_of_lt_of_le ?_ (course.mul_windowStart_le lasting left)
    exact Nat.lt_add_of_pos_right (List.length_pos_iff.mpr some)

/-- Thirteen units, with a credit that is set back in between. -/
def thirteenUnits : List Entry :=
  [.charge 7, .credit 1501, .charge 6, .credit 900, .credit 4100]

/-- Of a tier for three units a second, 3600 milliseconds are good for 10.8 units. Two credits give
back three units and seven, each of them rounded down, and three units stay counted. -/
theorem credits_follow_thirteenUnits :
    let rule : Rule := ⟨3, 1000⟩
    let opened : UInt64 := 500
    let postings := ((create rule opened).statement thirteenUnits).1
    let last := (create rule opened).closing thirteenUnits
    let moved := shifts opened postings
    rule.period ≠ 0 ∧ consumedBy thirteenUnits < 2 ^ 64 ∧ moved ≠ [] ∧
      (∀ posting ∈ moved, posting.tier.count ≠ 0) ∧
      (consumedBy thirteenUnits = 13 ∧ last.count = 3 ∧ givenBack postings = 10 ∧
        last.windowStart = 4100 ∧ moved.length = 2) ∧
      (opened :: postings.map (·.tier.windowStart)).Pairwise (· ≤ ·) ∧
      consumedBy thirteenUnits = last.count.toNat + givenBack postings ∧
      rule.period.toNat * givenBack postings ≤
        (last.windowStart.toNat - opened.toNat) * rule.quota.toNat ∧
      (last.windowStart.toNat - opened.toNat) * rule.quota.toNat <
        rule.period.toNat * givenBack postings + moved.length * rule.period.toNat := by
  intro rule opened postings last moved
  have positive : rule.period ≠ 0 := by decide
  have few : consumedBy thirteenUnits < 2 ^ 64 := by decide +kernel
  have some : moved ≠ [] := by decide +kernel
  have left : ∀ posting ∈ moved, posting.tier.count ≠ 0 := by decide +kernel
  obtain ⟨postings', stated, sorted, balance, paid, drift⟩ :=
    credits_follow_windowStart positive opened thirteenUnits
  obtain rfl : postings = postings' := congrArg Prod.fst stated
  exact ⟨positive, few, some, left, by decide +kernel, sorted, balance few, paid,
    drift left some⟩

end Tier

end FlowGate
