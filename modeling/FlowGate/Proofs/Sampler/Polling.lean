/-
# A sampler that is polled at equal steps

A window is opened by the first event at or past the period, so between events that come at equal
steps it opens late, and every further window is opened late from there: the cycle drifts until it
is a whole number of steps long. What a poll is answered is then told by its number alone. The
period and the window each take as many polls as it needs steps to reach their end, and out of the
polls of a period the first ones, as many as a window takes, pass. This begins with the first poll
of all, which either falls on the start of the last window or opens one.

The induction adds a poll at the end. Its phase is told by how many polls ago the last window was
opened.
-/

import FlowGate.Proofs.Sampler.Build
import FlowGate.Proofs.Sampler.Phase
import FlowGate.Sampler.Session
import Mathlib.Algebra.Order.Floor.Div
import Mathlib.Tactic.Ring

namespace FlowGate.Sampler

open Config (Cycle)
open Time (Duration ManualClock)

/-! ## Polls that a span takes -/

/-- A span takes one poll more as long as the step of that poll is still inside it. -/
theorem lt_ceilDiv_iff {step : Nat} (moving : 0 < step) (span poll : Nat) :
    poll < span ⌈/⌉ step ↔ poll * step < span := by
  rw [← Nat.not_le, ceilDiv_le_iff_le_mul moving, Nat.not_le, Nat.mul_comm]

theorem succ_ceilDiv {polls : Nat} (some : 0 < polls) (last : Nat) :
    (last + 1) ⌈/⌉ polls = last / polls + 1 := by
  rw [Nat.ceilDiv_eq_add_pred_div, Nat.add_right_comm, Nat.add_sub_cancel]
  exact Nat.add_div_right last some

/-- At this step a cycle takes `polls` polls and its window `passing` of them. -/
structure Paced (cycle : Cycle) (step polls passing : Nat) : Prop where
  lt_polls_iff : ∀ number, number < polls ↔ number * step < cycle.period.toNat
  lt_passing_iff : ∀ number, number < passing ↔ number * step < cycle.window.toNat
  passing_pos : 0 < passing
  passing_le : passing ≤ polls

namespace Paced

theorem of_acceptable {cycle : Cycle} (acceptable : cycle.Acceptable) {step : Nat}
    (moving : 0 < step) :
    Paced cycle step (cycle.period.toNat ⌈/⌉ step) (cycle.window.toNat ⌈/⌉ step) where
  lt_polls_iff := lt_ceilDiv_iff moving _
  lt_passing_iff := lt_ceilDiv_iff moving _
  passing_pos := by
    rw [lt_ceilDiv_iff moving, Nat.zero_mul]
    exact acceptable.window_pos
  passing_le := by
    rw [ceilDiv_le_iff_le_mul moving]
    exact acceptable.window_lt_period.le.trans
      ((ceilDiv_le_iff_le_mul moving).mp (Nat.le_refl _))

theorem polls_pos {cycle : Cycle} {step polls passing : Nat}
    (paced : Paced cycle step polls passing) : 0 < polls :=
  Nat.lt_of_lt_of_le paced.passing_pos paced.passing_le

end Paced

/-- The poll after one numbered `last` is the next one of the same cycle, or the first one of the
next cycle. -/
theorem next_poll {polls : Nat} (some : 0 < polls) (last : Nat) :
    (last % polls + 1 < polls ∧ (last + 1) / polls = last / polls ∧
      (last + 1) % polls = last % polls + 1) ∨
    (last % polls + 1 = polls ∧ (last + 1) / polls = last / polls + 1 ∧
      (last + 1) % polls = 0) := by
  have whole := Nat.div_add_mod last polls
  rcases Nat.lt_or_eq_of_le (Nat.succ_le_of_lt (Nat.mod_lt last some)) with inside | full
  · refine .inl ⟨inside, (Nat.div_mod_unique some).mpr ⟨?_, inside⟩⟩
    omega
  · refine .inr ⟨full, (Nat.div_mod_unique some).mpr ⟨?_, some⟩⟩
    rw [Nat.mul_succ]
    omega

/-! ## One decision -/

variable {sampler : Sampler} {now : UInt64}

theorem decide_of_active (active : phaseAt sampler.cycle sampler.lastStart now = .active) :
    sampler.decide now = sampler.concluded .pass := by
  rw [decide, decideSeen, active]

theorem decide_of_dormant (dormant : phaseAt sampler.cycle sampler.lastStart now = .dormant) :
    sampler.decide now = sampler.concluded .suppress := by
  rw [decide, decideSeen, dormant]

/-- The sampler whose last window starts at `now`, with that window counted. -/
def opening (sampler : Sampler) (now : UInt64) : Sampler :=
  { sampler with
    lastStart := now
    tally := { sampler.tally with opened := sampler.tally.opened + 1 } }

/-- A caller that decides alone finds the start that it saw, so a due window is opened. -/
theorem decide_of_eligible (eligible : phaseAt sampler.cycle sampler.lastStart now = .eligible) :
    sampler.decide now = (sampler.opening now).concluded .pass := by
  rw [decide, decideSeen, eligible, openWindow?, if_pos rfl, opening]

/-- The phase of an instant that comes so long after the start of the last window. -/
theorem phaseAt_of_offset (cycle : Cycle) {start : UInt64} (below : now < Word.top) {offset : Nat}
    (later : now.toNat = start.toNat + offset) :
    phaseAt cycle start now =
      if offset < cycle.window.toNat then .active
      else if cycle.period.toNat ≤ offset then .eligible
      else .dormant := by
  simp only [phaseAt_of_lt_top below, later, Nat.le_add_right, true_and, Nat.add_lt_add_iff_left,
    Nat.add_le_add_iff_left]

/-! ## One poll more -/

/-- What polls have come to, after one more. -/
def poll (step : Duration) (driven : Sampler × ManualClock × List Decision) :
    Sampler × ManualClock × List Decision :=
  let (sampler, decision) := driven.1.decide driven.2.1.now
  (sampler, driven.2.1.advance step, driven.2.2 ++ [decision])

theorem drive_cons (sampler : Sampler) (clock : ManualClock) (step : Duration) (times : Nat) :
    sampler.drive clock step (times + 1) =
      let (next, decision) := sampler.decide clock.now
      let later := next.drive (clock.advance step) step times
      (later.1, later.2.1, decision :: later.2.2) :=
  rfl

/-- The run is defined from its first poll on; it is as well one poll after the others. -/
theorem drive_succ (sampler : Sampler) (clock : ManualClock) (step : Duration) (times : Nat) :
    sampler.drive clock step (times + 1) = poll step (sampler.drive clock step times) := by
  induction times generalizing sampler clock with
  | zero => rfl
  | succ times ih =>
      rw [drive_cons sampler clock step (times + 1), drive_cons sampler clock step times]
      simp only [ih]
      rfl

/-! ## What a poll is answered -/

/-- The answer to the poll of this number, if `passing` out of every `polls` pass. -/
def answerTo (polls passing poll : Nat) : Decision :=
  if poll % polls < passing then .pass else .suppress

/-- Of every `polls` polls `passing` pass, and of the rest as many as there are. -/
theorem count_pass_answers {polls passing : Nat} (some : 0 < polls) (fewer : passing ≤ polls)
    (times : Nat) :
    ((List.range times).map (answerTo polls passing)).count .pass =
      times / polls * passing + min (times % polls) passing := by
  induction times with
  | zero => simp
  | succ times ih =>
      have last : [answerTo polls passing times].count .pass =
          if times % polls < passing then 1 else 0 := by
        rw [answerTo]
        split <;> rfl
      rw [List.range_succ, List.map_append, List.count_append, ih, List.map_singleton, last]
      obtain ⟨-, sameCycle, next⟩ | ⟨full, nextCycle, first⟩ := next_poll some times
      · rw [sameCycle, next]
        split <;> omega
      · rw [nextCycle, first, Nat.add_mul]
        split <;> omega

/-! ## The run -/

/-- What the polls up to the one numbered `last` have come to: `polls` of them make a cycle, and
the first `passing` of each cycle pass. -/
structure Polled (sampler : Sampler) (clock : ManualClock) (step : Duration)
    (polls passing last : Nat) (driven : Sampler × ManualClock × List Decision) : Prop where
  cycle : driven.1.cycle = sampler.cycle
  now : driven.2.1.now.toNat = clock.now.toNat + (last + 1) * step.millis.toNat
  lastStart : driven.1.lastStart.toNat =
    clock.now.toNat + polls * step.millis.toNat * (last / polls)
  opened : driven.1.tally.opened = sampler.tally.opened +
    UInt64.ofNat (last / polls + 1 - if sampler.lastStart = clock.now then 1 else 0)
  decisions : driven.2.2 = (List.range (last + 1)).map (answerTo polls passing)

theorem toNat_now_advance {clock : ManualClock} {step : Duration}
    (fits : clock.now.toNat + step.millis.toNat < 2 ^ 64 - 1) :
    (clock.advance step).now.toNat = clock.now.toNat + step.millis.toNat := by
  rw [ManualClock.advance, UInt64.toNat_add]
  omega

section Run

variable {clock : ManualClock} {step : Duration} {polls passing last : Nat}
variable {driven : Sampler × ManualClock × List Decision}

/-- The first poll falls on the start of the last window, or opens one. -/
theorem polled_first (acceptable : sampler.cycle.Acceptable) (some : 0 < passing)
    (fits : clock.now.toNat + step.millis.toNat < 2 ^ 64 - 1)
    (begins : sampler.lastStart = clock.now ∨
      sampler.lastStart.toNat + sampler.cycle.period.toNat ≤ clock.now.toNat) :
    Polled sampler clock step polls passing 0 (sampler.drive clock step 1) := by
  have below : clock.now < Word.top := (Word.lt_top_iff _).mpr (by omega)
  have windowed := acceptable.window_pos
  have answered : [Decision.pass] = (List.range 1).map (answerTo polls passing) := by
    rw [List.range_one, List.map_singleton, answerTo, Nat.zero_mod, if_pos some]
  have passes : sampler.drive clock step 1 = poll step (sampler, clock, []) := rfl
  rw [passes, poll]
  rcases Decidable.em (sampler.lastStart = clock.now) with standing | moved
  · have active : phaseAt sampler.cycle sampler.lastStart clock.now = .active := by
      have onStart : clock.now.toNat = sampler.lastStart.toNat + 0 := by rw [standing, Nat.add_zero]
      rw [phaseAt_of_offset _ below onStart, if_pos windowed]
    rw [decide_of_active active]
    exact {
      cycle := rfl
      now := by rw [toNat_now_advance fits]; omega
      lastStart := by simp [concluded, standing]
      opened := by simp [concluded, Tally.count, standing]
      decisions := answered }
  · have late := begins.resolve_left moved
    have longer := acceptable.window_lt_period
    have eligible : phaseAt sampler.cycle sampler.lastStart clock.now = .eligible := by
      have past : clock.now.toNat =
          sampler.lastStart.toNat + (clock.now.toNat - sampler.lastStart.toNat) := by omega
      rw [phaseAt_of_offset _ below past, if_neg (by omega), if_pos (by omega)]
    rw [decide_of_eligible eligible]
    exact {
      cycle := rfl
      now := by rw [toNat_now_advance fits]; omega
      lastStart := by simp [concluded, opening]
      opened := by simp [concluded, opening, Tally.count, moved]
      decisions := answered }

/-- The clock stands as many steps past the start of the last window as polls of the cycle are
done. -/
theorem Polled.gap (polled : Polled sampler clock step polls passing last driven) :
    driven.2.1.now.toNat =
      driven.1.lastStart.toNat + (last % polls + 1) * step.millis.toNat := by
  have whole := Nat.div_add_mod last polls
  calc driven.2.1.now.toNat
      = clock.now.toNat + (polls * (last / polls) + last % polls + 1) * step.millis.toNat := by
        rw [polled.now, whole]
    _ = driven.1.lastStart.toNat + (last % polls + 1) * step.millis.toNat := by
        rw [polled.lastStart]
        ring

/-- In the middle of a cycle the number of a poll in the cycle decides on it. -/
theorem Polled.next_inside (polled : Polled sampler clock step polls passing last driven)
    (paced : Paced sampler.cycle step.millis.toNat polls passing)
    (fits : driven.2.1.now.toNat + step.millis.toNat < 2 ^ 64 - 1)
    (inside : last % polls + 1 < polls) (number : (last + 1) % polls = last % polls + 1) :
    driven.1.decide driven.2.1.now =
      driven.1.concluded (answerTo polls passing (last + 1)) := by
  have below : driven.2.1.now < Word.top := (Word.lt_top_iff _).mpr (by omega)
  have early : ¬ sampler.cycle.period.toNat ≤ (last % polls + 1) * step.millis.toNat :=
    Nat.not_le.mpr ((paced.lt_polls_iff _).mp inside)
  have phase : phaseAt driven.1.cycle driven.1.lastStart driven.2.1.now =
      if (last % polls + 1) * step.millis.toNat < sampler.cycle.window.toNat then .active
      else .dormant := by
    rw [phaseAt_of_offset _ below polled.gap, polled.cycle, if_neg early]
  rw [answerTo, number]
  split
  · next passes =>
    exact decide_of_active (phase.trans (if_pos ((paced.lt_passing_iff _).mp passes)))
  · next drops =>
    exact decide_of_dormant (phase.trans (if_neg ((paced.lt_passing_iff _).not.mp drops)))

/-- Past the end of a cycle the poll opens a window. -/
theorem Polled.next_past (polled : Polled sampler clock step polls passing last driven)
    (paced : Paced sampler.cycle step.millis.toNat polls passing)
    (fits : driven.2.1.now.toNat + step.millis.toNat < 2 ^ 64 - 1)
    (full : last % polls + 1 = polls) :
    driven.1.decide driven.2.1.now = (driven.1.opening driven.2.1.now).concluded .pass := by
  have below : driven.2.1.now < Word.top := (Word.lt_top_iff _).mpr (by omega)
  have late : sampler.cycle.period.toNat ≤ polls * step.millis.toNat :=
    Nat.not_lt.mp ((paced.lt_polls_iff _).not.mp (Nat.lt_irrefl _))
  have out : ¬ polls * step.millis.toNat < sampler.cycle.window.toNat :=
    (paced.lt_passing_iff _).not.mp (Nat.not_lt.mpr paced.passing_le)
  apply decide_of_eligible
  rw [phaseAt_of_offset _ below polled.gap, full, polled.cycle, if_neg out, if_pos late]

/-- One poll more. -/
theorem Polled.next (polled : Polled sampler clock step polls passing last driven)
    (paced : Paced sampler.cycle step.millis.toNat polls passing)
    (fits : clock.now.toNat + (last + 1 + 1) * step.millis.toNat < 2 ^ 64 - 1) :
    Polled sampler clock step polls passing (last + 1) (poll step driven) := by
  have now : driven.2.1.now.toNat + step.millis.toNat =
      clock.now.toNat + (last + 1 + 1) * step.millis.toNat := by
    rw [polled.now, Nat.succ_mul (last + 1), Nat.add_assoc]
  have decisions : driven.2.2 ++ [answerTo polls passing (last + 1)] =
      (List.range (last + 1 + 1)).map (answerTo polls passing) := by
    rw [List.range_succ, List.map_append, ← polled.decisions, List.map_singleton]
  rw [← now] at fits
  rw [poll]
  obtain ⟨inside, sameCycle, number⟩ | ⟨full, nextCycle, number⟩ :=
    next_poll paced.polls_pos last
  · rw [polled.next_inside paced fits inside number]
    exact {
      cycle := polled.cycle
      now := by rw [toNat_now_advance fits, now]
      lastStart := by rw [sameCycle]; exact polled.lastStart
      opened := by
        rw [sameCycle, ← polled.opened]
        cases answerTo polls passing (last + 1) <;> rfl
      decisions := decisions }
  · have passes : answerTo polls passing (last + 1) = .pass := by
      rw [answerTo, number, if_pos paced.passing_pos]
    rw [polled.next_past paced fits full]
    exact {
      cycle := polled.cycle
      now := by rw [toNat_now_advance fits, now]
      lastStart := by
        show driven.2.1.now.toNat = _
        rw [polled.gap, full, polled.lastStart, nextCycle]
        ring
      opened := by
        show driven.1.tally.opened + 1 = _
        rw [polled.opened, nextCycle,
          Nat.sub_add_comm (Nat.le_add_left_of_le (by split <;> decide)), UInt64.ofNat_add,
          ← UInt64.add_assoc]
        rfl
      decisions := by rw [← passes]; exact decisions }

theorem polled_drive (paced : Paced sampler.cycle step.millis.toNat polls passing)
    (acceptable : sampler.cycle.Acceptable)
    (begins : sampler.lastStart = clock.now ∨
      sampler.lastStart.toNat + sampler.cycle.period.toNat ≤ clock.now.toNat)
    (fits : clock.now.toNat + (last + 1) * step.millis.toNat < 2 ^ 64 - 1) :
    Polled sampler clock step polls passing last (sampler.drive clock step (last + 1)) := by
  induction last with
  | zero => exact polled_first acceptable paced.passing_pos (by omega) begins
  | succ last ih =>
      rw [drive_succ]
      refine (ih (Nat.lt_of_le_of_lt ?_ fits)).next paced fits
      exact Nat.add_le_add_left (Nat.mul_le_mul_right _ (Nat.le_succ _)) _

end Run

/-- Polls that come at equal steps, the first of them on the start of the last window or at least
a period past it. Of the polls of a cycle the first ones pass, as many as it takes to get out of
the window; this tells the answers, how many of them pass, where the last window starts and how
many windows have been opened. -/
theorem drive_passes_by_number (sampler : Sampler) (clock : ManualClock) (step : Duration)
    (times : Nat) (valid : sampler.cycle.check = .ok ()) (moving : 0 < step.millis)
    (polled : 0 < times) (fits : clock.now.toNat + times * step.millis.toNat < 2 ^ 64 - 1)
    (begins : sampler.lastStart = clock.now ∨
      sampler.lastStart.toNat + sampler.cycle.period.toNat ≤ clock.now.toNat) :
    let driven := sampler.drive clock step times
    let polls := sampler.cycle.period.toNat ⌈/⌉ step.millis.toNat
    let passing := sampler.cycle.window.toNat ⌈/⌉ step.millis.toNat
    driven.2.2 = (List.range times).map (fun number =>
      if number % polls < passing then .pass else .suppress) ∧
    driven.2.2.count .pass = times / polls * passing + min (times % polls) passing ∧
    driven.1.lastStart.toNat =
      clock.now.toNat + polls * step.millis.toNat * ((times - 1) / polls) ∧
    driven.1.tally.opened = sampler.tally.opened +
      UInt64.ofNat (times ⌈/⌉ polls - if sampler.lastStart = clock.now then 1 else 0) := by
  intro driven polls passing
  have acceptable := (Cycle.check_eq_ok_iff _).mp valid
  have paced := Paced.of_acceptable acceptable (UInt64.lt_iff_toNat_lt.mp moving)
  obtain ⟨last, rfl⟩ := Nat.exists_eq_add_one.mpr polled
  have run := polled_drive paced acceptable begins fits
  refine ⟨run.decisions, ?_, run.lastStart, ?_⟩
  · rw [run.decisions]
    exact count_pass_answers paced.polls_pos paced.passing_le _
  · rw [succ_ceilDiv paced.polls_pos]
    exact run.opened

/-- A sampler whose window of 5 and period of 10 are no whole number of steps of 4. -/
def unevenSampler : Sampler := { cycle := ⟨5, 10⟩, lastStart := 6 }

/-- Two polls out of three pass, and every third one opens a window. -/
theorem drive_passes_by_number_unevenSampler :
    let driven := unevenSampler.drive { now := 100 } (Duration.ofMillis 4) 8
    driven.2.2 = [.pass, .pass, .suppress, .pass, .pass, .suppress, .pass, .pass] ∧
      driven.2.2.count .pass = 6 ∧ driven.1.lastStart.toNat = 124 ∧
      driven.1.tally.opened = 3 := by
  obtain ⟨answers, passes, start, opened⟩ := drive_passes_by_number unevenSampler { now := 100 }
    (Duration.ofMillis 4) 8 rfl (by decide) (by decide) (by decide) (.inr (by decide))
  exact ⟨answers.trans (by decide), passes.trans (by decide), start.trans (by decide),
    opened.trans (by decide)⟩

end FlowGate.Sampler
