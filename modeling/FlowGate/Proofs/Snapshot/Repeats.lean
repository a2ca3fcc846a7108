/-
# The same question again

A filter that is asked the same question several times at one instant gives the same answer each
time: an event that passed passes again, an event that was dropped is dropped again. The first
asking may open a window, and the instant then lies inside it. Only at the last instant of all,
where the bounds of a window are held, does each asking find a window to be opened; the event passes
all the same.

So a run in which every question is put several times over ends like the run in which each is put
once. Its tally counts the same answers so many times, and the windows only once.
-/

import FlowGate.Proofs.Sampler.Build
import FlowGate.Proofs.Sampler.Phase
import FlowGate.Proofs.Snapshot.Answers

namespace FlowGate

namespace Snapshot

open Sampler (phaseAt_self_of_lt_top phaseAt_top)

/-! ## Answers -/

namespace Answer

/-- The answer to the same question put again at the same instant. Of a window that was opened for
it another one is made only at the last instant. -/
def again (answer : Answer) : Answer :=
  { answer with opens := answer.opens && answer.query.now == Word.top }

theorem again_of_not_opens {answer : Answer} (stays : answer.opens = false) :
    answer.again = answer := by
  cases answer
  simp_all [again]

/-- The answers to a run of questions each of which is put once and `more` times again. -/
def repeated (more : Nat) (answers : List Answer) : List Answer :=
  answers.flatMap fun answer => answer :: List.replicate more answer.again

/-- Answers of a kind that is kept in repeating are so many times as many. -/
theorem countP_repeated {p : Answer → Bool} (kept : ∀ answer, p answer.again = p answer)
    (more : Nat) (answers : List Answer) :
    (repeated more answers).countP p = (more + 1) * answers.countP p := by
  induction answers with
  | nil => rfl
  | cons answer answers ih =>
      rw [repeated, List.flatMap_cons, List.countP_append, ← repeated, ih, List.countP_cons,
        List.countP_replicate, kept, List.countP_cons]
      cases p answer with
      | true =>
          simp only [if_true, Nat.mul_add, Nat.mul_one]
          omega
      | false => simp

/-- Before the last instant a window is opened by the first asking alone. -/
theorem countP_opens_repeated (more : Nat) {answers : List Answer}
    (below : ∀ answer ∈ answers, answer.query.now < Word.top) :
    (repeated more answers).countP (·.opens) = answers.countP (·.opens) := by
  induction answers with
  | nil => rfl
  | cons answer answers ih =>
      have early : answer.query.now ≠ Word.top :=
        UInt64.ne_of_lt (below answer List.mem_cons_self)
      have later := ih fun other among => below other (List.mem_cons_of_mem _ among)
      rw [repeated, List.flatMap_cons, List.countP_append, ← repeated, later, List.countP_cons,
        List.countP_replicate, List.countP_cons]
      simp [again, early, Nat.add_comm]

/-- In a tally that starts afresh repeated answers count so many times as much. -/
theorem tallied_repeated (more : Nat) (answers : List Answer) :
    let once := tallied {} answers
    let often := tallied {} (repeated more answers)
    often.passed = UInt64.ofNat (more + 1) * once.passed ∧
      often.suppressed = UInt64.ofNat (more + 1) * once.suppressed ∧
      often.exempt = UInt64.ofNat (more + 1) * once.exempt := by
  have times {p : Answer → Bool} (kept : ∀ answer, p answer.again = p answer) :
      (0 : UInt64) + UInt64.ofNat ((repeated more answers).countP p) =
        UInt64.ofNat (more + 1) * (0 + UInt64.ofNat (answers.countP p)) := by
    rw [countP_repeated kept, UInt64.ofNat_mul, UInt64.zero_add, UInt64.zero_add]
  exact ⟨times fun _ => rfl, times fun _ => rfl, times fun _ => rfl⟩

end Answer

namespace Filter

variable {filter : Filter} {query : Query}

/-! ## One question -/

/-- The same question again, at the same instant. Where a window was opened, that instant is inside
it, unless it is the last one. -/
theorem answer_ask (acceptable : filter.sampler.cycle.Acceptable) (query : Query) :
    (filter.ask query).1.answer query = (filter.answer query).again := by
  cases opened : (filter.answer query).opens with
  | false =>
      rw [Answer.again_of_not_opens opened]
      exact (alike_ask_of_not_opens opened).answer_eq query
  | true =>
      have sampled : (filter.ask query).1.isExempt query.target = false := by
        rw [isExempt, exempt_ask, ← isExempt, ← exempt_answer, answer_eq_of_opens opened]
      rw [answer, sampled, cycle_ask, lastStart_ask, opened, if_pos rfl, if_neg Bool.false_ne_true,
        answer_eq_of_opens opened]
      rcases Word.eq_top_or_lt_top query.now with last | below
      · simp [Answer.again, last, phaseAt_top]
      · have notLast : query.now ≠ Word.top := UInt64.ne_of_lt below
        simp [Answer.again, notLast, phaseAt_self_of_lt_top acceptable below]

/-- After it was asked once a filter stays alike when it is asked the same. -/
theorem alike_ask_ask (filter : Filter) (query : Query) :
    Alike ((filter.ask query).1.ask query).1 (filter.ask query).1 := by
  cases opened : (filter.answer query).opens with
  | false => exact (alike_ask_of_not_opens opened).ask query
  | true =>
      refine ⟨exempt_ask _ query, cycle_ask _ query, ?_⟩
      rw [lastStart_ask, lastStart_ask, opened]
      exact ite_self query.now

/-- A filter that stays alike when it is asked gives one answer as often as it is asked. -/
theorem askAll_replicate_of_alike (steady : Alike (filter.ask query).1 filter) (times : Nat) :
    (filter.askAll (List.replicate times query)).2 = List.replicate times (filter.answer query) ∧
      Alike (filter.askAll (List.replicate times query)).1 filter := by
  induction times with
  | zero => exact ⟨rfl, Alike.refl filter⟩
  | succ times ih =>
      obtain ⟨sameAnswers, stays⟩ := ih
      obtain ⟨asBefore, alike⟩ := steady.askAll (List.replicate times query)
      rw [List.replicate_succ, askAll_cons, List.replicate_succ, asBefore, sameAnswers]
      exact ⟨rfl, alike.trans stays⟩

/-- One question, put once and `more` times again. -/
theorem askAll_replicate_succ (acceptable : filter.sampler.cycle.Acceptable) (query : Query)
    (more : Nat) :
    (filter.askAll (List.replicate (more + 1) query)).2 =
        filter.answer query :: List.replicate more (filter.answer query).again ∧
      Alike (filter.askAll (List.replicate (more + 1) query)).1 (filter.ask query).1 := by
  obtain ⟨answers, alike⟩ :=
    askAll_replicate_of_alike (alike_ask_ask filter query) more
  rw [List.replicate_succ, askAll_cons, answers, answer_ask acceptable]
  exact ⟨rfl, alike⟩

/-! ## Runs of questions -/

theorem askAll_append (filter : Filter) (first second : List Query) :
    filter.askAll (first ++ second) =
      (((filter.askAll first).1.askAll second).1,
        (filter.askAll first).2 ++ ((filter.askAll first).1.askAll second).2) := by
  induction first generalizing filter with
  | nil => rfl
  | cons query first ih => rw [List.cons_append, askAll_cons, ih, askAll_cons, List.cons_append]

/-- Put every question once and `more` times again: what is answered is what one asking of each
would have been answered, repeated, and the filter ends alike. -/
theorem Alike.askAll_repeated {many one : Filter} (alike : Alike many one)
    (acceptable : one.sampler.cycle.Acceptable) (queries : List Query) (more : Nat) :
    (many.askAll (queries.flatMap (List.replicate (more + 1)))).2 =
        Answer.repeated more (one.askAll queries).2 ∧
      Alike (many.askAll (queries.flatMap (List.replicate (more + 1)))).1
        (one.askAll queries).1 := by
  induction queries generalizing many one with
  | nil => exact ⟨rfl, alike⟩
  | cons query queries ih =>
      obtain ⟨sameAnswers, afterwards⟩ := alike.askAll (List.replicate (more + 1) query)
      obtain ⟨answers, steady⟩ := askAll_replicate_succ acceptable query more
      obtain ⟨laterAnswers, last⟩ :=
        ih (afterwards.trans steady) (by rwa [cycle_ask])
      rw [List.flatMap_cons, askAll_append, sameAnswers, answers, laterAnswers, askAll_cons]
      exact ⟨rfl, last⟩

end Filter

end Snapshot

end FlowGate
