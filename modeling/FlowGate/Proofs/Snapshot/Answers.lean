/-
# What a filter answers

A filter is asked about one event after another, each from some target at some instant. What it
answers, and what the answer does to it, depends on three things only: its cycle, its exempt targets
and the start of the last window. The tally is written and never read. So two filters that are alike
in those three answer alike forever, and the tally after a run is the one before it and a count of
the answers.

Nothing is said here of what a phase means. That a window was opened for an event is seen in the
tally, which then shows one more.
-/

import FlowGate.Snapshot.Filter

namespace FlowGate.Snapshot

open Sampler (phaseAt Tally)

/-- A question put to a filter: does an event from this target pass at this instant? -/
structure Query where
  target : String
  now : UInt64
  deriving DecidableEq

/-- What came of a question. -/
structure Answer where
  query : Query
  /-- The target was exempt from sampling. -/
  exempt : Bool
  /-- The event passes. -/
  passes : Bool
  /-- A window was opened for it. -/
  opens : Bool
  deriving DecidableEq

namespace Answer

/-- The event was sampled and let through. -/
def passed (answer : Answer) : Bool := !answer.exempt && answer.passes

/-- The event was sampled and dropped. -/
def suppressed (answer : Answer) : Bool := !answer.exempt && !answer.passes

end Answer

/-- A tally after these answers: every one is counted by its kind, and an exempt one apart. -/
def tallied (tally : Tally) (answers : List Answer) : Tally where
  passed := tally.passed + UInt64.ofNat (answers.countP (·.passed))
  suppressed := tally.suppressed + UInt64.ofNat (answers.countP (·.suppressed))
  exempt := tally.exempt + UInt64.ofNat (answers.countP (·.exempt))
  opened := tally.opened + UInt64.ofNat (answers.countP (·.opens))

theorem tallied_nil (tally : Tally) : tallied tally [] = tally := by
  simp [tallied]

theorem tallied_append (tally : Tally) (first second : List Answer) :
    tallied tally (first ++ second) = tallied (tallied tally first) second := by
  simp [tallied, List.countP_append, UInt64.ofNat_add, UInt64.add_assoc]

namespace Filter

/-- Put a question to a filter. -/
def ask (filter : Filter) (query : Query) : Filter × Answer :=
  let (next, passes) := filter.shouldEmit query.target query.now
  (next,
    { query
      exempt := filter.isExempt query.target
      passes
      opens := next.sampler.tally.opened != filter.sampler.tally.opened })

/-- Put questions to a filter, one after the other. -/
def askAll (filter : Filter) : List Query → Filter × List Answer
  | [] => (filter, [])
  | query :: queries =>
    let (next, answer) := filter.ask query
    let (last, answers) := next.askAll queries
    (last, answer :: answers)

theorem isExempt_iff (filter : Filter) (target : String) :
    filter.isExempt target = true ↔ target ∈ filter.exempt :=
  List.contains_iff_mem

/-! ## One question -/

/-- The answer to a question, read off the target and the phase of the instant. -/
def answer (filter : Filter) (query : Query) : Answer :=
  if filter.isExempt query.target then ⟨query, true, true, false⟩
  else
    match phaseAt filter.sampler.cycle filter.sampler.lastStart query.now with
    | .active => ⟨query, false, true, false⟩
    | .dormant => ⟨query, false, false, false⟩
    | .eligible => ⟨query, false, true, true⟩

/-- All that a question does: the answer is counted, and where it opens a window the last window
starts at that instant. -/
theorem ask_eq (filter : Filter) (query : Query) :
    filter.ask query =
      ({ filter with
          sampler :=
            { filter.sampler with
              lastStart :=
                if (filter.answer query).opens then query.now else filter.sampler.lastStart
              tally := tallied filter.sampler.tally [filter.answer query] } },
        filter.answer query) := by
  cases exempt : filter.isExempt query.target with
  | true =>
      simp [ask, shouldEmit, answer, exempt, tallied, Sampler.countExempt, Answer.passed,
        Answer.suppressed]
  | false =>
      cases phase : phaseAt filter.sampler.cycle filter.sampler.lastStart query.now with
      | active | dormant =>
          simp [ask, shouldEmit, answer, exempt, phase, tallied, Sampler.decide,
            Sampler.decideSeen, Sampler.concluded, Tally.count, Answer.passed, Answer.suppressed]
      | eligible =>
          simp [ask, shouldEmit, answer, exempt, phase, tallied, Sampler.decide,
            Sampler.decideSeen, Sampler.openWindow?, Sampler.concluded, Tally.count,
            Answer.passed, Answer.suppressed]

section Ask

variable (filter : Filter) (query : Query)

@[simp]
theorem ask_snd : (filter.ask query).2 = filter.answer query := by rw [ask_eq]

@[simp]
theorem exempt_ask : (filter.ask query).1.exempt = filter.exempt := by rw [ask_eq]

@[simp]
theorem clock_ask : (filter.ask query).1.clock = filter.clock := by rw [ask_eq]

@[simp]
theorem cycle_ask : (filter.ask query).1.sampler.cycle = filter.sampler.cycle := by rw [ask_eq]

theorem lastStart_ask :
    (filter.ask query).1.sampler.lastStart =
      if (filter.answer query).opens then query.now else filter.sampler.lastStart := by
  rw [ask_eq]

theorem tally_ask :
    (filter.ask query).1.sampler.tally = tallied filter.sampler.tally [filter.answer query] := by
  rw [ask_eq]

theorem query_answer : (filter.answer query).query = query := by
  cases exempt : filter.isExempt query.target with
  | true => simp [answer, exempt]
  | false =>
      cases phase : phaseAt filter.sampler.cycle filter.sampler.lastStart query.now <;>
        simp [answer, exempt, phase]

theorem exempt_answer : (filter.answer query).exempt = filter.isExempt query.target := by
  cases exempt : filter.isExempt query.target with
  | true => simp [answer, exempt]
  | false =>
      cases phase : phaseAt filter.sampler.cycle filter.sampler.lastStart query.now <;>
        simp [answer, exempt, phase]

variable {filter query}

/-- No window is opened for an exempt event. -/
theorem not_opens_of_exempt (exempt : (filter.answer query).exempt = true) :
    (filter.answer query).opens = false := by
  rw [exempt_answer] at exempt
  rw [answer, if_pos exempt]

theorem answer_eq_of_opens (opened : (filter.answer query).opens = true) :
    filter.answer query = ⟨query, false, true, true⟩ := by
  cases exempt : filter.isExempt query.target with
  | true => simp [answer, exempt] at opened
  | false =>
      cases phase : phaseAt filter.sampler.cycle filter.sampler.lastStart query.now <;>
        simp_all [answer]

end Ask

/-! ## Filters that answer alike -/

/-- Two filters that differ at most in their tallies. -/
structure Alike (one other : Filter) : Prop where
  exempt : one.exempt = other.exempt
  cycle : one.sampler.cycle = other.sampler.cycle
  lastStart : one.sampler.lastStart = other.sampler.lastStart

namespace Alike

variable {one other third : Filter}

@[refl]
theorem refl (filter : Filter) : Alike filter filter := ⟨rfl, rfl, rfl⟩

theorem trans (first : Alike one other) (second : Alike other third) : Alike one third :=
  ⟨first.exempt.trans second.exempt, first.cycle.trans second.cycle,
    first.lastStart.trans second.lastStart⟩

theorem answer_eq (alike : Alike one other) (query : Query) :
    one.answer query = other.answer query := by
  rw [answer, answer, isExempt, isExempt, alike.exempt, alike.cycle, alike.lastStart]

theorem ask (alike : Alike one other) (query : Query) :
    Alike (one.ask query).1 (other.ask query).1 where
  exempt := by simpa using alike.exempt
  cycle := by simpa using alike.cycle
  lastStart := by rw [lastStart_ask, lastStart_ask, alike.answer_eq, alike.lastStart]

end Alike

/-- A question for which no window is opened leaves a filter that is alike. -/
theorem alike_ask_of_not_opens {filter : Filter} {query : Query}
    (stays : (filter.answer query).opens = false) : Alike (filter.ask query).1 filter where
  exempt := exempt_ask filter query
  cycle := cycle_ask filter query
  lastStart := by simp [lastStart_ask, stays]

/-! ## Runs of questions -/

theorem askAll_cons (filter : Filter) (query : Query) (queries : List Query) :
    filter.askAll (query :: queries) =
      (((filter.ask query).1.askAll queries).1,
        filter.answer query :: ((filter.ask query).1.askAll queries).2) := by
  rw [← ask_snd]
  rfl

theorem exempt_askAll (filter : Filter) (queries : List Query) :
    (filter.askAll queries).1.exempt = filter.exempt := by
  induction queries generalizing filter with
  | nil => rfl
  | cons query queries ih => rw [askAll_cons, ih, exempt_ask]

theorem clock_askAll (filter : Filter) (queries : List Query) :
    (filter.askAll queries).1.clock = filter.clock := by
  induction queries generalizing filter with
  | nil => rfl
  | cons query queries ih => rw [askAll_cons, ih, clock_ask]

theorem cycle_askAll (filter : Filter) (queries : List Query) :
    (filter.askAll queries).1.sampler.cycle = filter.sampler.cycle := by
  induction queries generalizing filter with
  | nil => rfl
  | cons query queries ih => rw [askAll_cons, ih, cycle_ask]

theorem tally_askAll (filter : Filter) (queries : List Query) :
    (filter.askAll queries).1.sampler.tally =
      tallied filter.sampler.tally (filter.askAll queries).2 := by
  induction queries generalizing filter with
  | nil => exact (tallied_nil _).symm
  | cons query queries ih =>
      rw [askAll_cons, ih, tally_ask, ← tallied_append]
      rfl

/-- Filters that are alike give the same answers throughout. -/
theorem Alike.askAll {one other : Filter} (alike : Alike one other) (queries : List Query) :
    (one.askAll queries).2 = (other.askAll queries).2 ∧
      Alike (one.askAll queries).1 (other.askAll queries).1 := by
  induction queries generalizing one other with
  | nil => exact ⟨rfl, alike⟩
  | cons query queries ih =>
      obtain ⟨sameAnswers, last⟩ := ih (alike.ask query)
      rw [askAll_cons, askAll_cons, sameAnswers, alike.answer_eq]
      exact ⟨rfl, last⟩

/-- Each answer of a run is given by a filter to one of the questions. -/
theorem exists_of_mem_askAll {filter : Filter} {queries : List Query} {given : Answer}
    (among : given ∈ (filter.askAll queries).2) :
    ∃ query ∈ queries, ∃ there : Filter, there.answer query = given := by
  induction queries generalizing filter with
  | nil => cases among
  | cons query queries ih =>
      rw [askAll_cons] at among
      rcases List.mem_cons.mp among with now | later
      · exact ⟨query, List.mem_cons_self, filter, now.symm⟩
      · obtain ⟨other, listed, answered⟩ := ih later
        exact ⟨other, List.mem_cons_of_mem _ listed, answered⟩

end Filter

end FlowGate.Snapshot
