/-
# Questions that leave no trace

Only a question for which a window is opened can change a later answer. Leave any others out of a
run, those about exempt targets and those that found a window open or none due, and the rest are
answered as before; the tally alone shows how many were left out.

The two runs are followed side by side. Where a question is put in both, filters that are alike stay
alike; where it is put in the full run only, that filter stays alike the other one by itself.
-/

import FlowGate.Proofs.Snapshot.Answers

namespace FlowGate.Snapshot

open Sampler (Tally)

/-! ## Parts of a run -/

/-- What stands at the chosen places of a list, in order. -/
def pick {α : Type} (chosen : Nat → Bool) : List α → List α
  | [] => []
  | first :: rest =>
    let rest := pick (fun place => chosen (place + 1)) rest
    if chosen 0 then first :: rest else rest

section Pick

variable {α : Type} {chosen : Nat → Bool}

theorem pick_cons_of_chosen (first : α) (rest : List α) (here : chosen 0 = true) :
    pick chosen (first :: rest) = first :: pick (fun place => chosen (place + 1)) rest :=
  if_pos here

theorem pick_cons_of_not_chosen (first : α) (rest : List α) (here : chosen 0 = false) :
    pick chosen (first :: rest) = pick (fun place => chosen (place + 1)) rest := by
  simp [pick, here]

/-- What is picked stands at a chosen place. -/
theorem exists_chosen_of_mem_pick {list : List α} {item : α} (picked : item ∈ pick chosen list) :
    ∃ place, chosen place = true ∧ list[place]? = some item := by
  induction list generalizing chosen with
  | nil => cases picked
  | cons first rest ih =>
      have later (among : item ∈ pick (fun place => chosen (place + 1)) rest) :
          ∃ place, chosen place = true ∧ (first :: rest)[place]? = some item := by
        obtain ⟨place, there, same⟩ := ih among
        exact ⟨place + 1, there, same⟩
      cases here : chosen 0 with
      | true =>
          rw [pick_cons_of_chosen first rest here] at picked
          rcases List.mem_cons.mp picked with same | among
          · exact ⟨0, here, congrArg some same.symm⟩
          · exact later among
      | false =>
          rw [pick_cons_of_not_chosen first rest here] at picked
          exact later picked

/-- The chosen places and the other ones make up the list. -/
theorem countP_pick_add_countP_pick (p : α → Bool) (chosen : Nat → Bool) (list : List α) :
    (pick (fun place => !chosen place) list).countP p + (pick chosen list).countP p =
      list.countP p := by
  induction list generalizing chosen with
  | nil => rfl
  | cons first rest ih =>
      have later := ih fun place => chosen (place + 1)
      cases here : chosen 0 with
      | true =>
          rw [pick_cons_of_chosen first rest here,
            pick_cons_of_not_chosen first rest (by rw [here]; rfl), List.countP_cons,
            List.countP_cons]
          omega
      | false =>
          rw [pick_cons_of_not_chosen first rest here,
            pick_cons_of_chosen first rest (by rw [here]; rfl), List.countP_cons,
            List.countP_cons]
          omega

end Pick

/-- Answers can be counted in two parts, whichever they are. -/
theorem tallied_pick (tally : Tally) (chosen : Nat → Bool) (answers : List Answer) :
    tallied (tallied tally (pick (fun place => !chosen place) answers)) (pick chosen answers) =
      tallied tally answers := by
  have parts (p : Answer → Bool) :=
    congrArg UInt64.ofNat (countP_pick_add_countP_pick p chosen answers)
  simp only [UInt64.ofNat_add] at parts
  simp only [tallied, UInt64.add_assoc, parts]

namespace Filter

/-! ## Two runs side by side -/

/-- Filters that are alike answer the kept questions alike, where no question that is left out
opened a window. -/
theorem Alike.askAll_pick {one other : Filter} (alike : Alike one other) (queries : List Query)
    (kept : Nat → Bool)
    (harmless : ∀ place answer, (one.askAll queries).2[place]? = some answer →
      kept place = false → answer.opens = false) :
    (other.askAll (pick kept queries)).2 = pick kept (one.askAll queries).2 ∧
      Alike (one.askAll queries).1 (other.askAll (pick kept queries)).1 := by
  induction queries generalizing one other kept with
  | nil => exact ⟨rfl, alike⟩
  | cons query queries ih =>
      rw [askAll_cons] at harmless
      have later : ∀ place answer, ((one.ask query).1.askAll queries).2[place]? = some answer →
          kept (place + 1) = false → answer.opens = false :=
        fun place answer => harmless (place + 1) answer
      cases here : kept 0 with
      | true =>
          obtain ⟨sameAnswers, last⟩ := ih (alike.ask query) _ later
          rw [pick_cons_of_chosen _ _ here, askAll_cons, askAll_cons,
            pick_cons_of_chosen _ _ here, alike.answer_eq, sameAnswers]
          exact ⟨rfl, last⟩
      | false =>
          have stays : (one.answer query).opens = false := harmless 0 _ rfl here
          rw [pick_cons_of_not_chosen _ _ here, askAll_cons, pick_cons_of_not_chosen _ _ here]
          exact ih ((alike_ask_of_not_opens stays).trans alike) _ later

/-- In a run a question about an exempt target is one about a configured text, and all that comes of
it is that the event passes and is counted apart. -/
theorem shouldEmit_askAll (filter : Filter) (queries : List Query) (target : String) :
    ((filter.askAll queries).1.isExempt target = true ↔ target ∈ filter.exempt) ∧
      (target ∈ filter.exempt → ∀ now,
        (filter.askAll queries).1.shouldEmit target now =
          ({ (filter.askAll queries).1 with
              sampler := (filter.askAll queries).1.sampler.countExempt }, true)) := by
  have same : (filter.askAll queries).1.isExempt target = true ↔ target ∈ filter.exempt := by
    rw [isExempt_iff, exempt_askAll]
  refine ⟨same, ?_⟩
  intro listed now
  rw [shouldEmit, if_pos (same.mpr listed)]

/-- Leave out of any run questions that each were about an exempt target or opened no window. Every
other question is answered as before, the last window starts where it did, and as many windows are
opened; the counts of passed, dropped and exempt events are lower by the questions of each kind that
were left out. Exempt are just the configured targets, not those that begin with one, and all that
an event from one of them does is to pass and to be counted as exempt. -/
theorem harmless_leave_no_trace (filter : Filter) (queries : List Query) (removed : Nat → Bool)
    (harmless : ∀ place answer, (filter.askAll queries).2[place]? = some answer →
      removed place = true → answer.exempt = true ∨ answer.opens = false) :
    let full := filter.askAll queries
    let rest := filter.askAll (pick (fun place => !removed place) queries)
    let gone := pick removed full.2
    rest.2 = pick (fun place => !removed place) full.2 ∧
      rest.1.sampler.lastStart = full.1.sampler.lastStart ∧
      rest.1.sampler.tally.opened = full.1.sampler.tally.opened ∧
      rest.1.sampler.tally.passed + UInt64.ofNat (gone.countP (·.passed)) =
        full.1.sampler.tally.passed ∧
      rest.1.sampler.tally.suppressed + UInt64.ofNat (gone.countP (·.suppressed)) =
        full.1.sampler.tally.suppressed ∧
      rest.1.sampler.tally.exempt + UInt64.ofNat (gone.countP (·.exempt)) =
        full.1.sampler.tally.exempt ∧
      ∀ before query after, queries = before ++ query :: after →
        let there := (filter.askAll before).1
        (there.isExempt query.target = true ↔ query.target ∈ filter.exempt) ∧
          (query.target ∈ filter.exempt → there.shouldEmit query.target query.now =
            ({ there with sampler := there.sampler.countExempt }, true)) := by
  intro full rest gone
  have unopened : ∀ place answer, full.2[place]? = some answer → removed place = true →
      answer.opens = false := by
    intro place answer there left
    rcases harmless place answer there left with exempt | stays
    · obtain ⟨query, -, asked, rfl⟩ := exists_of_mem_askAll (List.mem_of_getElem? there)
      exact not_opens_of_exempt exempt
    · exact stays
  obtain ⟨sameAnswers, alike⟩ : rest.2 = pick (fun place => !removed place) full.2 ∧
      Alike full.1 rest.1 := by
    apply (Alike.refl filter).askAll_pick queries
    intro place answer there left
    exact unopened place answer there (by simpa using left)
  have counted : tallied rest.1.sampler.tally gone = full.1.sampler.tally := by
    rw [tally_askAll, tally_askAll, sameAnswers]
    exact tallied_pick filter.sampler.tally removed full.2
  have noneOpened : gone.countP (·.opens) = 0 := by
    rw [List.countP_eq_zero]
    intro answer left
    obtain ⟨place, chosen, there⟩ := exists_chosen_of_mem_pick left
    simp [unopened place answer there chosen]
  refine ⟨sameAnswers, alike.lastStart.symm, ?_, congrArg Tally.passed counted,
    congrArg Tally.suppressed counted, congrArg Tally.exempt counted, ?_⟩
  · have opened := congrArg Tally.opened counted
    simpa [tallied, noneOpened] using opened
  · intro before query after _
    obtain ⟨same, passes⟩ := filter.shouldEmit_askAll before query.target
    exact ⟨same, fun listed => passes listed query.now⟩

/-- Five questions of which two open a window; the second comes inside the first window, the third
is about the exempt target, and the target of the fourth only begins with it. -/
def auditedQueries : List Query :=
  [⟨"app", 1000⟩, ⟨"app", 1050⟩, ⟨"app::audit", 1500⟩, ⟨"app::audit::detail", 1500⟩, ⟨"app", 2000⟩]

/-- The three questions for which no window is opened are left out, one of each kind. -/
theorem harmless_auditedQueries :
    let filter : Filter := { sampler := { cycle := ⟨100, 1000⟩ }, exempt := ["app::audit"] }
    let full := filter.askAll auditedQueries
    let removed : Nat → Bool := fun place => decide (place ∈ [1, 2, 3])
    let rest := filter.askAll (pick (fun place => !removed place) auditedQueries)
    let gone := pick removed full.2
    (∀ place answer, full.2[place]? = some answer → removed place = true →
        answer.exempt = true ∨ answer.opens = false) ∧
      full.2.map (·.opens) = [true, false, false, false, true] ∧
      full.2.map (·.exempt) = [false, false, true, false, false] ∧
      pick (fun place => !removed place) auditedQueries = [⟨"app", 1000⟩, ⟨"app", 2000⟩] ∧
      gone.countP (·.passed) = 1 ∧ gone.countP (·.suppressed) = 1 ∧ gone.countP (·.exempt) = 1 ∧
      rest.1.sampler.lastStart = full.1.sampler.lastStart ∧
      rest.1.sampler.tally.opened = full.1.sampler.tally.opened ∧
      rest.1.sampler.tally.passed + UInt64.ofNat (gone.countP (·.passed)) =
        full.1.sampler.tally.passed := by
  intro filter full removed rest gone
  have listed : ∀ place ∈ [1, 2, 3], ∀ answer ∈ full.2[place]?,
      answer.exempt = true ∨ answer.opens = false := by decide +kernel
  have harmless : ∀ place answer, full.2[place]? = some answer → removed place = true →
      answer.exempt = true ∨ answer.opens = false :=
    fun place answer there left => listed place (of_decide_eq_true left) answer there
  have agree := harmless_leave_no_trace filter auditedQueries removed harmless
  extract_lets at agree
  obtain ⟨-, starts, opened, passed, -⟩ := agree
  refine ⟨harmless, ?_, ?_, ?_, ?_, ?_, ?_, starts, opened, passed⟩
  all_goals decide +kernel

end Filter

end FlowGate.Snapshot
