/-
# Log, metrics and counts as one ledger

A limiter keeps three records that are written by different steps: the counts of its tiers, the log,
and the metrics. They agree with each other after every run. What was consumed of a tier is what it
still counts and what the log reports as given back; the log reports one delay for each call that
returned after it slept, and it is the delay with which the call returned; and the metrics hold what
the calls returned with since the metrics were started last.

None of this depends on the order in which callers step, on their clocks, or on calls that fail: a
call that fails leaves its units counted and appears in neither of the other records. Sums are sums
of words and wrap. Only the counts of tiers do not wrap but stay at the largest word, so that what
is said of a tier ends with its 2^64th unit.
-/

import FlowGate.Proofs.Limiter.Books
import FlowGate.Proofs.Limiter.Record
import Mathlib.Data.List.Perm.Basic

namespace FlowGate.Limiter

open Config (Rule)

/-! ## Metrics -/

/-- The metrics hold these delays, one for each call that returned. -/
structure Metrics.Hold (metrics : Metrics) (delays : List UInt64) : Prop where
  /-- Every call is counted. -/
  calls : metrics.calls.toNat = delays.length % 2 ^ 64
  /-- A call is delayed if its delay is not zero. -/
  delayed : metrics.delayed.toNat = delays.countP (· != 0) % 2 ^ 64
  /-- The delays are added up. -/
  totalDelay : metrics.totalDelay.toNat = (delays.map UInt64.toNat).sum % 2 ^ 64

namespace Metrics.Hold

variable {metrics : Metrics} {delays : List UInt64}

theorem fresh : Hold {} [] := ⟨rfl, rfl, rfl⟩

theorem record (hold : metrics.Hold delays) (delay : UInt64) :
    (metrics.record delay).Hold (delays ++ [delay]) := by
  have calls := hold.calls
  have delayed := hold.delayed
  have totalDelay := hold.totalDelay
  have one : (1 : UInt64).toNat = 1 := rfl
  by_cases none : delay = 0
  · subst none
    refine ⟨?_, ?_, ?_⟩
    · simp only [Metrics.record, if_pos, UInt64.toNat_add, one, List.length_append,
        List.length_singleton]
      omega
    · simpa [Metrics.record] using delayed
    · simpa [Metrics.record] using totalDelay
  · refine ⟨?_, ?_, ?_⟩
    · simp only [Metrics.record, if_neg none, UInt64.toNat_add, one, List.length_append,
        List.length_singleton]
      omega
    · have counted : [delay].countP (· != 0) = 1 := by simp [none]
      simp only [Metrics.record, if_neg none, UInt64.toNat_add, one, List.countP_append, counted]
      omega
    · simp only [Metrics.record, if_neg none, UInt64.toNat_add, List.map_append, List.map_cons,
        List.map_nil, List.sum_append, List.sum_cons, List.sum_nil]
      omega

theorem after (hold : metrics.Hold delays) (progress : Progress) :
    (metrics.after progress).Hold (delays ++ progress.delay?.toList) := by
  cases progress with
  | returned delay => exact hold.record delay
  | underway stage => simpa [Metrics.after, Progress.delay?] using hold
  | failed stage cause => simpa [Metrics.after, Progress.delay?] using hold

end Metrics.Hold

/-! ## Delays -/

/-- The delays that the log reports, in order. -/
def reportedDelays (deeds : List Deed) : List UInt64 :=
  (deeds.flatMap Deed.events).filterMap LogEvent.delay?

/-- The delays with which calls returned, in the order of their return. -/
def returnedDelays (deeds : List Deed) : List UInt64 := deeds.filterMap (·.progress.delay?)

/-- Whether some deed of a caller left it asleep. -/
def hasSlept (caller : Nat) (deeds : List Deed) : Bool :=
  deeds.any fun deed => deed.caller == caller && deed.progress.sleeps

section Append

variable (past more : List Deed) (deed : Deed)

theorem reportedDelays_append : reportedDelays (past ++ more) =
    reportedDelays past ++ reportedDelays more := by
  simp [reportedDelays]

theorem returnedDelays_append : returnedDelays (past ++ more) =
    returnedDelays past ++ returnedDelays more := List.filterMap_append

theorem reportedDelays_singleton :
    reportedDelays [deed] = deed.events.filterMap LogEvent.delay? := by
  simp [reportedDelays]

theorem returnedDelays_singleton : returnedDelays [deed] = deed.progress.delay?.toList := by
  cases returned : deed.progress.delay? <;> simp [returnedDelays, returned]

end Append

/-- What is known of each call, in any order, when one of them that had nothing to show changes. -/
theorem perm_filterMap_set {calls : List Call} {caller : Nat} {call : Call} {shown : List UInt64}
    {shows : Call → Option UInt64} (found : calls[caller]? = some call)
    (nothing : shows call = none) (known : shown.Perm (calls.filterMap shows)) (next : Call) :
    (shown ++ (shows next).toList).Perm ((calls.set caller next).filterMap shows) := by
  obtain ⟨inside, rfl⟩ := List.getElem?_eq_some_iff.mp found
  have before : (calls.filterMap shows).Perm ((calls.eraseIdx caller).filterMap shows) := by
    have same := (List.getElem_cons_eraseIdx_perm inside).filterMap shows
    rw [List.filterMap_cons_none nothing] at same
    exact same.symm
  have after : ((calls.set caller next).filterMap shows).Perm
      ((shows next).toList ++ (calls.eraseIdx caller).filterMap shows) := by
    have same := (List.set_perm_cons_eraseIdx inside next).filterMap shows
    cases shown : shows next with
    | none => rwa [List.filterMap_cons_none shown] at same
    | some delay => rwa [List.filterMap_cons_some shown] at same
  calc
    (shown ++ (shows next).toList).Perm
        ((calls.eraseIdx caller).filterMap shows ++ (shows next).toList) :=
      (known.trans before).append_right _
    List.Perm _ ((shows next).toList ++ (calls.eraseIdx caller).filterMap shows) :=
      List.perm_append_comm
    List.Perm _ ((calls.set caller next).filterMap shows) := after.symm

/-- What the deeds so far and the calls of a crowd say of each other. -/
structure Ledger (crowd : Crowd) (past : List Deed) : Prop where
  /-- Nobody has done anything who has not turned up. -/
  present : ∀ deed ∈ past, deed.caller < crowd.calls.length
  /-- A call that sleeps next has its flag up. -/
  flagged : ∀ call ∈ crowd.calls, call.progress.sleeps = true → call.slept = true
  /-- The flag of a call tells whether it has slept. -/
  slept_eq : ∀ caller call, crowd.calls[caller]? = some call → call.slept = hasSlept caller past
  /-- The log has the delay of every call that returned after it slept. -/
  reported : (reportedDelays past).Perm (crowd.calls.filterMap Call.delayAfterSleep?)
  /-- The deeds show the delay of every call that returned. -/
  returned : (returnedDelays past).Perm (crowd.calls.filterMap (·.progress.delay?))

namespace Ledger

variable {crowd : Crowd} {past : List Deed}

theorem fresh (limiter : Limiter) : Ledger { limiter } [] where
  present := by simp
  flagged := by simp
  slept_eq := by simp
  reported := .nil
  returned := .nil

/-- Another caller turns up. -/
theorem join (ledger : Ledger crowd past) : Ledger (crowd.move .join).1 past where
  present deed listed := by
    have known := ledger.present deed listed
    show deed.caller < (crowd.calls ++ [Call.fresh]).length
    rw [List.length_append]
    omega
  flagged call listed sleeps := by
    rcases List.mem_append.mp listed with old | new
    · exact ledger.flagged call old sleeps
    · rw [List.mem_singleton.mp new] at sleeps
      cases sleeps
  slept_eq caller call found := by
    rw [Crowd.move, List.getElem?_append] at found
    split at found
    · exact ledger.slept_eq caller call found
    · next beyond =>
      obtain rfl := List.mem_singleton.mp (List.mem_of_getElem? found)
      symm
      refine List.any_eq_false.mpr fun deed listed => ?_
      have known := ledger.present deed listed
      have other : (deed.caller == caller) = false := beq_false_of_ne (by omega)
      simp [other]
  reported := by simpa [Crowd.move, Call.fresh, Call.delayAfterSleep?] using ledger.reported
  returned := by simpa [Crowd.move, Call.fresh, Progress.delay?] using ledger.returned

/-- A call takes a step. -/
theorem step (ledger : Ledger crowd past) {caller : Nat} {call : Call} {stage : Stage}
    (reading : Option UInt64) (found : crowd.calls[caller]? = some call)
    (standing : call.progress = .underway stage) :
    Ledger (crowd.move (.step caller reading)).1
      (past ++ (crowd.move (.step caller reading)).2.toList) := by
  have inside : caller < crowd.calls.length := (List.getElem?_eq_some_iff.mp found).1
  have asleep := ledger.flagged call (List.mem_of_getElem? found)
  have slept : (crowd.limiter.step call reading).call.slept =
      (call.slept || (crowd.limiter.step call reading).call.progress.sleeps) :=
    slept_step standing asleep reading
  have pending : call.progress.delay? = none := by simp [standing, Progress.delay?]
  rw [Crowd.move_step reading found standing]
  refine ⟨?_, ?_, ?_, ?_, ?_⟩
  · refine List.forall_mem_append.mpr ⟨?_, ?_⟩ <;> simp only [List.length_set]
    · exact ledger.present
    · simpa using inside
  · intro other listed sleeps
    rcases List.mem_or_eq_of_mem_set listed with old | rfl
    · exact ledger.flagged other old sleeps
    · rw [slept, sleeps, Bool.or_true]
  · intro other known listed
    rw [hasSlept, List.any_append]
    by_cases same : caller = other
    · subst same
      rw [List.getElem?_set_self inside] at listed
      cases listed
      rw [slept, ledger.slept_eq caller call found, hasSlept]
      simp
    · rw [List.getElem?_set_ne same] at listed
      rw [ledger.slept_eq other known listed, hasSlept]
      simp [same]
  · rw [reportedDelays_append, Option.toList_some, reportedDelays_singleton]
    show (_ ++ (crowd.limiter.step call reading).events.filterMap LogEvent.delay?).Perm _
    rw [delays_step standing reading]
    exact perm_filterMap_set found (by simp [Call.delayAfterSleep?, pending]) ledger.reported _
  · rw [returnedDelays_append, Option.toList_some, returnedDelays_singleton]
    exact perm_filterMap_set found pending ledger.returned
      (crowd.limiter.step call reading).call

/-- Every move keeps the ledger. -/
theorem move (ledger : Ledger crowd past) (move : Move) :
    Ledger (crowd.move move).1 (past ++ (crowd.move move).2.toList) := by
  cases move with
  | join => simpa [Crowd.move] using ledger.join
  | resetMetrics =>
      show Ledger { crowd with limiter := crowd.limiter.resetMetrics } (past ++ [])
      rw [List.append_nil]
      exact ⟨ledger.present, ledger.flagged, ledger.slept_eq, ledger.reported, ledger.returned⟩
  | step caller reading =>
      by_cases acts : ∃ call stage, crowd.calls[caller]? = some call ∧
          call.progress = .underway stage
      · obtain ⟨call, stage, found, standing⟩ := acts
        exact ledger.step reading found standing
      · rw [Crowd.move_step_of_ended reading fun call stage found standing =>
          acts ⟨call, stage, found, standing⟩]
        simpa using ledger

/-- Every run keeps the ledger. -/
theorem play (ledger : Ledger crowd past) (moves : List Move) :
    Ledger (crowd.play moves).1 (past ++ (crowd.play moves).2) := by
  induction moves generalizing crowd past with
  | nil => simpa [Crowd.play] using ledger
  | cons move moves ih => simpa [Crowd.play, List.append_assoc] using ih (ledger.move move)

end Ledger

/-! ## Metrics since they were started last -/

namespace Crowd

variable {crowd : Crowd} {delays : List UInt64}

/-- A move that does not start the metrics afresh adds the delay of a call that returns. -/
theorem hold_move {move : Move} (goesOn : move ≠ .resetMetrics)
    (hold : crowd.limiter.metrics.Hold delays) :
    (crowd.move move).1.limiter.metrics.Hold
      (delays ++ returnedDelays (crowd.move move).2.toList) := by
  cases move with
  | join => simpa [Crowd.move, returnedDelays] using hold
  | resetMetrics => exact absurd rfl goesOn
  | step caller reading =>
      by_cases acts : ∃ call stage, crowd.calls[caller]? = some call ∧
          call.progress = .underway stage
      · obtain ⟨call, stage, found, standing⟩ := acts
        rw [move_step reading found standing, Option.toList_some, returnedDelays_singleton]
        show (crowd.limiter.step call reading).limiter.metrics.Hold _
        rw [metrics_step standing reading]
        exact hold.after _
      · rw [move_step_of_ended reading fun call stage found standing =>
          acts ⟨call, stage, found, standing⟩]
        simpa [returnedDelays] using hold

theorem hold_play {moves : List Move} (goesOn : .resetMetrics ∉ moves)
    (hold : crowd.limiter.metrics.Hold delays) :
    (crowd.play moves).1.limiter.metrics.Hold (delays ++ returnedDelays (crowd.play moves).2) := by
  induction moves generalizing crowd delays with
  | nil => simpa [play, returnedDelays] using hold
  | cons move moves ih =>
      rw [List.mem_cons, not_or] at goesOn
      have next := ih goesOn.2 (hold_move (Ne.symm goesOn.1) hold)
      rwa [List.append_assoc, ← returnedDelays_append] at next

/-- What a deed reports is true right after it: of a credit, what is left of the count; of a delay,
that the call returned with it. -/
theorem events_move {move : Move} {deed : Deed} (done : (crowd.move move).2 = some deed) :
    (∀ place units remaining, .tierCredited place units remaining ∈ deed.events →
      ∃ tier, (crowd.move move).1.limiter.tiers[place]? = some tier ∧ tier.count = remaining) ∧
    ∀ delay, .callerDelayed delay ∈ deed.events → deed.progress = .returned delay := by
  cases move with
  | join => cases done
  | resetMetrics => cases done
  | step caller reading =>
      by_cases acts : ∃ call stage, crowd.calls[caller]? = some call ∧
          call.progress = .underway stage
      · obtain ⟨call, stage, found, standing⟩ := acts
        rw [move_step reading found standing] at done ⊢
        cases done
        exact ⟨fun place units remaining => remaining_step standing,
          fun delay => returned_of_reported standing⟩
      · rw [move_step_of_ended reading fun call stage found standing =>
          acts ⟨call, stage, found, standing⟩] at done
        cases done

end Crowd

/-- After every run of a limiter that was built, log, metrics and counts agree. Of every tier that
was charged fewer than 2^64 times, what was consumed is what it counts and what the log reports as
given back. Every report of a credit shows the count right after it, and every report of a delay the
delay with which its caller returned. There is one report of a delay for each call that returned
after it slept, that is, after some deed left it blocked. And the metrics hold the delays of the
calls that returned since the metrics were started last. -/
theorem records_agree {settings : List Setting} {start : UInt64} {limiter : Limiter}
    (built : build settings start = .ok limiter) (moves : List Move) :
    let crowd := (Crowd.play { limiter } moves).1
    let deeds := (Crowd.play { limiter } moves).2
    (∀ place rule, limiter.rules[place]? = some rule → chargesAt place deeds < 2 ^ 64 →
      ∃ tier, crowd.limiter.tiers[place]? = some tier ∧
        chargesAt place deeds = tier.count.toNat + creditsAt place deeds) ∧
    (∀ early move, early ++ [move] <+: moves →
      let sofar := (Crowd.play { limiter } early).1
      ∀ deed ∈ (sofar.move move).2,
        (∀ place units remaining, .tierCredited place units remaining ∈ deed.events →
          ∃ tier, (sofar.move move).1.limiter.tiers[place]? = some tier ∧
            tier.count = remaining) ∧
        ∀ delay, .callerDelayed delay ∈ deed.events → deed.progress = .returned delay) ∧
    (reportedDelays deeds).Perm
      ((crowd.calls.filter (·.slept)).filterMap (·.progress.delay?)) ∧
    (∀ caller call, crowd.calls[caller]? = some call → call.slept = hasSlept caller deeds) ∧
    (returnedDelays deeds).Perm (crowd.calls.filterMap (·.progress.delay?)) ∧
    ∀ early late, moves = early ++ late →
      (early = [] ∨ ∃ before, early = before ++ [.resetMetrics]) → .resetMetrics ∉ late →
      crowd.limiter.metrics.Hold
        (returnedDelays ((Crowd.play { limiter } early).1.play late).2) := by
  intro crowd deeds
  have ledger : Ledger crowd deeds := by
    simpa using (Ledger.fresh limiter).play moves
  refine ⟨?_, ?_, ?_, ledger.slept_eq, ledger.returned, ?_⟩
  · intro place rule listed few
    obtain ⟨tier, here, books⟩ := books_of_build built moves listed
    exact ⟨tier, here, (books.balance few).symm⟩
  · intro early move _ sofar deed done
    exact Crowd.events_move done
  · rw [List.filterMap_filter]
    exact ledger.reported
  · rintro early late rfl begins goesOn
    have afresh : (Crowd.play { limiter } early).1.limiter.metrics.Hold [] := by
      rcases begins with rfl | ⟨before, rfl⟩
      · obtain ⟨-, rfl⟩ := (build_eq_ok_iff _ _ _).mp built
        exact .fresh
      · rw [Crowd.play_append_singleton]
        exact .fresh
    have hold := Crowd.hold_play goesOn afresh
    show (Crowd.play { limiter } (early ++ late)).1.limiter.metrics.Hold _
    rw [Crowd.play_append]
    exact hold

/-- Three callers at a tier for one unit a second: the first goes on at once and returns, the others
are blocked. -/
def oneReturns : List Move :=
  [.join, .step 0 (some 0), .step 0 (some 0), .step 0 none, .join, .step 1 (some 100),
    .step 1 (some 100), .join, .step 2 (some 200), .step 2 (some 200)]

/-- The clock of one blocked caller fails; the other one is released, and returns. -/
def oneFails : List Move := [.step 2 none, .step 1 (some 2500), .step 1 (some 2500)]

/-- The metrics are started afresh after the first call. In the end, three units were consumed, of
which two were given back, also that of the call that failed; the log has one delay; and the metrics
have the second call only. -/
theorem records_agree_oneFails :
    let rule : Rule := ⟨1, 1000⟩
    let limiter := ofRules [rule] 0
    let early := oneReturns ++ [.resetMetrics]
    let crowd := (Crowd.play { limiter } (early ++ oneFails)).1
    let deeds := (Crowd.play { limiter } (early ++ oneFails)).2
    build [.list [rule]] 0 = .ok limiter ∧ limiter.rules[0]? = some rule ∧
      chargesAt 0 deeds = 3 ∧ creditsAt 0 deeds = 2 ∧
      (∃ tier, crowd.limiter.tiers[0]? = some tier ∧
        chargesAt 0 deeds = tier.count.toNat + creditsAt 0 deeds) ∧
      reportedDelays deeds = [2400] ∧ returnedDelays deeds = [0, 2400] ∧
      (reportedDelays deeds).Perm
        ((crowd.calls.filter (·.slept)).filterMap (·.progress.delay?)) ∧
      .resetMetrics ∉ oneFails ∧ crowd.limiter.metrics = ⟨1, 1, 2400⟩ ∧
      crowd.limiter.metrics.Hold
        (returnedDelays ((Crowd.play { limiter } early).1.play oneFails).2) := by
  intro rule limiter early crowd deeds
  have built : build [.list [rule]] 0 = .ok limiter := rfl
  have listed : limiter.rules[0]? = some rule := rfl
  have charged : chargesAt 0 deeds = 3 := by decide +kernel
  have given : creditsAt 0 deeds = 2 := by decide +kernel
  have few : chargesAt 0 deeds < 2 ^ 64 := by decide +kernel
  have logged : reportedDelays deeds = [2400] := by decide +kernel
  have ended : returnedDelays deeds = [0, 2400] := by decide +kernel
  have observed : crowd.limiter.metrics = ⟨1, 1, 2400⟩ := by decide +kernel
  have goesOn : .resetMetrics ∉ oneFails := by decide
  have agree := records_agree built (early ++ oneFails)
  extract_lets at agree
  obtain ⟨balance, -, reported, -, -, metrics⟩ := agree
  exact ⟨built, listed, charged, given, balance 0 rule listed few, logged, ended, reported, goesOn,
    observed, metrics early oneFails rfl (Or.inr ⟨oneReturns, rfl⟩) goesOn⟩

end FlowGate.Limiter
