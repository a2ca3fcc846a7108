/-
# How often a sampler lets events through

Whoever passes does so within a window: the one that it saw, or the one that it opens. Windows
start at least a period apart. So of the instants of any period's length, wherever it begins, as
many at most let events through as a single window has; where the period cuts two windows, what it
takes of the later one it leaves out of the earlier.
-/

import FlowGate.Proofs.Sampler.Succession
import Mathlib.Data.Finset.Card
import Mathlib.Data.List.Pairwise

namespace FlowGate.Sampler

open Config (Cycle)

/-- The clock readings at which some caller passed. -/
def passInstants (past : List Settlement) : Finset Nat :=
  ((past.filter (·.decision == .pass)).map (·.sighting.now.toNat)).toFinset

theorem mem_passInstants {past : List Settlement} {instant : Nat} :
    instant ∈ passInstants past ↔
      ∃ settlement ∈ past, settlement.decision = .pass ∧
        settlement.sighting.now.toNat = instant := by
  simp [passInstants, and_assoc]

/-- Of two starts, one comes at least a period after the other. -/
def Apart (cycle : Cycle) (one other : Nat) : Prop :=
  one + cycle.period.toNat ≤ other ∨ other + cycle.period.toNat ≤ one

instance (cycle : Cycle) : Std.Symm (Apart cycle) := ⟨fun _ _ => Or.symm⟩

namespace Chronicle

variable {cycle : Cycle} {contest : Contest} {past : List Settlement}

/-- Whoever passes does so in a window that was opened, or in the one that began at zero. -/
theorem exists_window (chronicle : Chronicle cycle contest past)
    (lasting : 0 < cycle.window.toNat) {instant : Nat} (passes : instant ∈ passInstants past) :
    ∃ start ∈ starts cycle past, start ≤ instant ∧ instant < start + cycle.window.toNat := by
  obtain ⟨settlement, listed, pass, rfl⟩ := mem_passInstants.mp passes
  have sound := chronicle.sound settlement listed
  by_cases opens : settlement.opens cycle = true
  · refine ⟨settlement.after.toNat, ?_, ?_⟩
    · exact List.mem_cons_of_mem _
        (List.mem_map_of_mem (List.mem_filter.mpr ⟨listed, opens⟩))
    · rw [(sound.of_opens opens).2]
      exact ⟨Nat.le_refl _, Nat.lt_add_of_pos_right lasting⟩
  · have ⟨below, known⟩ := chronicle.seen _
      (List.mem_append_right _ (List.mem_map_of_mem listed))
    exact ⟨_, known, (active_iff below _ _).mp (sound.active_of_pass opens pass)⟩

theorem apart (chronicle : Chronicle cycle contest past) {one other : Nat}
    (first : one ∈ starts cycle past) (second : other ∈ starts cycle past)
    (different : one ≠ other) : Apart cycle one other := by
  have spread : (starts cycle past).Pairwise (Apart cycle) := chronicle.spaced.imp Or.inl
  exact spread.forall first second different

end Chronicle

/-- In every run of a sampler that was built in which no clock shows the largest word, callers pass
at no more different instants of any stretch of a period's length than a window has. -/
theorem card_passInstants_le_window {cycle : Cycle} {sampler : Sampler}
    (built : build cycle = .ok sampler) (moves : List Move)
    (readable : ∀ now, Move.sight now ∈ moves → now < Word.top) (first : Nat) :
    ((passInstants (Contest.play { sampler } moves).2).filter fun instant =>
      first ≤ instant ∧ instant < first + cycle.period.toNat).card ≤ cycle.window.toNat := by
  have chronicle := chronicle_of_build built moves readable
  have lasting := ((build_eq_ok_iff _ _).mp built).1.window_pos
  choose! start known begun ends using fun (instant : Nat)
      (passes : instant ∈ passInstants (Contest.play { sampler } moves).2) =>
    chronicle.exists_window lasting passes
  -- An instant is told by how far into its window it falls.
  rw [← Finset.card_range cycle.window.toNat]
  refine Finset.card_le_card_of_injOn (fun instant => instant - start instant) ?_ ?_
  · intro instant listed
    have passes := (Finset.mem_filter.mp listed).1
    have := begun instant passes
    have := ends instant passes
    simp only [Finset.coe_range, Set.mem_Iio]
    omega
  · intro one oneListed other otherListed equal
    obtain ⟨onePasses, oneFrom, oneTo⟩ := Finset.mem_filter.mp oneListed
    obtain ⟨otherPasses, otherFrom, otherTo⟩ := Finset.mem_filter.mp otherListed
    have oneBegun := begun one onePasses
    have otherBegun := begun other otherPasses
    simp only at equal
    by_cases same : start one = start other
    · omega
    · rcases chronicle.apart (known one onePasses) (known other otherPasses) same <;> omega

/-- One caller passes in the window from zero and another sees it, but acts only after a third has
opened the next window, at 5. -/
def lateCaller : List Move :=
  [.sight 0, .settle 0, .sight 1, .sight 5, .settle 1, .settle 0, .sight 6, .settle 0,
    .sight 7, .settle 0]

/-- For a window of two milliseconds out of five, callers pass at four instants, and at no more
than two of those from 1 to 5, which cut both windows. -/
theorem card_passInstants_lateCaller :
    let cycle : Cycle := ⟨2, 5⟩
    let sampler : Sampler := { cycle }
    let past := (Contest.play { sampler } lateCaller).2
    build cycle = .ok sampler ∧
      (∀ now, Move.sight now ∈ lateCaller → now < Word.top) ∧
      passInstants past = {0, 1, 5, 6} ∧
      ((passInstants past).filter fun instant =>
        1 ≤ instant ∧ instant < 1 + cycle.period.toNat).card ≤ cycle.window.toNat := by
  intro cycle sampler past
  have built : build cycle = .ok sampler := rfl
  have readable : ∀ now, Move.sight now ∈ lateCaller → now < Word.top := by
    simp only [lateCaller, List.mem_cons, Move.sight.injEq, reduceCtorEq, List.not_mem_nil,
      false_or, or_false]
    rintro now (rfl | rfl | rfl | rfl | rfl) <;> decide
  exact ⟨built, readable, by decide +kernel,
    card_passInstants_le_window built lateCaller readable 1⟩

end FlowGate.Sampler
