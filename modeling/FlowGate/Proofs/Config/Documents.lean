/-
# What the configuration documents are

For each kind of configuration, the texts that are documents of it: one value with nothing but
blanks around it, which is a list of the fields or an object of them. An object names its fields by
keys as text, however the text is escaped, in any order, and other keys may have any values; a key
that it gives twice makes it no document at all. Rules need their fields and cycles do not.

This holds with every library that decodes as documented. What it is told of configurations are
their declarations, so these texts are what the declarations mean: which keys there are, which of
them may be left out and what stands in for them then.
-/

import FlowGate.Config.Document
import FlowGate.Proofs.Json.Library

namespace FlowGate.Config

open Json

/-! ## How configurations are written -/

/-- A rule is written as its quota and its period, or as an object with both of them. -/
def Rule.IsWritten (rule : Rule) (text : List Char) : Prop :=
  IsListOf IsWord [rule.quota, rule.period] text ∨
  ∃ members, IsObject members text ∧
    Gives IsWord members "max_count" (some rule.quota) ∧
    Gives IsWord members "period_millis" (some rule.period) ∧
    ∀ member ∈ members, member.1 ≠ "max_count" → member.1 ≠ "period_millis" → IsValue member.2

/-- A list of rules is written as the only element of a list, or as an object with it. -/
def Rule.IsListWritten (rules : List Rule) (text : List Char) : Prop :=
  IsListOf (IsListOf Rule.IsWritten) [rules] text ∨
  ∃ members, IsObject members text ∧
    Gives (IsListOf Rule.IsWritten) members "tiers" (some rules) ∧
    ∀ member ∈ members, member.1 ≠ "tiers" → IsValue member.2

/-- A cycle is written as a list of at most two words, or as an object with at most its two keys. A
window that is not given is one second, and a period that is not given is one minute. -/
def Cycle.IsWritten (cycle : Cycle) (text : List Char) : Prop :=
  (∃ words : List UInt64, words.length ≤ 2 ∧ IsListOf IsWord words text ∧
    cycle = ⟨words[0]?.getD 1000, words[1]?.getD 60000⟩) ∨
  ∃ members window period, IsObject members text ∧
    Gives IsWord members "window_millis" window ∧
    Gives IsWord members "period_millis" period ∧
    (∀ member ∈ members, member.1 ≠ "window_millis" → member.1 ≠ "period_millis" →
      IsValue member.2) ∧
    cycle = ⟨window.getD 1000, period.getD 60000⟩

/-! ## The declarations say the same -/

/-- A rule is made of both of its fields. -/
theorem Rule.complete_eq_some_iff {quota period : Option UInt64} {rule : Rule} :
    Rule.declaration.complete [quota, period] = some rule ↔
      quota = some rule.quota ∧ period = some rule.period := by
  constructor
  · intro made
    cases quota with
    | none => cases made
    | some quota =>
        cases period with
        | none => cases made
        | some period =>
            cases made
            exact ⟨rfl, rfl⟩
  · rintro ⟨rfl, rfl⟩
    rfl

theorem Rule.written_iff {rule : Rule} {text : List Char} :
    Rule.shape.Written rule text ↔ rule.IsWritten text := by
  constructor
  · rintro (⟨elements, bound, isList, made⟩ | ⟨members, fields, object, others, found, made⟩)
    · obtain _ | ⟨quota, _ | ⟨period, _ | ⟨_, _⟩⟩⟩ := elements
      · cases made
      · cases made
      · cases made
        exact .inl isList
      · exact absurd bound (by simp [Rule.declaration])
    · obtain _ | ⟨quotaGiven, _ | ⟨periodGiven, ⟨⟩⟩⟩ := Declaration.found_iff_forall₂.mp found
      obtain ⟨rfl, rfl⟩ := Rule.complete_eq_some_iff.mp made
      refine .inr ⟨members, object, quotaGiven, periodGiven, ?_⟩
      intro member listed noQuota noPeriod
      exact others member listed (by simp [Rule.declaration, noQuota, noPeriod])
  · rintro (isList | ⟨members, object, quotaGiven, periodGiven, others⟩)
    · exact .inl ⟨_, Nat.le_refl _, isList, rfl⟩
    · refine .inr ⟨members, _, object, fun member listed other => ?_,
        Declaration.found_iff_forall₂.mpr (.cons quotaGiven (.cons periodGiven .nil)), rfl⟩
      simp only [Rule.declaration, List.mem_cons, List.not_mem_nil, or_false, not_or] at other
      exact others member listed other.1 other.2

theorem Rule.written_list_iff {rules : List Rule} {text : List Char} :
    Rule.listShape.Written rules text ↔ Rule.IsListWritten rules text := by
  have items : Rule.shape.Written = Rule.IsWritten := by
    funext rule part
    exact propext Rule.written_iff
  rw [Rule.listShape, Shape.Written, Shape.Written, items]
  constructor
  · rintro (⟨elements, bound, isList, made⟩ | ⟨members, fields, object, others, found, made⟩)
    · obtain _ | ⟨_, _ | ⟨_, _⟩⟩ := elements
      · cases made
      · cases made
        exact .inl isList
      · exact absurd bound (by simp [Rule.listDeclaration])
    · obtain _ | @⟨_, tiers, _, _, given, ⟨⟩⟩ := Declaration.found_iff_forall₂.mp found
      cases tiers with
      | none => cases made
      | some tiers =>
          cases made
          refine .inr ⟨members, object, given, fun member listed other => ?_⟩
          exact others member listed (by simp [Rule.listDeclaration, other])
  · rintro (isList | ⟨members, object, given, others⟩)
    · exact .inl ⟨_, Nat.le_refl _, isList, rfl⟩
    · refine .inr ⟨members, _, object, fun member listed other => ?_,
        Declaration.found_iff_forall₂.mpr (.cons given .nil), rfl⟩
      exact others member listed (List.ne_of_not_mem_cons other)

theorem Cycle.written_iff {cycle : Cycle} {text : List Char} :
    Cycle.shape.Written cycle text ↔ cycle.IsWritten text := by
  constructor
  · rintro (⟨elements, bound, isList, made⟩ | ⟨members, fields, object, others, found, made⟩)
    · refine .inl ⟨elements, bound, isList, ?_⟩
      obtain _ | ⟨window, _ | ⟨period, _ | ⟨_, _⟩⟩⟩ := elements
      · cases made
        rfl
      · cases made
        rfl
      · cases made
        rfl
      · exact absurd bound (by simp [Cycle.declaration])
    · obtain _ | ⟨windowGiven, _ | ⟨periodGiven, ⟨⟩⟩⟩ := Declaration.found_iff_forall₂.mp found
      cases made
      refine .inr ⟨members, _, _, object, windowGiven, periodGiven, ?_, rfl⟩
      intro member listed noWindow noPeriod
      exact others member listed (by simp [Cycle.declaration, noWindow, noPeriod])
  · rintro (⟨words, bound, isList, rfl⟩ |
      ⟨members, window, period, object, windowGiven, periodGiven, others, rfl⟩)
    · refine .inl ⟨words, bound, isList, ?_⟩
      obtain _ | ⟨window, _ | ⟨period, _ | ⟨_, _⟩⟩⟩ := words
      · rfl
      · rfl
      · rfl
      · exact absurd bound (by simp)
    · refine .inr ⟨members, _, object, fun member listed other => ?_,
        Declaration.found_iff_forall₂.mpr (.cons windowGiven (.cons periodGiven .nil)), rfl⟩
      simp only [Cycle.declaration, List.mem_cons, List.not_mem_nil, or_false, not_or] at other
      exact others member listed other.1 other.2

/-! ## Documents -/

/-- Whatever library decodes it, as long as it does as documented: a text is decoded to a rule, to a
list of rules or to a cycle if it is a document of that configuration, and only then. -/
theorem ofText_eq_ok_iff_isDocument {library : Library} (documented : library.Documented)
    (text : String) :
    (∀ rule, Rule.ofText library text = .ok rule ↔ IsDocument rule.IsWritten text.toList) ∧
    (∀ rules, Rule.listOfText library text = .ok rules ↔
      IsDocument (Rule.IsListWritten rules) text.toList) ∧
    (∀ cycle, Cycle.ofText library text = .ok cycle ↔
      IsDocument cycle.IsWritten text.toList) := by
  refine ⟨fun rule => ?_, fun rules => ?_, fun cycle => ?_⟩
  · rw [Rule.ofText, documented.decode_eq_ok_iff]
    exact isDocument_congr fun _ => Rule.written_iff
  · rw [Rule.listOfText, documented.decode_eq_ok_iff]
    exact isDocument_congr fun _ => Rule.written_list_iff
  · rw [Cycle.ofText, documented.decode_eq_ok_iff]
    exact isDocument_congr fun _ => Cycle.written_iff

/-- A rule as an object: the keys the other way round, one of them escaped, and a third one with
lists and objects in it. -/
def ruleObject : String :=
  " \x7b\"period_millis\": 1000, \"note\": [1.5e3, \x7b\"a\": [null, -0]\x7d], " ++
    "\"max\\u005fcount\": 18446744073709551615 \x7d\n"

/-- A rule as an object that gives a key twice, once escaped. -/
def twiceQuota : String :=
  "\x7b\"max_count\": 15, \"period_millis\": 1000, \"max\\u005Fcount\": 15\x7d"

/-- A list of rules as an object. One of them is written as a list, and the other as an object. -/
def ruleLists : String :=
  "\x7b\"tiers\": [[15, 1000], \x7b\"max_count\": 1000, \"period_millis\": 60000\x7d]\x7d"

/-- What the readers make of some documents and of some texts that are none. -/
theorem ofText_eq_ok_iff_isDocument_reading :
    Library.reading.Documented ∧
      IsDocument (Rule.IsWritten ⟨18446744073709551615, 1000⟩) ruleObject.toList ∧
      (∀ rule : Rule, ¬ IsDocument rule.IsWritten twiceQuota.toList) ∧
      IsDocument (Rule.IsListWritten [⟨15, 1000⟩, ⟨1000, 60000⟩]) ruleLists.toList ∧
      IsDocument (Cycle.IsWritten ⟨250, 60000⟩) "[250]".toList ∧
      IsDocument (Cycle.IsWritten ⟨1000, 60000⟩) "\x7b\x7d".toList ∧
      ∀ cycle : Cycle, ¬ IsDocument cycle.IsWritten "[250, 1e3]".toList := by
  have documented := Library.documented_reading
  have decoded : ∀ {ε α : Type} {value : α} {answer : Except ε α},
      answer.toOption = some value → answer = .ok value := by
    rintro ε α value (_ | _) answered
    · cases answered
    · exact congrArg _ (Option.some.inj answered)
  have refused : ∀ {ε α : Type} {answer : Except ε α}, answer.toOption.isNone = true →
      ∀ value, answer ≠ .ok value := by
    rintro ε α answer none value rfl
    cases none
  refine ⟨documented, ?_, fun rule => ?_, ?_, ?_, ?_, fun cycle => ?_⟩
  · exact ((ofText_eq_ok_iff_isDocument documented ruleObject).1 _).mp
      (decoded (by decide +kernel))
  · exact mt ((ofText_eq_ok_iff_isDocument documented twiceQuota).1 rule).mpr
      (refused (by decide +kernel) rule)
  · exact ((ofText_eq_ok_iff_isDocument documented ruleLists).2.1 _).mp
      (decoded (by decide +kernel))
  · exact ((ofText_eq_ok_iff_isDocument documented "[250]").2.2 _).mp (decoded (by decide +kernel))
  · exact ((ofText_eq_ok_iff_isDocument documented "\x7b\x7d").2.2 _).mp
      (decoded (by decide +kernel))
  · exact mt ((ofText_eq_ok_iff_isDocument documented "[250, 1e3]").2.2 cycle).mpr
      (refused (by decide +kernel) cycle)

end FlowGate.Config
