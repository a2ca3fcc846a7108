/-
# What a description tells

The description of a limiter tells its rules apart from all others: two limiters have the same
description exactly if they enforce the same rules in the same order. The text is a row of entries
in which numbers of any length stand between fixed words, so the argument is one of reading it from
the left. A number ends where the first mark stands that is no digit; so no entry can be read in two
ways, and none is the beginning of another. Behind an entry, the first mark shows whether a further
one follows.

A description never changes, since nothing that callers do writes a rule.
-/

import FlowGate.Proofs.Limiter.Build
import FlowGate.Proofs.Limiter.Upkeep

namespace FlowGate

open Config (Rule)

namespace Text

/-! ## Numbers between marks -/

/-- Behind the digits of a number, the mark that ends it shows where they end. -/
theorem toDigits_append_inj {first second : Nat} {mark : Char} (notDigit : mark.isDigit = false)
    {rest rest' : List Char}
    (equal : Nat.toDigits 10 first ++ mark :: rest = Nat.toDigits 10 second ++ mark :: rest') :
    first = second ∧ rest = rest' := by
  have digits (number : Nat) (rest : List Char) :
      (Nat.toDigits 10 number ++ mark :: rest).takeWhile Char.isDigit = Nat.toDigits 10 number := by
    rw [List.takeWhile_append_of_pos fun c listed =>
        Nat.isDigit_of_mem_toDigits (by decide) (by decide) listed,
      List.takeWhile_cons_of_neg (by simp [notDigit]), List.append_nil]
  have same : Nat.toDigits 10 first = Nat.toDigits 10 second := by
    rw [← digits first rest, equal, digits]
  rw [same] at equal
  refine ⟨?_, (List.cons.inj (List.append_cancel_left equal)).2⟩
  calc
    first = Nat.ofDigitChars 10 (Nat.toDigits 10 first) 0 := Nat.ofDigitChars_ten_toDigits.symm
    _ = second := by rw [same, Nat.ofDigitChars_ten_toDigits]

/-! ## Rows of words -/

section Rows

variable {Item : Type} {word : Item → List Char} {mark close : Char} {first second : List Item}

/-- Whatever follows a word, its item can be read off, and so can what follows. -/
def PrefixFree (word : Item → List Char) : Prop :=
  ∀ first second rest rest', word first ++ rest = word second ++ rest' →
    first = second ∧ rest = rest'

theorem intercalate_cons (separator word : List Char) (words : List (List Char)) :
    List.intercalate separator (word :: words) = word ++ words.flatMap (separator ++ ·) := by
  induction words generalizing word with
  | nil => rw [List.intercalate_singleton, List.flatMap_nil, List.append_nil]
  | cons next words ih =>
      rw [List.intercalate_cons_cons, ih, List.flatMap_cons, List.append_assoc, List.append_assoc]

/-- Behind a word, the next mark tells a separator from the end of the row. -/
theorem PrefixFree.further_inj (free : PrefixFree word) (apart : mark ≠ close) (blank : List Char)
    (equal : (first.map word).flatMap (mark :: blank ++ ·) ++ [close] =
      (second.map word).flatMap (mark :: blank ++ ·) ++ [close]) : first = second := by
  induction first generalizing second with
  | nil =>
      cases second with
      | nil => rfl
      | cons item second => exact absurd (List.cons.inj equal).1.symm apart
  | cons item first ih =>
      cases second with
      | nil => exact absurd (List.cons.inj equal).1 apart
      | cons other second =>
          simp only [List.map_cons, List.flatMap_cons, List.append_assoc,
            List.append_cancel_left_eq] at equal
          obtain ⟨rfl, further⟩ := free _ _ _ _ equal
          rw [ih further]

/-- A row of such words with separators between them and a mark behind them has one reading. A word
of more than one letter is not taken for that mark, so an empty row is told from all others. -/
theorem PrefixFree.row_inj (free : PrefixFree word) (long : ∀ item, 1 < (word item).length)
    (apart : mark ≠ close) (blank : List Char)
    (equal : List.intercalate (mark :: blank) (first.map word) ++ [close] =
      List.intercalate (mark :: blank) (second.map word) ++ [close]) : first = second := by
  have filled (item : Item) (items : List Item) :
      [close] ≠ List.intercalate (mark :: blank) ((item :: items).map word) ++ [close] := by
    intro empty
    have lengths := congrArg List.length empty
    rw [List.map_cons, intercalate_cons, List.append_assoc, List.length_append,
      List.length_singleton] at lengths
    have longer := long item
    omega
  cases first with
  | nil =>
      cases second with
      | nil => rfl
      | cons item second => exact absurd equal (filled item second)
  | cons item first =>
      cases second with
      | nil => exact absurd equal.symm (filled item first)
      | cons other second =>
          rw [List.map_cons, List.map_cons, intercalate_cons, intercalate_cons, List.append_assoc,
            List.append_assoc] at equal
          obtain ⟨rfl, further⟩ := free _ _ _ _ equal
          rw [free.further_inj apart blank further]

end Rows

end Text

namespace Limiter

open Text (PrefixFree toDigits_append_inj)

/-! ## The entries of a description -/

/-- The entry of a rule at its place in a description. -/
def entry (listed : Rule × Nat) : List Char := (describeRule listed.1 listed.2).toList

theorem entry_append (listed : Rule × Nat) (rest : List Char) :
    entry listed ++ rest =
      Nat.toDigits 10 listed.2 ++ ':' :: (" max = ".toList ++
        (Nat.toDigits 10 listed.1.quota.toNat ++ ',' :: (" period = ".toList ++
          (Nat.toDigits 10 listed.1.period.toNat ++ 'm' :: ("s".toList ++ rest))))) := by
  simp [entry, describeRule, Nat.toList_repr, Nat.toString_eq_repr]

theorem prefixFree_entry : PrefixFree entry := by
  rintro ⟨⟨quota, period⟩, place⟩ ⟨⟨quota', period'⟩, place'⟩ rest rest' equal
  rw [entry_append, entry_append] at equal
  obtain ⟨samePlace, afterPlace⟩ := toDigits_append_inj rfl equal
  rw [List.append_cancel_left_eq] at afterPlace
  obtain ⟨sameQuota, afterQuota⟩ := toDigits_append_inj rfl afterPlace
  rw [List.append_cancel_left_eq] at afterQuota
  obtain ⟨samePeriod, afterPeriod⟩ := toDigits_append_inj rfl afterQuota
  rw [List.append_cancel_left_eq] at afterPeriod
  cases samePlace
  cases UInt64.toNat_inj.mp sameQuota
  cases UInt64.toNat_inj.mp samePeriod
  exact ⟨rfl, afterPeriod⟩

theorem one_lt_length_entry (listed : Rule × Nat) : 1 < (entry listed).length := by
  rw [← List.append_nil (entry listed), entry_append]
  simp only [List.length_append, List.length_cons]
  omega

theorem map_toList_entries (rules : List Rule) :
    (rules.mapIdx fun place rule => describeRule rule place).map String.toList =
      rules.zipIdx.map entry := by
  rw [List.mapIdx_eq_zipIdx_map, List.map_map]
  refine List.map_congr_left fun listed _ => ?_
  obtain ⟨rule, place⟩ := listed
  rw [Function.comp_apply, entry]

theorem toList_enclosed (opening separator closing : String) (entries : List String) :
    (opening ++ separator.intercalate entries ++ closing).toList =
      opening.toList ++
        (List.intercalate separator.toList (entries.map String.toList) ++ closing.toList) := by
  rw [String.toList_append, String.toList_append, String.toList_intercalate, List.append_assoc]

theorem toList_describe (limiter : Limiter) :
    limiter.describe.toList =
      "ThroughputLimiter [".toList ++
        (List.intercalate "; ".toList (limiter.rules.zipIdx.map entry) ++ "]".toList) := by
  rw [← map_toList_entries, describe_eq]
  exact toList_enclosed "ThroughputLimiter [" "; " "]" _

/-- A description identifies the rules, whichever and however many they are. -/
theorem describe_eq_iff {first second : Limiter} :
    first.describe = second.describe ↔ first.rules = second.rules := by
  constructor
  · intro equal
    have texts := congrArg String.toList equal
    have separator : "; ".toList = ';' :: " ".toList := rfl
    have closing : "]".toList = [']'] := rfl
    rw [toList_describe, toList_describe, List.append_cancel_left_eq, separator, closing] at texts
    have listed := prefixFree_entry.row_inj one_lt_length_entry (by decide) _ texts
    rw [← List.zipIdx_map_fst 0 first.rules, listed, List.zipIdx_map_fst]
  · intro equal
    rw [describe_eq, describe_eq, equal]

/-! ## Descriptions in the course of time -/

theorem describe_performAll (session : Session) (commands : List Command) :
    (session.performAll commands).1.world.limiter.describe = session.world.limiter.describe :=
  describe_eq_iff.mpr ((upholds_rules session.world.limiter.rules).performAll commands rfl).1

/-- Two limiters have the same description exactly if they enforce the same rules in the same order.
A limiter keeps its description over all that concurrent callers do, at any readings and with any
failures of the clock; and through every handle that a session has made, at any time, the
description is the one that the limiter began with. -/
theorem descriptions_tell_rules_apart :
    (∀ first second : Limiter, first.describe = second.describe ↔ first.rules = second.rules) ∧
      (∀ (crowd : Crowd) (moves : List Move),
        (crowd.play moves).1.limiter.describe = crowd.limiter.describe) ∧
      ∀ (session : Session) (commands : List Command) (handle : Nat),
        handle < (session.performAll commands).1.handles →
          ((session.performAll commands).1.perform ⟨handle, .describe⟩).2.reply =
            .text session.world.limiter.describe := by
  refine ⟨fun _ _ => describe_eq_iff, fun crowd moves => ?_, fun session commands handle made => ?_⟩
  · exact describe_eq_iff.mpr (Crowd.rules_play moves crowd)
  · rw [Session.perform_of_lt made, ← describe_performAll session commands]
    rfl

/-- A call with two tiers, made through a second handle, fails after it has charged one of them; the
second handle still shows the description that the limiter was built with. -/
theorem descriptions_tell_rules_apart_afterFailure :
    let limiter := ofRules [⟨9, 60000⟩, ⟨2, 1⟩] 7
    let session := Session.start limiter 7
    let commands : List Command := [⟨0, .clone⟩, ⟨1, .controlFailing 2⟩]
    build [.list [⟨9, 60000⟩, ⟨2, 1⟩]] 7 = .ok limiter ∧
      (session.performAll commands).2.map Report.reply = [.handle 1, .failure .clockFailed] ∧
      (session.performAll commands).1.world.limiter.counts = [1, 0] ∧
      ((session.performAll commands).1.perform ⟨1, .describe⟩).2.reply =
        .text
          "ThroughputLimiter [0: max = 9, period = 60000ms; 1: max = 2, period = 1ms]" := by
  intro limiter session commands
  have made : 1 < (session.performAll commands).1.handles := by decide +kernel
  have text : limiter.describe =
      "ThroughputLimiter [0: max = 9, period = 60000ms; 1: max = 2, period = 1ms]" := by
    decide +kernel
  refine ⟨rfl, by decide +kernel, by decide +kernel, ?_⟩
  rw [← text]
  exact descriptions_tell_rules_apart.2.2 session commands 1 made

end Limiter

end FlowGate
