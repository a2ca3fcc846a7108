/-
# Durations

A span of time is given in whole seconds and a fraction in nanoseconds. Everything downstream
counts whole milliseconds, so the one conversion that matters is here: the fraction of a
millisecond is dropped, and a span too long for a word counts as the longest one that fits.
-/

import FlowGate.Word

namespace FlowGate.Time

/-- A span of time: whole seconds, and less than one further second in nanoseconds. -/
structure Duration where
  secs : UInt64
  nanos : UInt32
  nanos_lt : nanos.toNat < 1000000000
  deriving DecidableEq

/-- The span of the given whole milliseconds. -/
def Duration.ofMillis (millis : UInt64) : Duration where
  secs := millis / 1000
  nanos := (millis % 1000).toUInt32 * 1000000
  nanos_lt := by
    have rest : (millis % 1000).toNat < 1000 := by
      rw [UInt64.toNat_mod]
      exact Nat.mod_lt _ (by decide)
    have factor : (1000000 : UInt32).toNat = 1000000 := rfl
    rw [UInt32.toNat_mul, UInt64.toNat_toUInt32, factor, Nat.mod_eq_of_lt (by omega),
      Nat.mod_eq_of_lt (by omega)]
    omega

/-- The empty span. -/
def Duration.zero : Duration := Duration.ofMillis 0

/-- The whole milliseconds of a span, as a number without bound. -/
def Duration.wholeMillis (d : Duration) : Nat :=
  d.secs.toNat * 1000 + d.nanos.toNat / 1000000

/-- The length of a span in nanoseconds, as a number without bound. -/
def Duration.nanoseconds (d : Duration) : Nat := d.secs.toNat * 1000000000 + d.nanos.toNat

/-- The seconds and the fraction can be rounded down together or apart. -/
theorem Duration.wholeMillis_eq (d : Duration) : d.wholeMillis = d.nanoseconds / 1000000 := by
  rw [Duration.wholeMillis, Duration.nanoseconds]
  omega

/-- The whole milliseconds of a span, held at the largest word. -/
def Duration.millis (d : Duration) : UInt64 :=
  if d.wholeMillis ≤ Word.top.toNat then UInt64.ofNat d.wholeMillis else Word.top

theorem Duration.toNat_millis (d : Duration) :
    d.millis.toNat = min d.wholeMillis Word.top.toNat := by
  unfold Duration.millis
  rw [Word.toNat_top]
  split
  · rw [UInt64.toNat_ofNat']; omega
  · rw [Word.toNat_top]; omega

/-- What is below a millisecond is dropped, and what does not fit into a word is cut off there. -/
theorem Duration.toNat_millis_eq_min (d : Duration) :
    d.millis.toNat = min (d.nanoseconds / 1000000) (UInt64.size - 1) := by
  have top : Word.top.toNat = UInt64.size - 1 := rfl
  rw [Duration.toNat_millis, Duration.wholeMillis_eq, top]

/-- Whole milliseconds survive the way through a span, at any length. -/
@[simp] theorem Duration.millis_ofMillis (millis : UInt64) :
    (Duration.ofMillis millis).millis = millis := by
  have bound := millis.toNat_lt
  have whole : (Duration.ofMillis millis).wholeMillis = millis.toNat := by
    have factor : (1000000 : UInt32).toNat = 1000000 := rfl
    have base : (1000 : UInt64).toNat = 1000 := rfl
    simp only [Duration.wholeMillis, Duration.ofMillis, UInt32.toNat_mul, UInt64.toNat_toUInt32,
      UInt64.toNat_div, UInt64.toNat_mod, factor, base]
    rw [Nat.mod_eq_of_lt (a := millis.toNat % 1000) (by omega),
      Nat.mod_eq_of_lt (a := millis.toNat % 1000 * 1000000) (by omega)]
    omega
  apply UInt64.toNat_inj.1
  rw [Duration.toNat_millis, whole, Word.toNat_top]
  omega

end FlowGate.Time
