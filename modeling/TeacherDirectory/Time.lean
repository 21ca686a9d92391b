/-!
# Spans of time

A span is a whole number of nanoseconds. A number of seconds in floating point is read to the nearest
nanosecond and refused from `2^64` seconds on. A clock that ticks in milliseconds takes a span as
the next whole number of ticks.
-/

namespace TeacherDirectory

set_option autoImplicit false

structure Span where
  nanoseconds : Nat
  deriving DecidableEq

namespace Span

def zero : Span := ⟨0⟩

def perSecond : Nat := 1000000000

def perMillisecond : Nat := 1000000

def ofSeconds (seconds : Nat) : Span := ⟨seconds * perSecond⟩

def ofMilliseconds (milliseconds : Nat) : Span := ⟨milliseconds * perMillisecond⟩

def seconds (span : Span) : Nat := span.nanoseconds / perSecond

def subsecond (span : Span) : Nat := span.nanoseconds % perSecond

def ticks (span : Span) : Nat := (span.nanoseconds + (perMillisecond - 1)) / perMillisecond

def min (left right : Span) : Span := ⟨Nat.min left.nanoseconds right.nanoseconds⟩

/-- Seconds as a floating-point number, the nanoseconds divided before they are added. -/
def toFloat (span : Span) : Float :=
  Float.ofNat span.seconds + Float.ofNat span.subsecond / Float.ofNat perSecond

/-- Rounds a quotient to the nearest whole number, a half to the even one. -/
def roundQuotient (numerator denominator : Nat) : Nat :=
  let quotient := numerator / denominator
  let twice := 2 * (numerator % denominator)
  if twice < denominator then quotient
  else if denominator < twice then quotient + 1
  else if quotient % 2 = 0 then quotient
  else quotient + 1

/-- Reads a number of seconds given by its binary64 bits, to the nearest nanosecond. Numbers that
are negative, not finite or not below `2^64` have no span; minus zero is zero. -/
def ofBits? (bits : UInt64) : Option Span :=
  let word := bits.toNat
  let negative := word / Nat.pow 2 63 = 1
  let exponent := word / Nat.pow 2 52 % Nat.pow 2 11
  let fraction := word % Nat.pow 2 52
  if negative then
    if exponent = 0 ∧ fraction = 0 then some zero else none
  else if exponent = Nat.pow 2 11 - 1 then none
  else
    let significand := if exponent = 0 then fraction else fraction + Nat.pow 2 52
    let scale := if exponent = 0 then 1 else exponent
    let rounded :=
      if 1075 ≤ scale then significand * Nat.pow 2 (scale - 1075) * perSecond
      else roundQuotient (significand * perSecond) (Nat.pow 2 (1075 - scale))
    if rounded < Nat.pow 2 64 * perSecond then some ⟨rounded⟩ else none

def ofFloat? (seconds : Float) : Option Span := ofBits? seconds.toBits

end Span

end TeacherDirectory
