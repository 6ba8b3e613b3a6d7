/-!
# Written decimal numbers

A numeral is a number as it is written: a sign, digits before and after the point, and a power of
ten. It is text taken apart, not yet a number.

* `Numeral.toInt?` reads the numerals that stand for integers; it undoes `Numeral.ofInt`
  (`toInt?_ofInt`).
-/

namespace EntityQuery

/-- The power of ten at the end of a numeral. -/
structure Exponent where
  negative : Bool
  digits : List Char
  deriving DecidableEq, Repr, Inhabited

/-- A decimal number as it is written. No digits after the point means that no point is written. -/
structure Numeral where
  negative : Bool
  whole : List Char
  fraction : List Char
  exponent : Option Exponent
  deriving DecidableEq, Repr, Inhabited

namespace Exponent

def value (e : Exponent) : Int :=
  let n : Int := Nat.ofDigitChars 10 e.digits 0
  if e.negative then -n else n

/-- The mark, the sign, which is always written, and the digits. -/
def chars (e : Exponent) : List Char :=
  'e' :: (if e.negative then '-' else '+') :: e.digits

end Exponent

namespace Numeral

def chars (n : Numeral) : List Char :=
  (if n.negative then ['-'] else []) ++ n.whole
    ++ (if n.fraction.isEmpty then [] else '.' :: n.fraction)
    ++ (match n.exponent with
      | some e => e.chars
      | none => [])

/-- The plain digits of an integer. -/
def ofInt (n : Int) : Numeral where
  negative := n < 0
  whole := Nat.toDigits 10 n.natAbs
  fraction := []
  exponent := none

/-- The integer that a numeral stands for. A point or a power of ten makes it no integer, and so
does the sign of a negative zero. -/
def toInt? (n : Numeral) : Option Int :=
  if n.fraction.isEmpty && n.exponent.isNone then
    let magnitude := Nat.ofDigitChars 10 n.whole 0
    if n.negative then
      if magnitude = 0 then none else some (-magnitude)
    else some magnitude
  else none

theorem toInt?_ofInt (n : Int) : (ofInt n).toInt? = some n := by
  simp only [toInt?, ofInt, List.isEmpty_nil, Option.isNone_none, Bool.and_self, if_true,
    Nat.ofDigitChars_ten_toDigits, decide_eq_true_eq]
  split
  · rename_i h
    rw [if_neg (by omega)]
    congr 1
    omega
  · congr 1
    omega

end Numeral

end EntityQuery
