import EntityQuery.Decimal.Numeral

/-!
# Reading a numeral as a float

The digits of a numeral are gathered into one unsigned word for as long as they fit, and the word is
then scaled by a power of ten in float arithmetic. So the float that is read can differ from the
number that is written in its last place: the rule is fast and simple, not exact.
-/

namespace EntityQuery

namespace Numeral

/-- Appends digits to a significand while it fits a word; the digits from the first one that
does not fit are left over. -/
def gather (significand : Nat) : List Char → Nat × List Char
  | [] => (significand, [])
  | c :: rest =>
    let longer := significand * 10 + (c.toNat - '0'.toNat)
    if longer < UInt64.size then gather longer rest else (significand, c :: rest)

/-- A power of ten, rounded to the nearest float. -/
def powerOfTen (n : Nat) : Float :=
  Float.ofScientific 1 false n

/-- Divides by a power of ten, at most by `10 ^ 308` at a time, and stops early at zero. -/
def scaleDown (x : Float) (n : Nat) : Float :=
  if n ≤ 308 then x / powerOfTen n
  -- zero stays zero, which also keeps huge powers from being worked off
  else if x == 0 then x
  else scaleDown (x / powerOfTen 308) (n - 308)
termination_by n

/-- Multiplies by a power of ten. Only zero survives a power beyond the floats, and a product beyond
them is refused. -/
def scaleUp? (x : Float) (n : Nat) : Option Float :=
  if n ≤ 308 then
    let product := x * powerOfTen n
    if product.isInf then none else some product
  else if x == 0 then some x
  else none

/-- The float that a numeral is read as; none when it is too large. -/
def toFloat? (n : Numeral) : Option Float :=
  let (gathered, beyond) := gather 0 n.whole
  let (significand, ignored) := gather gathered n.fraction
  let written : Int := n.exponent.elim 0 Exponent.value
  -- whole digits that were left over count as zeros, and read digits after the point shift it
  let power := written + beyond.length - (n.fraction.length - ignored.length)
  let x := (UInt64.ofNat significand).toFloat
  let magnitude? := if 0 ≤ power then scaleUp? x power.toNat else some (scaleDown x (-power).toNat)
  magnitude?.map fun magnitude => if n.negative then -magnitude else magnitude

end Numeral

end EntityQuery
