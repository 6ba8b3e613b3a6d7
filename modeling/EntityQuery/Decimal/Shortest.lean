import EntityQuery.Decimal.Numeral

/-!
# The shortest decimal text of a float

A finite float stands for all reals that round to it. Among the decimals in that interval the ones
with the fewest digits are the candidates, and the one nearest to the float is written. The search
runs over the grids of one to seventeen digits; on each grid only the two neighbours of the float
can be inside and nearest. All arithmetic is on natural numbers.

* `Binary.shortest` finds the digits, and `Tie` says what becomes of a float half way between two.
* A `Layout` chooses how the digits are laid out as a `Numeral`.
-/

namespace EntityQuery

/-- The number `coefficient · 10 ^ exponent`. -/
structure Decimal where
  coefficient : Nat
  exponent : Int
  deriving DecidableEq, Repr, Inhabited

/-- The magnitude of a finite float, `significand · 2 ^ exponent`. The float below a power of two is
nearer than the float above it. -/
structure Binary where
  significand : Nat
  exponent : Int
  closerBelow : Bool
  deriving DecidableEq, Repr, Inhabited

/-! ## The digits -/

/-- Which of two neighbours is taken when both are equally near. -/
inductive Tie where
  | toEven
  | up
  deriving DecidableEq, Repr, Inhabited

namespace Binary

def ofBits (bits : UInt64) : Binary :=
  let fraction : Nat := bits.toNat % 0x10000000000000
  let scale : Nat := bits.toNat / 0x10000000000000 % 0x800
  -- subnormal floats have no hidden bit and are spaced evenly
  if scale = 0 then ⟨fraction, -1074, false⟩
  else ⟨0x10000000000000 + fraction, (scale : Int) - 1075, fraction = 0 && 1 < scale⟩

/-- A point `c · 10 ^ e` of a decimal grid, in units in which all numbers of the search are whole.
-/
def gridPoint (v : Binary) (e : Int) (c : Nat) : Nat :=
  c * Nat.pow 10 e.toNat * Nat.pow 2 (2 - v.exponent).toNat

/-- A number of quarters of the last binary place, in the units of `gridPoint`. -/
def quarters (v : Binary) (e : Int) (n : Nat) : Nat :=
  n * Nat.pow 2 (v.exponent - 2).toNat * Nat.pow 10 (-e).toNat

/-- Whether a point of a decimal grid rounds to the float: the ends of the interval do so when the
significand is even. -/
def rounds (v : Binary) (e : Int) (c : Nat) : Bool :=
  -- half a place away on either side, or a quarter below where the next float is nearer
  let low := v.quarters e (4 * v.significand - if v.closerBelow then 1 else 2)
  let high := v.quarters e (4 * v.significand + 2)
  let point := v.gridPoint e c
  if v.significand % 2 = 0 then low ≤ point && point ≤ high else low < point && point < high

/-- The power of ten of the first digit. -/
def leading (v : Binary) : Int :=
  let num := v.significand * Nat.pow 2 v.exponent.toNat
  let den := Nat.pow 2 (-v.exponent).toNat
  if den ≤ num then (Nat.toDigits 10 (num / den)).length - 1
  else -(Nat.toDigits 10 ((den - 1) / num)).length

/-- The nearest point of a grid that rounds to the float, if a neighbour of the float does. -/
def nearest? (v : Binary) (tie : Tie) (e : Int) : Option Nat :=
  let value := v.quarters e (4 * v.significand)
  let unit := v.gridPoint e 1
  let below := value / unit
  match v.rounds e below, v.rounds e (below + 1) with
  | true, true =>
    -- both neighbours round to the float: the nearer one is written
    let middle := (2 * below + 1) * unit
    if 2 * value < middle then some below
    else if middle < 2 * value then some (below + 1)
    else match tie with
      | .toEven => some (if below % 2 = 0 then below else below + 1)
      | .up => some (below + 1)
  | true, false => some below
  | false, true => some (below + 1)
  | false, false => none

/-- The shortest decimal that rounds to the float. Seventeen digits are always enough. -/
def shortest (v : Binary) (tie : Tie) : Decimal :=
  let found := (List.range 17).findSome? fun (n : Nat) =>
    -- the grid on which the float has `n + 1` digits
    let e := v.leading - (n : Int)
    -- rounding up can carry into one digit more, and then only the carry is left
    (v.nearest? tie e).map fun c => if c = Nat.pow 10 (n + 1) then ⟨1, v.leading + 1⟩ else ⟨c, e⟩
  found.getD ⟨v.quarters (v.leading - 16) (4 * v.significand) / v.gridPoint (v.leading - 16) 1,
    v.leading - 16⟩

end Binary

/-! ## The layout -/

/-- How the digits of a number are laid out. -/
structure Layout where
  /-- What becomes of a number half way between two shortest decimals. -/
  tie : Tie
  /-- The least and the greatest power of the first digit that is written without an exponent;
  without bounds, an exponent is never written. -/
  positional : Option (Int × Int)
  /-- Whether a whole number without an exponent keeps a zero after a point. -/
  keepsPoint : Bool
  deriving DecidableEq, Repr, Inhabited

namespace Layout

/-- Whether a number whose first digit has a given power is written without an exponent. -/
def isPositional (l : Layout) (leading : Int) : Bool :=
  match l.positional with
  | some (least, greatest) => least ≤ leading && leading ≤ greatest
  | none => true

/-- Digits before the point only, with the zero after it where the layout keeps one. -/
def wholeNumber (l : Layout) (negative : Bool) (digits : List Char) : Numeral where
  negative := negative
  whole := digits
  fraction := if l.keepsPoint then ['0'] else []
  exponent := none

/-- Lays out a decimal that is not zero and whose coefficient does not end in a zero. -/
def numeral (l : Layout) (negative : Bool) (d : Decimal) : Numeral :=
  let digits := Nat.toDigits 10 d.coefficient
  let leading := d.exponent + digits.length - 1
  if l.isPositional leading then
    if 0 ≤ d.exponent then
      l.wholeNumber negative (digits ++ List.replicate d.exponent.toNat '0')
    else if 0 ≤ leading then
      ⟨negative, digits.take (leading.toNat + 1), digits.drop (leading.toNat + 1), none⟩
    else ⟨negative, ['0'], List.replicate (-leading - 1).toNat '0' ++ digits, none⟩
  else
    ⟨negative, digits.take 1, digits.drop 1, some ⟨leading < 0, Nat.toDigits 10 leading.natAbs⟩⟩

/-- The numeral of a finite float. Both zeros are written with their sign. -/
def numeralOfFloat (l : Layout) (x : Float) : Numeral :=
  let negative := decide (0x8000000000000000 ≤ x.toBits.toNat)
  let magnitude := Binary.ofBits x.toBits
  if magnitude.significand = 0 then l.wholeNumber negative ['0']
  else l.numeral negative (magnitude.shortest l.tie)

end Layout

end EntityQuery
