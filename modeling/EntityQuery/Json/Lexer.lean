import EntityQuery.Json.Syntax

/-!
# The tokens of a JSON text

Every token is as long as it can be. Tokens that stand next to each other where JSON wants a
separator are left to the parser to refuse. Bytes inside strings are not interpreted, and escaped
code units may be any four hexadecimal digits.
-/

namespace EntityQuery

def isBlank (b : UInt8) : Bool :=
  b == 0x20 || b == 0x09 || b == 0x0A || b == 0x0D

def isDigit (b : UInt8) : Bool :=
  0x30 ≤ b && b ≤ 0x39

def hexValue? (b : UInt8) : Option Nat :=
  if 0x30 ≤ b && b ≤ 0x39 then some (b.toNat - 0x30)
  else if 0x61 ≤ b && b ≤ 0x66 then some (b.toNat - 0x57)
  else if 0x41 ≤ b && b ≤ 0x46 then some (b.toNat - 0x37)
  else none

def codeUnit? (a b c d : UInt8) : Option UInt16 := do
  let a ← hexValue? a
  let b ← hexValue? b
  let c ← hexValue? c
  let d ← hexValue? d
  return UInt16.ofNat (a * 4096 + b * 256 + c * 16 + d)

/-- Splits a text after its leading digits. -/
def spanDigits (bytes : List UInt8) : List Char × List UInt8 :=
  ((bytes.takeWhile isDigit).map fun b => Char.ofNat b.toNat, bytes.dropWhile isDigit)

namespace StringPart

/-- Reads the parts of a string up to its closing quote, which is taken too. -/
def scan? : List UInt8 → Option (List StringPart × List UInt8)
  | [] => none
  | b :: rest =>
    if b = 0x22 then some ([], rest)
    else if b < 0x20 then none
    else if b = 0x5C then
      match rest with
      | [] => none
      | e :: rest =>
        if e = 0x75 then
          -- a code unit of four digits, which may be half of a pair
          match rest with
          | a :: b :: c :: d :: rest => do
            let u ← codeUnit? a b c d
            let (parts, rest) ← scan? rest
            return (.unit u :: parts, rest)
          | _ => none
        else do
          let e ← ShortEscape.ofLetter? e
          let (parts, rest) ← scan? rest
          return (.short e :: parts, rest)
    else do
      let (parts, rest) ← scan? rest
      return (.byte b :: parts, rest)

end StringPart

namespace Numeral

/-- The digits after a point, if there is a point; a point without digits is refused. -/
def scanFraction? (bytes : List UInt8) : Option (List Char × List UInt8) :=
  match bytes with
  | 0x2E :: rest =>
    let (digits, rest) := spanDigits rest
    if digits.isEmpty then none else some (digits, rest)
  | _ => some ([], bytes)

/-- The power of ten, if one is written; a mark without digits is refused. -/
def scanExponent? (bytes : List UInt8) : Option (Option Exponent × List UInt8) :=
  match bytes with
  | [] => some (none, [])
  | mark :: signed =>
    if mark = 0x65 ∨ mark = 0x45 then
      let (negative, rest) := match signed with
        | 0x2D :: rest => (true, rest)
        | 0x2B :: rest => (false, rest)
        | rest => (false, rest)
      let (digits, rest) := spanDigits rest
      if digits.isEmpty then none else some (some ⟨negative, digits⟩, rest)
    else some (none, bytes)

/-- Reads a number. A zero in front is the only digit before the point. -/
def scan? (bytes : List UInt8) : Option (Numeral × List UInt8) := do
  let (negative, unsigned) := match bytes with
    | 0x2D :: rest => (true, rest)
    | rest => (false, rest)
  let (whole, rest) := spanDigits unsigned
  guard (!whole.isEmpty && (whole.head? != some '0' || whole.length == 1))
  let (fraction, rest) ← scanFraction? rest
  let (exponent, rest) ← scanExponent? rest
  return (⟨negative, whole, fraction, exponent⟩, rest)

end Numeral

namespace Token

/-- The tokens that are one byte each. -/
def punctuation? (b : UInt8) : Option Token :=
  [openBrace, closeBrace, openBracket, closeBracket, colon, comma].find? (·.bytes == [b])

/-- Reads the token at the start of a text. -/
def scan? (bytes : List UInt8) : Option (Token × List UInt8) :=
  match bytes with
  | [] => none
  | b :: rest =>
    match punctuation? b with
    | some t => some (t, rest)
    | none =>
      if b = 0x22 then (StringPart.scan? rest).map fun (parts, rest) => (.string parts, rest)
      else if isDigit b || b == 0x2D then
        (Numeral.scan? bytes).map fun (n, rest) => (.number n, rest)
      else
        [null, bool true, bool false].findSome? fun word =>
          (word.bytes.isPrefixOf? bytes).map fun rest => (word, rest)

/-- The tokens of a text, as long as they are no more than `limit` and the blanks together. -/
def lexWithin? : Nat → List UInt8 → Option (List Token)
  | _, [] => some []
  | 0, _ => none
  | limit + 1, b :: rest =>
    if isBlank b then lexWithin? limit rest
    else do
      let (t, rest) ← scan? (b :: rest)
      let ts ← lexWithin? limit rest
      return t :: ts

/-- The tokens of a text. Each takes a byte at least, so the text's length bounds their number. -/
def lex? (bytes : List UInt8) : Option (List Token) :=
  lexWithin? bytes.length bytes

end Token

end EntityQuery
