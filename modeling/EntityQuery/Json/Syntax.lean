import EntityQuery.Decimal.Numeral

/-!
# The syntax of JSON

JSON values, the tokens they are written with, and their compact text. Strings keep the parts they
are written with and numbers keep their digits, so that whatever is passed over need not make sense.

* `Json.bytes` writes a value as the list of its tokens without blanks.
-/

namespace EntityQuery

/-- The two-character escapes of a string. -/
inductive ShortEscape where
  | quote
  | backslash
  | slash
  | backspace
  | formFeed
  | lineFeed
  | carriageReturn
  | tab
  deriving DecidableEq, Repr, Inhabited

/-- One part of a string as it is written: a plain byte, a short escape, or a code unit in
hexadecimal. -/
inductive StringPart where
  | byte (b : UInt8)
  | short (e : ShortEscape)
  | unit (u : UInt16)
  deriving DecidableEq, Repr, Inhabited

inductive Json where
  | null
  | bool (b : Bool)
  | number (n : Numeral)
  | string (parts : List StringPart)
  | array (items : List Json)
  | object (members : List (List StringPart × Json))
  deriving Inhabited

/-- What a JSON text is made of, blanks left aside. -/
inductive Token where
  | openBrace
  | closeBrace
  | openBracket
  | closeBracket
  | colon
  | comma
  | null
  | bool (b : Bool)
  | number (n : Numeral)
  | string (parts : List StringPart)
  deriving DecidableEq, Repr, Inhabited

namespace ShortEscape

/-- The byte after the backslash. -/
def letter : ShortEscape → UInt8
  | quote => 0x22
  | backslash => 0x5C
  | slash => 0x2F
  | backspace => 0x62
  | formFeed => 0x66
  | lineFeed => 0x6E
  | carriageReturn => 0x72
  | tab => 0x74

/-- The byte that the escape stands for. -/
def denoted : ShortEscape → UInt8
  | quote => 0x22
  | backslash => 0x5C
  | slash => 0x2F
  | backspace => 0x08
  | formFeed => 0x0C
  | lineFeed => 0x0A
  | carriageReturn => 0x0D
  | tab => 0x09

def all : List ShortEscape :=
  [quote, backslash, slash, backspace, formFeed, lineFeed, carriageReturn, tab]

def ofLetter? (b : UInt8) : Option ShortEscape :=
  all.find? (·.letter == b)

theorem ofLetter?_letter (e : ShortEscape) : ofLetter? e.letter = some e := by
  cases e <;> decide

end ShortEscape

namespace StringPart

def hexDigit (n : Nat) : UInt8 :=
  if n < 10 then UInt8.ofNat (0x30 + n) else UInt8.ofNat (0x57 + n)

def bytes : StringPart → List UInt8
  | byte b => [b]
  | short e => [0x5C, e.letter]
  | unit u =>
    let n := u.toNat
    [0x5C, 0x75, hexDigit (n / 4096), hexDigit (n / 256 % 16), hexDigit (n / 16 % 16),
      hexDigit (n % 16)]

end StringPart

namespace Token

def bytes : Token → List UInt8
  | openBrace => [0x7B]
  | closeBrace => [0x7D]
  | openBracket => [0x5B]
  | closeBracket => [0x5D]
  | colon => [0x3A]
  | comma => [0x2C]
  | null => [0x6E, 0x75, 0x6C, 0x6C]
  | bool true => [0x74, 0x72, 0x75, 0x65]
  | bool false => [0x66, 0x61, 0x6C, 0x73, 0x65]
  | number n => n.chars.map fun c => UInt8.ofNat c.toNat
  | string parts => 0x22 :: parts.flatMap StringPart.bytes ++ [0x22]

end Token

namespace Json

mutual

def tokens : Json → List Token
  | null => [.null]
  | bool b => [.bool b]
  | number n => [.number n]
  | string parts => [.string parts]
  | array [] => [.openBracket, .closeBracket]
  | array (item :: items) => .openBracket :: item.tokens ++ itemTokens items
  | object [] => [.openBrace, .closeBrace]
  | object ((key, value) :: members) =>
    .openBrace :: .string key :: .colon :: value.tokens ++ memberTokens members

def itemTokens : List Json → List Token
  | [] => [.closeBracket]
  | item :: items => .comma :: item.tokens ++ itemTokens items

def memberTokens : List (List StringPart × Json) → List Token
  | [] => [.closeBrace]
  | (key, value) :: members =>
    .comma :: .string key :: .colon :: value.tokens ++ memberTokens members

end

def bytes (j : Json) : List UInt8 :=
  j.tokens.flatMap Token.bytes

end Json

end EntityQuery
