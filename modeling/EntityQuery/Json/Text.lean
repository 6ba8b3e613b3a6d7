import EntityQuery.Json.Syntax

/-!
# Strings inside JSON

How the characters of a text are written inside JSON, and which text some written parts stand for.
Only what must be escaped is: the quote, the backslash and the controls. Reading resolves the
escapes, joins the two halves of a surrogate pair, and refuses a half that stands alone as well as
bytes that are not UTF-8.
-/

namespace EntityQuery

namespace StringPart

def ofChar (c : Char) : List StringPart :=
  if c = '"' then [short .quote]
  else if c = '\\' then [short .backslash]
  else if c.toNat = 0x08 then [short .backspace]
  else if c.toNat = 0x09 then [short .tab]
  else if c.toNat = 0x0A then [short .lineFeed]
  else if c.toNat = 0x0C then [short .formFeed]
  else if c.toNat = 0x0D then [short .carriageReturn]
  else if c.toNat < 0x20 then [unit (UInt16.ofNat c.toNat)]
  else (String.utf8EncodeChar c).map byte

def ofString (s : String) : List StringPart :=
  s.toList.flatMap ofChar

def isHighSurrogate (u : UInt16) : Bool :=
  0xD800 ≤ u && u ≤ 0xDBFF

def isLowSurrogate (u : UInt16) : Bool :=
  0xDC00 ≤ u && u ≤ 0xDFFF

def pairChar (high low : UInt16) : Char :=
  Char.ofNat (0x10000 + (high.toNat - 0xD800) * 0x400 + (low.toNat - 0xDC00))

/-- The bytes that some parts stand for. -/
def resolve? : List StringPart → Option (List UInt8)
  | [] => some []
  | byte b :: rest => (resolve? rest).map (b :: ·)
  | short e :: rest => (resolve? rest).map (e.denoted :: ·)
  | unit u :: rest =>
    if isHighSurrogate u then
      -- the other half has to follow at once
      match rest with
      | unit low :: rest =>
        if isLowSurrogate low then
          (resolve? rest).map (String.utf8EncodeChar (pairChar u low) ++ ·)
        else none
      | _ => none
    else if isLowSurrogate u then none
    else (resolve? rest).map (String.utf8EncodeChar (Char.ofNat u.toNat) ++ ·)

def text? (parts : List StringPart) : Option String := do
  let bytes ← resolve? parts
  String.fromUTF8? ⟨bytes.toArray⟩

end StringPart

namespace Json

def ofString (s : String) : Json :=
  .string (StringPart.ofString s)

def ofMembers (members : List (String × Json)) : Json :=
  .object (members.map fun (name, value) => (StringPart.ofString name, value))

end Json

end EntityQuery
