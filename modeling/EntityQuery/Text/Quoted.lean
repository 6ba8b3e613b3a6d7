import EntityQuery.Text.UnprintableTable

/-!
# Quoted text

Conditions show texts between double quotes, with backslash forms for the quote, the backslash and
the common controls, and with the code point in place of every other character that does not print
reliably.
-/

namespace EntityQuery.Text

/-- Whether a character is written by its code point. Printable ASCII is not looked up. -/
def isUnprintable (c : Char) : Bool :=
  if c.toNat < 0x20 then true
  else if c.toNat < 0x7F then false
  else inRanges unprintableRanges c.toNat

def quotedChar (c : Char) : List Char :=
  if c = '"' then ['\\', '"']
  else if c = '\\' then ['\\', '\\']
  else if c = '\n' then ['\\', 'n']
  else if c = '\r' then ['\\', 'r']
  else if c = '\t' then ['\\', 't']
  else if c.toNat = 0 then ['\\', '0']
  else if isUnprintable c then
    ['\\', 'u', '\x7b'] ++ Nat.toDigits 16 c.toNat ++ ['\x7d']
  else [c]

def quoted (s : String) : String :=
  String.ofList ('"' :: s.toList.flatMap quotedChar ++ ['"'])

end EntityQuery.Text
