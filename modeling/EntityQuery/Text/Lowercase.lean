import EntityQuery.Text.CaseTable

/-!
# The full lower-case mapping of Unicode

A character is mapped on its own, except the capital sigma: at the end of a word it becomes the
final form. So the mapping does not commute with cutting a text into pieces.
-/

namespace EntityQuery.Text

def isCased (c : Char) : Bool :=
  inRanges casedRanges c.toNat

def isCaseIgnorable (c : Char) : Bool :=
  inRanges caseIgnorableRanges c.toNat

/-- Whether a cased character comes first once the case-ignorable ones are passed over. -/
def meetsCased (cs : List Char) : Bool :=
  match cs.dropWhile isCaseIgnorable with
  | c :: _ => isCased c
  | [] => false

def CaseRun.holds (r : CaseRun) (code : Nat) : Bool :=
  r.first ≤ code && code ≤ r.last && (code - r.first) % r.step = 0

/-- The lower-case form of a character that stands alone. The dotted capital I keeps its dot as a
combining character. -/
def lowercaseChar (c : Char) : List Char :=
  if c.toNat = 0x130 then ['i', Char.ofNat 0x307]
  else match caseRuns.find? (·.holds c.toNat) with
    | some r => [Char.ofNat (c.toNat + r.shift).toNat]
    | none => [c]

/-- The lower-case form of a capital sigma: final after a cased character and before none. `before`
is the text before it, last character first. -/
def lowercaseSigma (before after : List Char) : Char :=
  if meetsCased before && !meetsCased after then 'ς' else 'σ'

/-- The lower-case form of the rest of a text. `before` is what was mapped already, last character
first. -/
def lowercaseChars (before : List Char) : List Char → List Char
  | [] => []
  | c :: rest =>
    -- only the sigma looks at its surroundings
    (if c = 'Σ' then [lowercaseSigma before rest] else lowercaseChar c)
      ++ lowercaseChars (c :: before) rest

def lowercase (s : String) : String :=
  String.ofList (lowercaseChars [] s.toList)

end EntityQuery.Text
