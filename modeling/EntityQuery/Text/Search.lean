/-!
# Finding one text inside another

Whether one text occurs in another, begins it or ends it, character by character.
-/

namespace EntityQuery.Text

/-- Whether a list occurs in another without a gap. -/
def isInside {α : Type} [BEq α] (part : List α) : List α → Bool
  | [] => part.isEmpty
  | a :: rest => part.isPrefixOf (a :: rest) || isInside part rest

def contains (whole part : String) : Bool :=
  isInside part.toList whole.toList

def startsWith (whole part : String) : Bool :=
  part.toList.isPrefixOf whole.toList

def endsWith (whole part : String) : Bool :=
  part.toList.isSuffixOf whole.toList

theorem isInside_iff {α : Type} [BEq α] [LawfulBEq α] {part whole : List α} :
    isInside part whole = true ↔ part <:+: whole := by
  induction whole with
  | nil => simp [isInside]
  | cons a rest ih => simp [isInside, ih, List.infix_cons_iff]

end EntityQuery.Text
