import EntityQuery.Value

/-!
# Conditions

A condition is a tree of comparisons, joined by "all" and "any". It is plain data: it names
properties by id and holds operands as they were given. Which properties there are, and what an
operand means for a property, is settled when the condition is registered with a builder session.
-/

namespace EntityQuery

/-- An operator with its operands. Integer operands are signed words whatever the property: an
unsigned operand is carried as the signed word with the same bits. -/
inductive Operator where
  | stringEqual (value : String) (caseSensitive : Bool)
  | stringNotEqual (value : String) (caseSensitive : Bool)
  | stringContains (value : String) (caseSensitive : Bool)
  | stringStartsWith (value : String) (caseSensitive : Bool)
  | stringEndsWith (value : String) (caseSensitive : Bool)
  | stringGreater (value : String) (caseSensitive orEqual : Bool)
  | stringLess (value : String) (caseSensitive orEqual : Bool)
  | stringIn (values : List String) (caseSensitive : Bool)
  | intEqual (value : Int64)
  | intNotEqual (value : Int64)
  | intGreater (value : Int64)
  | intLess (value : Int64)
  | intBetween (low high : Int64)
  | int64In (values : List Int64)
  | int64NotIn (values : List Int64)
  | int32In (values : List Int32)
  | int32NotIn (values : List Int32)
  | doubleGreater (value : Float)
  | doubleLess (value : Float)
  | doubleBetween (low high : Float)
  | bytesEqual (value : Bytes)
  | bytesGreater (value : Bytes) (orEqual : Bool)
  | bytesLess (value : Bytes) (orEqual : Bool)
  | isNull
  | notNull
  deriving BEq, Inhabited

/-- A comparison against one property. -/
structure Comparison where
  property : PropertyId
  op : Operator
  deriving BEq, Inhabited

/-- How conditions are joined: every one has to hold, or some one. -/
inductive Junction where
  | all
  | any
  deriving DecidableEq, Repr, Inhabited

/-- A condition on the objects of one entity. A conjunction of nothing holds of every object and a
disjunction of nothing of none. -/
inductive Condition where
  | compare (c : Comparison)
  | join (j : Junction) (children : List Condition)
  deriving Inhabited

namespace Condition

/-- What holds of comparisons, and of a junction if it holds of its children, holds of every
condition. -/
@[elab_as_elim, induction_eliminator]
theorem induct {motive : Condition → Prop} (compare : ∀ c, motive (compare c))
    (join : ∀ j children, (∀ c ∈ children, motive c) → motive (join j children))
    (c : Condition) : motive c :=
  @Condition.rec motive (fun children => ∀ c ∈ children, motive c) compare join
    (fun _ h => absurd h List.not_mem_nil)
    (fun _ _ hc hrest => List.forall_mem_cons.mpr ⟨hc, hrest⟩) c

mutual

/-- Whether two conditions are built alike. Float operands are compared as numbers, so a condition
with an operand that is no number is not even like itself. -/
def same : Condition → Condition → Bool
  | compare c, compare d => c == d
  | join j children, join j' children' => j == j' && sameList children children'
  | _, _ => false

def sameList : List Condition → List Condition → Bool
  | [], [] => true
  | c :: rest, d :: rest' => c.same d && sameList rest rest'
  | _, _ => false

end

instance : BEq Condition := ⟨same⟩

abbrev all (children : List Condition) : Condition :=
  join .all children

abbrev any (children : List Condition) : Condition :=
  join .any children

/-- Joins one more condition to the right: appended when the left one is joined the same way
already, and beside it otherwise. -/
def joinWith (j : Junction) (c other : Condition) : Condition :=
  match c with
  | join j' children => if j' = j then join j (children ++ [other]) else join j [c, other]
  | compare _ => join j [c, other]

def and (c other : Condition) : Condition :=
  joinWith .all c other

def or (c other : Condition) : Condition :=
  joinWith .any c other

mutual

/-- The comparisons of a condition, from left to right. -/
def leaves : Condition → List Comparison
  | compare c => [c]
  | join _ children => leavesList children

def leavesList : List Condition → List Comparison
  | [] => []
  | c :: rest => c.leaves ++ leavesList rest

end

mutual

/-- How many comparisons a condition holds. -/
def leafCount : Condition → Nat
  | compare _ => 1
  | join _ children => leafCountList children

def leafCountList : List Condition → Nat
  | [] => 0
  | c :: rest => c.leafCount + leafCountList rest

end

theorem leafCountList_eq {cs : List Condition} (h : ∀ c ∈ cs, c.leafCount = c.leaves.length) :
    leafCountList cs = (leavesList cs).length := by
  induction cs with
  | nil => rfl
  | cons c rest ih =>
    obtain ⟨hc, hrest⟩ := List.forall_mem_cons.mp h
    rw [leafCountList, leavesList, List.length_append, hc, ih hrest]

/-- The count of the comparisons is the length of their list. -/
theorem leafCount_eq (c : Condition) : c.leafCount = c.leaves.length := by
  induction c with
  | compare c => rfl
  | join j children ih => rw [leafCount, leaves, leafCountList_eq ih]

mutual

/-- How many comparisons and junctions a condition holds. -/
def size : Condition → Nat
  | compare _ => 1
  | join _ children => sizeList children + 1

def sizeList : List Condition → Nat
  | [] => 0
  | c :: rest => c.size + sizeList rest

end

end Condition

end EntityQuery
