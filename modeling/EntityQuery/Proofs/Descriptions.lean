import EntityQuery.Condition.Display
import EntityQuery.Proofs.Agreement

/-!
# Descriptions read like conditions

A condition is written twice: as it stands, and once more as the predicate that it was compiled to.
Both texts are the same but for the names of properties, the mark of a comparison that ignores case,
and the numbers that operands stand for (`Memory.answer_describe_eq`). The pieces, in order:

* `Piece` says what can differ, and `Condition.pieces` cuts the text of a condition into pieces.
* `Condition.display_eq` puts the text of a condition together from the pieces as they are shown.
* `Condition.display_of_resolve` puts the text of the compiled predicate together from the same
  pieces as they are described. `Operator.display_test` is the step for one comparison: the
  twenty-five operators share nine tests.
-/

namespace EntityQuery

/-! ## Pieces of text

Both texts are made by putting pieces in a row, and a piece is written the same way wherever it
stands. So it is enough to cut the text once and to say how each sort of piece is written in the two
texts. -/

/-- A piece of the text of a condition. -/
inductive Piece where
  | fixed (text : String)
  | property (p : PropertyId)
  /-- The mark of a comparison that ignores case. -/
  | caseMark
  /-- An operand of a property, carried as a signed word of some width. -/
  | number (p : PropertyId) (width : Nat) (n : Int)
  deriving DecidableEq, Repr, Inhabited

namespace Piece

/-- How a condition shows a piece. -/
@[simp]
def shown : Piece → String
  | fixed text => text
  | property p => "#" ++ p.text
  | caseMark => " (ci)"
  | number _ _ n => n.repr

/-- How a compiled query shows a piece: properties by the names that they are declared with, and
operands by the numbers that they stand for. -/
@[simp]
def described (m : EntityModel) : Piece → String
  | fixed text => text
  | property p => (m.property? p).elim "" (·.name)
  | caseMark => " [case-insensitive]"
  | number p width n => ((m.property? p).elim n fun q => q.kind.operand width n).repr

/-- The text of some pieces, each of which is written in a given way. -/
def text (write : Piece → String) (pieces : List Piece) : String :=
  String.join (pieces.map write)

/-- Some texts with something fixed between them. -/
def separated (separator : String) (texts : List (List Piece)) : List Piece :=
  [fixed separator].intercalate texts

variable {write : Piece → String}

@[simp]
theorem text_nil : text write [] = "" :=
  rfl

@[simp]
theorem text_cons (piece : Piece) (pieces : List Piece) :
    text write (piece :: pieces) = write piece ++ text write pieces := by
  simp [text, String.join_cons]

@[simp]
theorem text_append (pieces others : List Piece) :
    text write (pieces ++ others) = text write pieces ++ text write others := by
  simp [text, String.join_append]

/-- Texts with something fixed between them are written with it between them. -/
theorem text_separated (hfixed : ∀ t, write (fixed t) = t) (separator : String)
    (texts : List (List Piece)) :
    text write (separated separator texts) =
      String.intercalate separator (texts.map (text write)) := by
  -- on the texts, with the last one apart, since nothing stands behind it
  induction texts with
  | nil => rfl
  | cons first rest ih =>
    cases rest with
    | nil => simp [separated, List.intercalate]
    | cons second rest =>
      have hcons : separated separator (first :: second :: rest) =
          first ++ fixed separator :: separated separator (second :: rest) := by
        simp [separated, List.intercalate]
      rw [hcons, text_append, text_cons, ih, hfixed]
      simp only [List.map_cons, String.intercalate_cons_cons, String.append_assoc]

end Piece

/-! ## Cutting

What does not differ between the two texts is cut as fixed text, operands that are text, floats or
bytes included. What is left are properties, marks, and numbers whose reading depends on the
property. -/

namespace Junction

/-- The pieces of a junction whose children are in pieces. -/
def pieces (j : Junction) (children : List (List Piece)) : List Piece :=
  if children.isEmpty then [.fixed j.ofNothing]
  else .fixed "(" :: Piece.separated j.word children ++ [.fixed ")"]

/-- However the pieces are written, a junction puts its children together in the same way. -/
theorem text_pieces {write : Piece → String} (hfixed : ∀ t, write (.fixed t) = t) (j : Junction)
    (children : List (List Piece)) :
    Piece.text write (j.pieces children) = j.display (children.map (Piece.text write)) := by
  unfold pieces display
  rw [List.isEmpty_map]
  split
  · simp [hfixed]
  · simp [hfixed, Piece.text_separated hfixed, String.append_assoc]

end Junction

namespace Operator

/-- The mark of a comparison that ignores case, if it does. -/
def casePieces (caseSensitive : Bool) : List Piece :=
  if caseSensitive then [] else [.caseMark]

/-- Operands in brackets. -/
def listPieces (p : PropertyId) (width : Nat) (ns : List Int) : List Piece :=
  .fixed "[" :: Piece.separated ", " (ns.map fun n => [.number p width n]) ++ [.fixed "]"]

/-- The pieces of an operator on a property. -/
def pieces (p : PropertyId) : Operator → List Piece
  | stringEqual v cs => .fixed ("== " ++ Text.quoted v) :: casePieces cs
  | stringNotEqual v cs => .fixed ("!= " ++ Text.quoted v) :: casePieces cs
  | stringContains v cs => .fixed ("contains " ++ Text.quoted v) :: casePieces cs
  | stringStartsWith v cs => .fixed ("starts with " ++ Text.quoted v) :: casePieces cs
  | stringEndsWith v cs => .fixed ("ends with " ++ Text.quoted v) :: casePieces cs
  | stringGreater v cs orEqual =>
    .fixed (greaterSign orEqual ++ " " ++ Text.quoted v) :: casePieces cs
  | stringLess v cs orEqual =>
    .fixed (lessSign orEqual ++ " " ++ Text.quoted v) :: casePieces cs
  | stringIn vs cs => .fixed ("in " ++ Text.bracketed (vs.map Text.quoted)) :: casePieces cs
  | intEqual n => [.fixed "== ", .number p 64 n.toInt]
  | intNotEqual n => [.fixed "!= ", .number p 64 n.toInt]
  | intGreater n => [.fixed "> ", .number p 64 n.toInt]
  | intLess n => [.fixed "< ", .number p 64 n.toInt]
  | intBetween a b =>
    [.fixed "between ", .number p 64 a.toInt, .fixed " and ", .number p 64 b.toInt]
  | int64In ns => .fixed "in " :: listPieces p 64 (ns.map (·.toInt))
  | int64NotIn ns => .fixed "not in " :: listPieces p 64 (ns.map (·.toInt))
  | int32In ns => .fixed "in " :: listPieces p 32 (ns.map (·.toInt))
  | int32NotIn ns => .fixed "not in " :: listPieces p 32 (ns.map (·.toInt))
  | doubleGreater x => [.fixed ("> " ++ Text.ofFloat x)]
  | doubleLess x => [.fixed ("< " ++ Text.ofFloat x)]
  | doubleBetween a b => [.fixed ("between " ++ Text.ofFloat a ++ " and " ++ Text.ofFloat b)]
  | bytesEqual b => [.fixed ("== " ++ Text.ofBytes b)]
  | bytesGreater b orEqual => [.fixed (greaterSign orEqual ++ " " ++ Text.ofBytes b)]
  | bytesLess b orEqual => [.fixed (lessSign orEqual ++ " " ++ Text.ofBytes b)]
  | isNull => [.fixed "is null"]
  | notNull => [.fixed "is not null"]

end Operator

/-- The pieces of a comparison: its property, a blank and its operator. -/
def Comparison.pieces (c : Comparison) : List Piece :=
  .property c.property :: .fixed " " :: c.op.pieces c.property

namespace Condition

mutual

/-- The pieces of a condition, from left to right. -/
def pieces : Condition → List Piece
  | compare c => c.pieces
  | join j children => j.pieces (piecesList children)

/-- The pieces of some conditions, one by one. -/
def piecesList : List Condition → List (List Piece)
  | [] => []
  | c :: rest => c.pieces :: piecesList rest

end

end Condition

/-! ## The text of a condition

One lemma for each way of writing: a condition shows the pieces of its operator, and the test that
the operator makes is described by the same pieces. The twenty-five operators fall into groups that
make the same sort of test. -/

namespace Operator

/-- Operands in brackets are written as the numbers that they stand for, in brackets. -/
theorem text_listPieces (write : Piece → String) (hfixed : ∀ t, write (.fixed t) = t)
    (p : PropertyId) (width : Nat) (ns : List Int) :
    Piece.text write (listPieces p width ns) =
      Text.bracketed (ns.map fun n => write (.number p width n)) := by
  have hmembers : (ns.map fun n => [.number p width n]).map (Piece.text write) =
      ns.map fun n => write (.number p width n) := by
    simp [Function.comp_def]
  simp [listPieces, Text.bracketed, hfixed, Piece.text_separated hfixed, hmembers,
    String.append_assoc]

theorem text_casePieces (write : Piece → String) (cs : Bool) :
    Piece.text write (casePieces cs) = if cs then "" else write .caseMark := by
  cases cs <;> simp [casePieces]

/-- The text of an operator is made of its pieces. -/
theorem display_eq (p : PropertyId) (op : Operator) :
    op.display = Piece.text Piece.shown (op.pieces p) := by
  have hlist := text_listPieces Piece.shown (fun _ => rfl) p
  -- each text is written out by the operator, and its pieces say the same
  cases op <;> simp [display, pieces, hlist, text_casePieces, caseMark, Function.comp_def,
    String.append_assoc]

/-- The sign of "greater", with or without "equal", is the same in both texts. -/
theorem greaterSign_eq (orEqual : Bool) :
    (Relation.greater orEqual).sign = greaterSign orEqual := by
  cases orEqual <;> rfl

/-- The sign of "less", with or without "equal", is the same in both texts. -/
theorem lessSign_eq (orEqual : Bool) : (Relation.less orEqual).sign = lessSign orEqual := by
  cases orEqual <;> rfl

/-- The test that an operator makes on a property has the text of the same pieces. -/
theorem display_test {m : EntityModel} {p : PropertyId} {q : Property}
    (hq : m.property? p = some q) (op : Operator) :
    (op.test q.kind).display = Piece.text (Piece.described m) (op.pieces p) := by
  cases op with
  -- tests of text are written with a relation and a mark for case
  | stringEqual | stringNotEqual | stringContains | stringStartsWith | stringEndsWith | stringIn =>
    simp [test, Test.display, TextRelation.sign, Relation.sign, pieces, text_casePieces,
      Test.caseMark, String.append_assoc]
  | stringGreater | stringLess | bytesGreater | bytesLess =>
    simp [test, Test.display, TextRelation.sign, pieces, text_casePieces, Test.caseMark,
      greaterSign_eq, lessSign_eq, String.append_assoc]
  | intEqual | intNotEqual | intGreater | intLess | intBetween =>
    simp [test, Test.display, Relation.sign, pieces, hq, Kind.number64_eq, String.append_assoc]
  -- operands are read by the kind of the property, as in the test
  | int64In | int64NotIn | int32In | int32NotIn =>
    have hlist := text_listPieces (Piece.described m) (fun _ => rfl) p
    simp [test, Test.display, Test.negation, pieces, hlist, hq, Kind.number64_eq,
      Kind.number32_eq, Function.comp_def]
  | doubleGreater | doubleLess | doubleBetween | bytesEqual | isNull | notNull =>
    simp [test, Test.display, Test.negation, Relation.sign, pieces]

end Operator

namespace Comparison

/-- The text of a comparison is made of its pieces. -/
theorem display_eq (c : Comparison) : c.display = Piece.text Piece.shown c.pieces := by
  simp [display, pieces, c.op.display_eq c.property, String.append_assoc]

/-- The test that a comparison becomes has the text of the same pieces. -/
theorem display_of_resolve {c : Comparison} {m : EntityModel} {p : Predicate}
    (h : c.resolve m = .ok p) : p.display = Piece.text (Piece.described m) c.pieces := by
  obtain ⟨q, hq, -, rfl⟩ := resolve_eq_ok_iff.mp h
  simp [Predicate.display, pieces, Operator.display_test hq, hq, String.append_assoc]

end Comparison

/-! ## The text of a tree

Junctions put the texts of their children together in one way, which both trees share. So the texts
of the trees agree as soon as those of their comparisons do. -/

theorem Predicate.displayList_eq_map (ps : List Predicate) :
    displayList ps = ps.map display := by
  induction ps with
  | nil => rfl
  | cons p rest ih => rw [displayList, ih, List.map_cons]

namespace Condition

theorem displayList_eq_map (cs : List Condition) : displayList cs = cs.map display := by
  induction cs with
  | nil => rfl
  | cons c rest ih => rw [displayList, ih, List.map_cons]

theorem piecesList_eq_map (cs : List Condition) : piecesList cs = cs.map pieces := by
  induction cs with
  | nil => rfl
  | cons c rest ih => rw [piecesList, ih, List.map_cons]

/-- The text of a condition is made of its pieces. -/
theorem display_eq (c : Condition) : c.display = Piece.text Piece.shown c.pieces := by
  induction c with
  | compare c => exact c.display_eq
  | join j children ih =>
    rw [display, pieces, Junction.text_pieces fun _ => rfl, displayList_eq_map, piecesList_eq_map,
      List.map_map]
    exact congrArg j.display (List.map_congr_left ih)

/-- The predicate that a condition becomes has the text of the same pieces: nothing is regrouped,
dropped or put in another order. -/
theorem display_of_resolve {m : EntityModel} {c : Condition} {p : Predicate}
    (h : c.resolve m = .ok p) : p.display = Piece.text (Piece.described m) c.pieces := by
  induction c generalizing p with
  | compare c => exact Comparison.display_of_resolve h
  | join j children ih =>
    obtain ⟨ps, hps, rfl⟩ := resolve_join_eq_ok_iff.mp h
    have heach := resolveList_eq_ok_iff.mp hps
    have hchildren : ps.map Predicate.display =
        children.map fun c => Piece.text (Piece.described m) c.pieces := by
      clear h hps
      -- the children become predicates one by one, in their order
      induction heach with
      | nil => rfl
      | cons hp _ ihrest =>
        rw [List.map_cons, List.map_cons, ih _ List.mem_cons_self hp,
          ihrest fun d hd => ih d (List.mem_cons_of_mem _ hd)]
    rw [Predicate.display, Predicate.displayList_eq_map, hchildren, pieces,
      Junction.text_pieces fun _ => rfl, piecesList_eq_map, List.map_map]
    rfl

end Condition

/-! ## Descriptions

A description adds a line in front that names the entity, and is otherwise the text of the predicate
that was compiled. -/

namespace Memory

variable {m : Memory} {e : EntityId} {model : EntityModel} {c : Condition}

/-- The description of a query names the entity, and then reads like the condition. Both texts are
made of the same pieces in the same order, and differ in how properties, marks and operands are
written. -/
theorem answer_describe_eq (hmodel : m.model e = .ok model) (haccepted : c.AcceptedBy model)
    (hsize : c.size < 2 ^ 32) :
    c.display = Piece.text Piece.shown c.pieces ∧
      m.answer e c .describe = .ok ("Query for entity " ++ model.name ++ " (" ++ model.id.text ++
        "): " ++ Piece.text (Piece.described model) c.pieces) := by
  obtain ⟨p, hp⟩ := Condition.exists_resolve_iff.mpr haccepted
  -- the plan that is described was made of the predicate
  have hmake := run_makePlan hmodel (Nat.le_of_lt hsize)
  rw [hp] at hmake
  refine ⟨c.display_eq, ?_⟩
  rw [answer_describe hmake, ← Condition.display_of_resolve hp]
  rfl

/-- An operand that is negative as a word is described as the number that it stands for. -/
theorem answer_describe_people :
    let people : EntityModel := ((EntityModel.new ⟨7⟩ "Person").declare ⟨3⟩ "age"
      (.integer .uint8)).declare ⟨4⟩ "name" .text
    let m := (Memory.new none).write (.register people)
    let c : Condition := .all [.compare ⟨⟨4⟩, .stringEqual "Ann" false⟩, .any [],
      .compare ⟨⟨3⟩, .int32NotIn [-1, 5]⟩]
    c.display = "(#4 == \"Ann\" (ci) AND FALSE AND #3 not in [-1, 5])" ∧
    m.answer ⟨7⟩ c .describe = .ok ("Query for entity Person (7): " ++
      "(name == \"Ann\" [case-insensitive] AND FALSE AND age not in [4294967295, 5])") := by
  intro people m c
  have hmodel : m.model ⟨7⟩ = .ok people := rfl
  have haccepted : c.AcceptedBy people := by decide +kernel
  have hsize : c.size < 2 ^ 32 := by decide
  obtain ⟨hshown, hdescribed⟩ := answer_describe_eq hmodel haccepted hsize
  have htext : Piece.text Piece.shown c.pieces =
      "(#4 == \"Ann\" (ci) AND FALSE AND #3 not in [-1, 5])" := by decide +kernel
  have htext' : Piece.text (Piece.described people) c.pieces =
      "(name == \"Ann\" [case-insensitive] AND FALSE AND age not in [4294967295, 5])" := by
    decide +kernel
  have hheader : "Query for entity " ++ people.name ++ " (" ++ people.id.text ++ "): " =
      "Query for entity Person (7): " := by decide +kernel
  rw [hshown, hdescribed, htext, htext', hheader]
  exact ⟨rfl, rfl⟩

end Memory

end EntityQuery
