import EntityQuery.Condition.Meaning
import EntityQuery.Predicate.Resolve
import EntityQuery.Proofs.FloatOrder

/-!
# Predicates mean what their conditions mean

A condition that a schema accepts resolves to a predicate (`Condition.resolve`), and a record
satisfies the predicate exactly if the condition holds of it.

* `Operator.test_passes_iff` settles the operators one by one: the test that an operator makes on a
  kind of property passes a value exactly if the operator holds of it.
* `Condition.exists_resolve_iff` says that the conditions that resolve are the accepted ones.
* `Condition.holds_of_resolve` carries the operators' lemma over the tree.
-/

namespace EntityQuery

/-! ## Relations

`compareOfLessAndEq` asks "less" first and "equal" second. In a linear order the third answer is
"greater", and every relation reads as its sign says. -/

namespace Relation

/-- What a relation asks of two things that are ordered. -/
def Relates {α : Type} [LT α] : Relation → α → α → Prop
  | eq, a, b => a = b
  | ne, a, b => a ≠ b
  | gt, a, b => b < a
  | ge, a, b => b < a ∨ a = b
  | lt, a, b => a < b
  | le, a, b => a < b ∨ a = b

/-- Reading a relation off the comparison of two things is what it asks of them. -/
theorem holds_compare_iff {α : Type} [LT α] [LE α] [DecidableLT α] [DecidableEq α]
    [Std.IsLinearOrder α] [Std.LawfulOrderLT α] (r : Relation) (a b : α) :
    r.holds (compareOfLessAndEq a b) = true ↔ r.Relates a b := by
  have hlt : ∀ x y : α, x < y ↔ ¬ y < x ∧ x ≠ y :=
    lt_iff_not_gt_and_ne_of_antisymm_of_total_of_not_le Std.le_antisymm
      (fun _ _ => Std.le_total) Std.not_le
  by_cases h : a < b
  · have := (hlt a b).mp h
    cases r <;> simp [Relates, holds, compareOfLessAndEq, h, this]
  · by_cases h' : a = b
    · subst h'
      cases r <;> simp [Relates, holds, compareOfLessAndEq, h]
    · have : b < a := (hlt b a).mpr ⟨h, Ne.symm h'⟩
      cases r <;> simp [Relates, holds, compareOfLessAndEq, h, h', this]

/-- "Greater" with or without "equal", as one statement over the flag. -/
theorem relates_greater {α : Type} [LT α] (orEqual : Bool) (a b : α) :
    (greater orEqual).Relates a b ↔ b < a ∨ orEqual = true ∧ a = b := by
  cases orEqual <;> simp [greater, Relates]

/-- "Less" with or without "equal", as one statement over the flag. -/
theorem relates_less {α : Type} [LT α] (orEqual : Bool) (a b : α) :
    (less orEqual).Relates a b ↔ a < b ∨ orEqual = true ∧ a = b := by
  cases orEqual <;> simp [less, Relates]

end Relation

/-! ## Operands

An unsigned property reads a signed word as the word without a sign that has the same bits, which is
the word's number modulo the size of the word. -/

/-- The unsigned reading of a word is its signed reading modulo the size of the word. -/
theorem toNat_eq_toInt_emod {w : Nat} (x : BitVec w) : (x.toNat : Int) = x.toInt % 2 ^ w := by
  have hbound : (x.toNat : Int) < ((2 ^ w : Nat) : Int) := by exact_mod_cast x.isLt
  have hmod := Int.bmod_emod (x := (x.toNat : Int)) (m := 2 ^ w)
  rw [← BitVec.toInt_eq_toNat_bmod, Int.emod_eq_of_lt (by omega) hbound] at hmod
  rw [← hmod]
  norm_cast

namespace Kind

theorem number64_eq (k : Kind) (n : Int64) : k.number64 n = k.operand 64 n.toInt := by
  simp only [number64, operand]
  split
  · exact toNat_eq_toInt_emod n.toBitVec
  · rfl

theorem number32_eq (k : Kind) (n : Int32) : k.number32 n = k.operand 32 n.toInt := by
  simp only [number32, operand]
  split
  · exact toNat_eq_toInt_emod n.toBitVec
  · rfl

end Kind

/-! ## Tests

One lemma for each sort of test: a value passes if it has the shape that the test is about and what
it holds stands in the relation that the test asks for. -/

namespace Test

/-- A test of text passes text that stands in its relation, after folding both. -/
theorem passes_text_iff (r : TextRelation) (t : String) (cs : Bool) (v : Value) :
    (text r t cs).passes v = true ↔ v.IsText cs fun s => r.holds s (Text.fold cs t) = true := by
  cases v <;> simp [passes, Value.IsText, Value.asString?]

/-- A test of order passes text that is ordered as it asks. -/
theorem passes_order_iff (r : Relation) (t : String) (cs : Bool) (v : Value) :
    (text (.order r) t cs).passes v = true ↔ v.IsText cs fun s => r.Relates s (Text.fold cs t) := by
  simp only [passes_text_iff, TextRelation.holds, Relation.holds_compare_iff]

/-- A test of membership passes text that one of its entries is equal to. -/
theorem passes_textIn_iff (ts : List String) (cs : Bool) (v : Value) :
    (textIn ts cs).passes v = true ↔ v.IsText cs fun s => ∃ t ∈ ts, Text.fold cs t = s := by
  cases v <;> simp [passes, Value.IsText, Value.asString?]

/-- A test of a number passes numbers that stand in its relation. -/
theorem passes_int_iff (r : Relation) (a : Int) (v : Value) :
    (int r a).passes v = true ↔ v.IsNumber fun n => r.Relates n a := by
  simp [passes, Value.IsNumber, Option.any_eq_true, Relation.holds_compare_iff]

/-- A test of a range passes numbers between its ends, both included. -/
theorem passes_intBetween_iff (a b : Int) (v : Value) :
    (intBetween a b).passes v = true ↔ v.IsNumber fun n => a ≤ n ∧ n ≤ b := by
  simp [passes, Value.IsNumber, Option.any_eq_true]

/-- A test of membership passes numbers that are listed, or numbers that are not. -/
theorem passes_intIn_iff (as : List Int) (negated : Bool) (v : Value) :
    (intIn as negated).passes v = true ↔ v.IsNumber fun n => (n ∈ as) ↔ negated = false := by
  simp only [passes, Value.IsNumber, Option.any_eq_true]
  refine exists_congr fun n => and_congr_right fun _ => ?_
  by_cases h : n ∈ as <;> cases negated <;> simp [h]

/-- A test of a float passes floats that are comparable with its operand and stand in its relation.
-/
theorem passes_float_iff (r : Relation) (a : Float) (v : Value) :
    (float r a).passes v = true ↔ v.IsFloat fun x => (compareFloats? x a).any r.holds = true := by
  cases v <;> simp [passes, Value.IsFloat, Value.asFloat?]

/-- A test of a range passes floats between its ends, both included. -/
theorem passes_floatBetween_iff (a b : Float) (v : Value) :
    (floatBetween a b).passes v = true ↔ v.IsFloat fun x => a ≤ x ∧ x ≤ b := by
  cases v <;> simp [passes, Value.IsFloat, Value.asFloat?]

/-- A test of bytes passes bytes that are ordered as it asks. -/
theorem passes_bytes_iff (r : Relation) (a : Bytes) (v : Value) :
    (bytes r a).passes v = true ↔ v.IsBytes fun b => r.Relates b a := by
  cases v <;> simp [passes, Value.IsBytes, Value.asBytes?, Relation.holds_compare_iff]

end Test

namespace Operator

/-- The test that an operator makes on a property of a kind passes the values that the operator
holds of. -/
theorem test_passes_iff (op : Operator) (k : Kind) (v : Value) :
    (op.test k).passes v = true ↔ op.Holds k v := by
  cases op with
  | stringEqual | stringNotEqual => simp only [test, Holds, Test.passes_order_iff, Relation.Relates]
  | stringContains =>
    simp only [test, Holds, Test.passes_text_iff, TextRelation.holds, Text.contains,
      Text.isInside_iff]
  | stringStartsWith =>
    simp only [test, Holds, Test.passes_text_iff, TextRelation.holds, Text.startsWith,
      List.isPrefixOf_iff_prefix]
  | stringEndsWith =>
    simp only [test, Holds, Test.passes_text_iff, TextRelation.holds, Text.endsWith,
      List.isSuffixOf_iff_suffix]
  | stringGreater | bytesGreater =>
    simp only [test, Holds, Test.passes_order_iff, Test.passes_bytes_iff,
      Relation.relates_greater, gt_iff_lt]
  | stringLess | bytesLess =>
    simp only [test, Holds, Test.passes_order_iff, Test.passes_bytes_iff, Relation.relates_less]
  | stringIn => simp only [test, Holds, Test.passes_textIn_iff]
  | intEqual | intNotEqual | intGreater | intLess =>
    simp only [test, Holds, Test.passes_int_iff, Relation.Relates, Kind.number64_eq, gt_iff_lt]
  | intBetween => simp only [test, Holds, Test.passes_intBetween_iff, Kind.number64_eq]
  | int64In | int64NotIn =>
    simp [test, Holds, Test.passes_intIn_iff, Kind.number64_eq]
  | int32In | int32NotIn =>
    simp [test, Holds, Test.passes_intIn_iff, Kind.number32_eq]
  | doubleGreater =>
    simp [test, Holds, Test.passes_float_iff, Option.any_eq_true, Relation.holds,
      compareFloats?_eq_gt]
  | doubleLess =>
    simp [test, Holds, Test.passes_float_iff, Option.any_eq_true, Relation.holds,
      compareFloats?_eq_lt]
  | doubleBetween => simp only [test, Holds, Test.passes_floatBetween_iff]
  | bytesEqual => simp only [test, Holds, Test.passes_bytes_iff, Relation.Relates]
  | isNull | notNull => cases v <;> simp [test, Test.passes, Holds, Value.isNull]

end Operator

/-! ## Accepted conditions

An operator fits a kind if the kind is what the operator demands and no operand of it is a float
that is no number. The session checks these two in its own order; here they are one condition on the
operator and the kind, so that a comparison resolves exactly if its operator fits. -/

/-- An operator fits a kind if it has no operand that is not a number and the kind is one that it
demands. -/
theorem Operator.fits_iff (op : Operator) (k : Kind) :
    op.Fits k ↔ op.hasNaN = false ∧ ∀ d ∈ op.demand?, d.accepts k = true := by
  cases op <;> cases k <;>
    simp [Operator.Fits, Operator.hasNaN, Operator.demand?, Demand.accepts, Kind.isInteger,
      Kind.isFloat, Kind.width?]

namespace Comparison

/-- A comparison becomes the test of its operator on the property that it names, if the schema
accepts it. -/
theorem resolve_eq_ok_iff {c : Comparison} {m : EntityModel} {q : Predicate} :
    c.resolve m = .ok q ↔ ∃ p, m.property? c.property = some p ∧ c.op.Fits p.kind ∧
      q = .compare c.property p.name (c.op.test p.kind) := by
  simp only [resolve, Operator.fits_iff]
  cases hnan : c.op.hasNaN with
  | true => simp
  | false =>
    cases hproperty : m.property? c.property with
    | none => simp
    | some p =>
      cases hdemand : c.op.demand? with
      | none => simp [@eq_comm _ q]
      | some d => cases haccepts : d.accepts p.kind <;>
          simp [Option.filter_some, haccepts, @eq_comm _ q]

/-- A comparison becomes a predicate exactly if the schema accepts it. -/
theorem exists_resolve_iff {c : Comparison} {m : EntityModel} :
    (∃ p, c.resolve m = .ok p) ↔ c.AcceptedBy m := by
  simp only [resolve_eq_ok_iff, AcceptedBy]
  exact ⟨fun ⟨_, p, hp, hfits, _⟩ => ⟨p, hp, hfits⟩, fun ⟨p, hp, hfits⟩ => ⟨_, p, hp, hfits, rfl⟩⟩

/-- The test that a comparison becomes passes the records that the comparison holds of. -/
theorem holds_of_resolve {c : Comparison} {m : EntityModel} {q : Predicate}
    (h : c.resolve m = .ok q) (r : Record) : q.holds r = true ↔ c.Holds m r := by
  obtain ⟨p, hproperty, -, rfl⟩ := resolve_eq_ok_iff.mp h
  simp [Predicate.holds, Operator.test_passes_iff, Holds, hproperty]

end Comparison

/-! ## Resolved conditions

A condition becomes a tree of the same shape, from left to right. It is refused as soon as one of
its comparisons is, so a junction is accepted exactly if all its children are, whatever it joins
them by. -/

namespace Condition

mutual

/-- The predicate that a condition is on entities of a model. The leftmost comparison that the
schema refuses gives the error. -/
def resolve (m : EntityModel) : Condition → Except Error Predicate
  | compare c => c.resolve m
  | join j children => do
    let ps ← resolveList m children
    return .join j ps

/-- The predicates that some conditions are, one after the other. -/
def resolveList (m : EntityModel) : List Condition → Except Error (List Predicate)
  | [] => return []
  | c :: rest => do
    let p ← c.resolve m
    let ps ← resolveList m rest
    return p :: ps

end

/-- A junction becomes the junction of what its children become. -/
theorem resolve_join_eq_ok_iff {m : EntityModel} {j : Junction} {children : List Condition}
    {p : Predicate} :
    (join j children).resolve m = .ok p ↔
      ∃ ps, resolveList m children = .ok ps ∧ p = .join j ps := by
  simp [resolve, bind_eq_ok, pure, Except.pure, @eq_comm _ p]

/-- A junction is refused only because of its children, and with their error. -/
theorem resolve_join_eq_error_iff {m : EntityModel} {j : Junction} {children : List Condition}
    {err : Error} :
    (join j children).resolve m = .error err ↔ resolveList m children = .error err := by
  simp [resolve, bind_eq_error, pure, Except.pure]

/-- Some conditions become predicates if each of them becomes the one in its place. -/
theorem resolveList_eq_ok_iff {m : EntityModel} {cs : List Condition} {ps : List Predicate} :
    resolveList m cs = .ok ps ↔ List.Forall₂ (fun c p => c.resolve m = .ok p) cs ps := by
  induction cs generalizing ps with
  | nil => simp [resolveList, pure, Except.pure, @eq_comm _ _ ps]
  | cons c rest ih =>
    simp only [resolveList, bind_eq_ok, ih, List.forall₂_cons_left_iff]
    constructor
    · rintro ⟨p, hp, ps', hps, hcons⟩
      exact ⟨p, ps', hp, hps, (Except.ok.inj hcons).symm⟩
    · rintro ⟨p, ps', hp, hps, rfl⟩
      exact ⟨p, hp, ps', hps, rfl⟩

/-- Some conditions are refused because of the first of them that is. -/
theorem exists_refused_child {m : EntityModel} {cs : List Condition} {err : Error}
    (h : resolveList m cs = .error err) :
    ∃ before c after ps, cs = before ++ c :: after ∧ resolveList m before = .ok ps ∧
      c.resolve m = .error err := by
  induction cs with
  | nil => cases h
  | cons c rest ih =>
    -- either the head is refused, or it is accepted and the first refused one is further right
    rcases bind_eq_error.mp h with hc | ⟨p, hp, hrest⟩
    · exact ⟨[], c, rest, [], rfl, rfl, hc⟩
    · have hrest : resolveList m rest = .error err := by
        rcases bind_eq_error.mp hrest with hrest | ⟨ps, -, hps⟩
        · exact hrest
        · cases hps
      -- the offender of the rest comes after one more condition that is accepted
      obtain ⟨before, d, after, ps, rfl, hps, hd⟩ := ih hrest
      refine ⟨c :: before, d, after, p :: ps, rfl, ?_, hd⟩
      rw [resolveList, hp, hps]
      rfl

theorem leavesList_append (cs ds : List Condition) :
    leavesList (cs ++ ds) = leavesList cs ++ leavesList ds := by
  induction cs with
  | nil => rfl
  | cons c cs ih => rw [List.cons_append, leavesList, ih, leavesList, List.append_assoc]

/-- A comparison is one of a list of conditions if it is one of some condition of the list. -/
theorem mem_leavesList {cs : List Condition} {leaf : Comparison} :
    leaf ∈ leavesList cs ↔ ∃ c ∈ cs, leaf ∈ c.leaves := by
  induction cs with
  | nil => simp [leavesList]
  | cons c rest ih => simp [leavesList, ih]

/-- A junction is accepted if its children are. -/
theorem acceptedBy_join_iff {m : EntityModel} {j : Junction} {children : List Condition} :
    (join j children).AcceptedBy m ↔ ∀ c ∈ children, c.AcceptedBy m := by
  simp only [AcceptedBy, leaves, mem_leavesList]
  constructor
  · exact fun h c hc leaf hleaf => h leaf ⟨c, hc, hleaf⟩
  · rintro h leaf ⟨c, hc, hleaf⟩
    exact h c hc leaf hleaf

/-- Some conditions become predicates exactly if each of them does. -/
theorem exists_resolveList_iff {m : EntityModel} {cs : List Condition} :
    (∃ ps, resolveList m cs = .ok ps) ↔ ∀ c ∈ cs, ∃ p, c.resolve m = .ok p := by
  simp only [resolveList_eq_ok_iff]
  induction cs with
  | nil => simp
  | cons c rest ih =>
    simp only [List.forall₂_cons_left_iff, List.forall_mem_cons, ← ih]
    constructor
    · rintro ⟨_, p, ps, hp, hps, rfl⟩
      exact ⟨⟨p, hp⟩, ps, hps⟩
    · rintro ⟨⟨p, hp⟩, ps, hps⟩
      exact ⟨p :: ps, p, ps, hp, hps, rfl⟩

/-- A condition becomes a predicate exactly if the schema accepts it. -/
theorem exists_resolve_iff {m : EntityModel} {c : Condition} :
    (∃ p, c.resolve m = .ok p) ↔ c.AcceptedBy m := by
  induction c with
  | compare c => simp [resolve, Comparison.exists_resolve_iff, AcceptedBy, leaves]
  | join j children ih =>
    rw [acceptedBy_join_iff]
    constructor
    · rintro ⟨p, hp⟩ c hc
      obtain ⟨ps, hps, -⟩ := resolve_join_eq_ok_iff.mp hp
      exact (ih c hc).mp (exists_resolveList_iff.mp ⟨ps, hps⟩ c hc)
    · intro h
      obtain ⟨ps, hps⟩ := exists_resolveList_iff.mpr fun c hc => (ih c hc).mpr (h c hc)
      exact ⟨.join j ps, resolve_join_eq_ok_iff.mpr ⟨ps, hps, rfl⟩⟩

instance (m : EntityModel) (c : Condition) : Decidable (c.AcceptedBy m) :=
  decidable_of_iff ((c.resolve m).isOk = true) <| by
    rw [← exists_resolve_iff]
    cases c.resolve m <;> simp [Except.isOk, Except.toBool]

/-! ## Evaluation

What a predicate says of a record follows its tree, and so does what a condition says of it. The two
go along with each other node by node, starting from the tests at the leaves. -/

/-- The answers of some predicates are the answers of each of them, in a row. -/
theorem holdsList_eq_map (r : Record) (ps : List Predicate) :
    Predicate.holdsList r ps = ps.map (·.holds r) := by
  induction ps with
  | nil => rfl
  | cons p rest ih => simp [Predicate.holdsList, ih]

/-- A junction holds if all of its children hold, or if one of them does. -/
theorem holds_join_iff {m : EntityModel} {r : Record} {j : Junction} {children : List Condition} :
    (join j children).Holds m r ↔
      match j with
      | .all => ∀ c ∈ children, c.Holds m r
      | .any => ∃ c ∈ children, c.Holds m r := by
  constructor
  · intro h
    cases h with
    | all h => exact h
    | any hc h => exact ⟨_, hc, h⟩
  · cases j with
    | all => exact .all
    | any => exact fun ⟨_, hc, h⟩ => .any hc h

theorem holds_compare_iff {m : EntityModel} {r : Record} {c : Comparison} :
    (compare c).Holds m r ↔ c.Holds m r :=
  ⟨fun h => by cases h; assumption, .compare⟩

/-- The predicate that a condition becomes is satisfied by the records that the condition holds
of. -/
theorem holds_of_resolve {m : EntityModel} {c : Condition} {p : Predicate}
    (h : c.resolve m = .ok p) (r : Record) : p.holds r = true ↔ c.Holds m r := by
  -- over the tree; a comparison is the case of its operator
  induction c generalizing p with
  | compare c => rw [holds_compare_iff, Comparison.holds_of_resolve h]
  | join j children ih =>
    obtain ⟨ps, hps, rfl⟩ := resolve_join_eq_ok_iff.mp h
    rw [holds_join_iff, Predicate.holds, holdsList_eq_map]
    -- the children hold one by one with their predicates
    have heach := resolveList_eq_ok_iff.mp hps
    clear h hps
    induction heach with
    | nil => cases j <;> simp [Junction.evaluate]
    | cons hp _ ihrest =>
      have hhead := ih _ List.mem_cons_self hp
      have hrest := ihrest fun d hd => ih d (List.mem_cons_of_mem _ hd)
      cases j <;> simp_all [Junction.evaluate]

end Condition

end EntityQuery
