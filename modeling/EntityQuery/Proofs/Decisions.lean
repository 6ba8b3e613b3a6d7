import EntityQuery.Proofs.FloatNumbers
import EntityQuery.Proofs.Meaning
import EntityQuery.Proofs.StoredRecords

/-!
# Decided comparisons

A test answers "no" both to a value that fails it and to a value that it cannot read.
`Test.decision?` tells the two apart: it is the answer of the test if the value can be read, and
nothing otherwise.

Three tables have to agree for a comparison to be decided: which values can be stored under a kind
of property (`Memory.admits`), which kinds an operator accepts (`Operator.Fits`), and which values a
test reads. `Kind.Carries` stands between them.

* `Kind.carries_restored` says that what is stored under a kind is read as a value that the kind
  carries.
* `Operator.decision?_eq_none_iff` says that, of these values, null alone is left undecided.
* `Operator.Splits` lists the families of operators that split all decided values, and
  `Operator.Splits.countP_passes` says that one operator of a family accepts each value.
-/

namespace EntityQuery

/-! ## Three answers

"No" is an answer, and so is having none. A test that reads its value always decides it; the
exception is a float that cannot be compared with an operand, which leaves a test undecided as well.
-/

namespace Test

/-- The answer of a test about a value that it can read. -/
def decision? (t : Test) (v : Value) : Option Bool :=
  match t with
  | text r operand cs =>
    v.asString?.map fun stored => r.holds (Text.fold cs stored) (Text.fold cs operand)
  | textIn operands cs =>
    v.asString?.map fun stored => operands.any fun o => Text.fold cs o == Text.fold cs stored
  | int r operand => v.asNumber?.map fun n => r.holds (compareOfLessAndEq n operand)
  | intBetween low high => v.asNumber?.map fun n => low ≤ n && n ≤ high
  | intIn operands negated => v.asNumber?.map fun n => operands.contains n != negated
  | float r operand => (v.asFloat?.bind (compareFloats? · operand)).map r.holds
  | floatBetween low high => do
    let x ← v.asFloat?
    let fromLow ← compareFloats? low x
    let toHigh ← compareFloats? x high
    return fromLow.isLE && toHigh.isLE
  | bytes r operand => v.asBytes?.map fun b => r.holds (compareOfLessAndEq b operand)
  | null negated => some (v.isNull != negated)

/-- What may be missing passes a check if it is there and passes. -/
theorem any_eq_true_iff_map {α : Type} {o : Option α} {f : α → Bool} :
    o.any f = true ↔ o.map f = some true := by
  cases o <;> simp

/-- A test passes the values that it decides so. -/
theorem passes_iff_decision? (t : Test) (v : Value) :
    t.passes v = true ↔ t.decision? v = some true := by
  -- the range of floats is the one test that compares twice
  cases t with
  | floatBetween low high =>
    simp only [passes, decision?]
    cases v.asFloat? with
    | none => simp
    | some x =>
      simp only [Option.any_some, Bool.and_eq_true, decide_eq_true_iff, le_iff_compare,
        ← compareFloats?_eq, Option.bind_eq_bind, Option.bind_some]
      cases compareFloats? low x <;> cases compareFloats? x high <;> simp [pure]
  | null => simp [passes, decision?]
  | text | textIn | int | intBetween | intIn | float | bytes => exact any_eq_true_iff_map

end Test

/-! ## What properties carry

What can be read under a property is null or a value of one shape, which depends on the kind.
Numbers are told by their number alone, whether they are stored with a sign or without. -/

namespace Kind

/-- Whether a property of the kind can be read with the value. -/
def Carries (k : Kind) (v : Value) : Prop :=
  v = .null ∨
    match k with
    | .bool | .integer _ => ∃ n, v.asNumber? = some n
    | .float _ => ∃ x, v = .float x ∧ x.isNaN = false
    | .text => ∃ s, v = .string s
    | .byteVector => ∃ b, v = .bytes b

/-- What a float is read back as is a number. -/
theorem isNaN_restored? {x y : Float} (h : restored? x = some y) : y.isNaN = false :=
  Numeral.isNaN_toFloat? h

/-- What can be stored under a property is read as something that the property carries. -/
theorem carries_restored {k : Kind} {v : Value} (h : Memory.admits k v = true) :
    k.Carries v.restored := by
  -- only floats are read as something else than they were stored as
  cases v with
  | null => exact .inl rfl
  | float x =>
    obtain ⟨y, hy⟩ := Option.isSome_iff_exists.mp (restored?_isSome (Memory.isFinite_of_admits h))
    refine .inr ?_
    rw [Value.restored, hy]
    cases k with
    | float k => exact ⟨y, rfl, isNaN_restored? hy⟩
    | bool | integer | text | byteVector => cases h
  | bool | int | uint | string | bytes =>
    refine .inr ?_
    cases k <;> simp_all [Memory.admits, Value.restored, Value.asNumber?, Kind.width?]

end Kind

namespace Operator

/-- A comparison that fits a property decides every value that the property carries but null. -/
theorem decision?_eq_none_iff {op : Operator} {k : Kind} {v : Value} (hfits : op.Fits k)
    (hcomparison : op.demand?.isSome = true) (hv : k.Carries v) :
    (op.test k).decision? v = none ↔ v = .null := by
  constructor
  · intro hnone
    refine hv.resolve_right fun hread => ?_
    -- operators in groups, by what they read; each group reads what the kinds that it fits carry
    cases op with
    | stringEqual | stringNotEqual | stringContains | stringStartsWith | stringEndsWith
    | stringGreater | stringLess | stringIn =>
      obtain rfl := hfits
      obtain ⟨s, rfl⟩ := hread
      cases hnone
    | intEqual | intNotEqual =>
      obtain ⟨n, hn⟩ : ∃ n, v.asNumber? = some n := by
        obtain rfl | ⟨i, rfl⟩ := hfits <;> exact hread
      simp [test, Test.decision?, hn] at hnone
    | intGreater | intLess | intBetween =>
      obtain ⟨i, rfl⟩ := hfits
      obtain ⟨n, hn⟩ := hread
      simp [test, Test.decision?, hn] at hnone
    | int64In | int64NotIn | int32In | int32NotIn =>
      obtain ⟨i, rfl, -⟩ := hfits
      obtain ⟨n, hn⟩ := hread
      simp [test, Test.decision?, hn] at hnone
    | doubleGreater a | doubleLess a =>
      obtain ⟨⟨f, rfl⟩, ha⟩ := hfits
      obtain ⟨x, rfl, hx⟩ := hread
      have hcompared := (compareFloats?_isSome_iff x a).mpr ⟨hx, ha⟩
      simp [test, Test.decision?, Value.asFloat?, ← Option.not_isSome_iff_eq_none,
        hcompared] at hnone
    | doubleBetween a b =>
      obtain ⟨⟨f, rfl⟩, ha, hb⟩ := hfits
      obtain ⟨x, rfl, hx⟩ := hread
      obtain ⟨o, ho⟩ := Option.isSome_iff_exists.mp ((compareFloats?_isSome_iff a x).mpr ⟨ha, hx⟩)
      obtain ⟨o', ho'⟩ := Option.isSome_iff_exists.mp ((compareFloats?_isSome_iff x b).mpr ⟨hx, hb⟩)
      simp [test, Test.decision?, Value.asFloat?, ho, ho'] at hnone
    | bytesEqual | bytesGreater | bytesLess =>
      obtain rfl := hfits
      obtain ⟨b, rfl⟩ := hread
      cases hnone
    | isNull | notNull => cases hcomparison
  · rintro rfl
    cases op with
    | isNull | notNull => cases hcomparison
    | _ => rfl

/-! ## Families that split

A family has the null check and then operators that exclude each other and leave nothing over: equal
or not, less or equal or greater, in a list or not. For a value that is read, one comparison of it
settles which of them accepts it. -/

/-- The families of operators of which one accepts each value of a property of a kind. -/
inductive Splits : Kind → List Operator → Prop where
  | sameNumber {k : Kind} (h : k = .bool ∨ ∃ i, k = .integer i) (a : Int64) :
    Splits k [.isNull, .intEqual a, .intNotEqual a]
  | sameText (t : String) (cs : Bool) :
    Splits .text [.isNull, .stringEqual t cs, .stringNotEqual t cs]
  | orderedNumber (i : IntegerKind) (a : Int64) :
    Splits (.integer i) [.isNull, .intLess a, .intEqual a, .intGreater a]
  | orderedText (t : String) (cs : Bool) :
    Splits .text [.isNull, .stringLess t cs false, .stringEqual t cs, .stringGreater t cs false]
  | orderedBytes (b : Bytes) :
    Splits .byteVector [.isNull, .bytesLess b false, .bytesEqual b, .bytesGreater b false]
  | wideMember {i : IntegerKind} (h : i.width = 64) (as : List Int64) :
    Splits (.integer i) [.isNull, .int64In as, .int64NotIn as]
  | narrowMember {i : IntegerKind} (h : i.width ≤ 32) (as : List Int32) :
    Splits (.integer i) [.isNull, .int32In as, .int32NotIn as]

namespace Splits

variable {k : Kind} {ops : List Operator}

/-- Every operator of a family fits the kind that the family is for. -/
theorem fits (h : Splits k ops) : ∀ op ∈ ops, op.Fits k := by
  cases h <;> simp [Fits, *]

/-- One operator of a family accepts a value that the property carries. -/
theorem countP_passes (h : Splits k ops) {v : Value} (hv : k.Carries v) :
    ops.countP (fun op => (op.test k).passes v) = 1 := by
  obtain rfl | hread := hv
  · -- null is left to the null check
    cases h <;> rfl
  -- a value that is read as a number is not null
  have hnull : ∀ n, v.asNumber? = some n → v.isNull = false := by
    cases v <;> simp [Value.asNumber?, Value.isNull]
  cases h with
  | sameNumber h a =>
    obtain ⟨n, hn⟩ : ∃ n, v.asNumber? = some n := by
      obtain rfl | ⟨i, rfl⟩ := h <;> exact hread
    cases horder : compareOfLessAndEq n (k.number64 a) <;>
      simp [test, Test.passes, hn, hnull n hn, horder, Relation.holds]
  | orderedNumber i a =>
    obtain ⟨n, hn⟩ := hread
    cases horder : compareOfLessAndEq n (Kind.number64 (.integer i) a) <;>
      simp [test, Test.passes, hn, hnull n hn, horder, Relation.holds]
  | @wideMember i h as =>
    obtain ⟨n, hn⟩ := hread
    cases hmember : (as.map (Kind.number64 (.integer i))).contains n <;>
      simp only [test, Test.passes, hn, hnull n hn, hmember, Option.any_some, List.countP_cons,
        List.countP_nil] <;> rfl
  | @narrowMember i h as =>
    obtain ⟨n, hn⟩ := hread
    cases hmember : (as.map (Kind.number32 (.integer i))).contains n <;>
      simp only [test, Test.passes, hn, hnull n hn, hmember, Option.any_some, List.countP_cons,
        List.countP_nil] <;> rfl
  | sameText t cs | orderedText t cs =>
    obtain ⟨s, rfl⟩ := hread
    cases horder : compareOfLessAndEq (Text.fold cs s) (Text.fold cs t) <;>
      simp [test, Test.passes, Value.isNull, Value.asString?, TextRelation.holds, horder,
        Relation.less, Relation.greater, Relation.holds]
  | orderedBytes b =>
    obtain ⟨b', rfl⟩ := hread
    cases horder : compareOfLessAndEq b' b <;>
      simp [test, Test.passes, Value.isNull, Value.asBytes?, horder, Relation.less,
        Relation.greater, Relation.holds]

end Splits

end Operator

end EntityQuery
