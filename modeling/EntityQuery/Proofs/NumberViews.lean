import EntityQuery.Condition.View
import EntityQuery.Proofs.Registration

/-!
# Views compare numbers

Whatever words its operands travel in, a comparison that is written against an integer or Boolean
view is about numbers: a session registers it, and a record satisfies it exactly if the property
holds something that counts as a number and that number stands in the relation that the method is
named for (`NumberCall.register_tests`).

* `Value.CountsAs` says which values count as numbers.
* `NumberCall` lists the methods with their operands, and `NumberCall.Holds` says what each asks of
  a number.
* `IntegerKind.operand_ofInt64` and `IntegerKind.operand_ofInt32` say that no operand in the range
  of its kind is changed on the way.
-/

namespace EntityQuery

/-! ## Values that count as numbers

The operators on integers look at the number of a value, whichever shape it is stored in. Texts,
bytes, floats and nulls have none. -/

/-- Integers count as themselves and truth values as zero and one. -/
inductive Value.CountsAs : Value → Int → Prop where
  | int (n : Int64) : CountsAs (.int n) n.toInt
  | uint (n : UInt64) : CountsAs (.uint n) n.toNat
  | no : CountsAs (.bool false) 0
  | yes : CountsAs (.bool true) 1

/-- The number that the engine compares is the one that a value counts as. -/
theorem Value.asNumber?_eq_some_iff {v : Value} {n : Int} :
    v.asNumber? = some n ↔ v.CountsAs n := by
  constructor
  · intro h
    cases v with
    | int m => cases h; exact .int m
    | uint m => cases h; exact .uint m
    | bool b => cases b <;> cases h <;> constructor
    | null | float | string | bytes => cases h
  · intro h
    cases h <;> rfl

/-! ## Operands on the way

A number of a kind is carried by a signed word at least as wide as the kind. A kind with a sign
reads the word as it is; a kind without one reads the word without a sign that has the same bits. -/

namespace IntegerKind

theorem width_le_64 (k : IntegerKind) : k.width ≤ 64 := by
  cases k <;> decide

theorem width_le_32 {k : IntegerKind} (h : k.width ≠ 64) : k.width ≤ 32 := by
  cases k <;> revert h <;> decide

/-- The rows of the views agree with the widths of the kinds, by which a session accepts membership
tests: members are words of 64 bits for the kinds of that width, and of 32 bits for all others. -/
theorem membership_eq (k : IntegerKind) :
    k.membership = if k.width = 64 then .wide else .narrow := by
  cases k <;> rfl

/-- So the membership operators of a view fit its own kind. -/
theorem membership_fits (k : IntegerKind) (as : List Int) :
    (k.membership.isIn as).Fits (.integer k) ∧ (k.membership.notIn as).Fits (.integer k) := by
  rw [membership_eq]
  by_cases hk : k.width = 64
  · rw [if_pos hk]
    exact ⟨⟨k, rfl, hk⟩, k, rfl, hk⟩
  · rw [if_neg hk]
    exact ⟨⟨k, rfl, width_le_32 hk⟩, k, rfl, width_le_32 hk⟩

/-- A signed kind has the numbers of its words, half of them negative. -/
theorem inRange_signed_iff {k : IntegerKind} (h : k.isSigned = true) {n : Int} :
    k.InRange n ↔ -2 ^ (k.width - 1) ≤ n ∧ n < 2 ^ (k.width - 1) := by
  have hhalf : k.size / 2 = 2 ^ (k.width - 1) := by
    have hwidth : 0 < k.width := by cases k <;> decide
    rw [size, Nat.pow_eq, ← Nat.pow_div hwidth (by decide), Nat.pow_one]
  simp [InRange, h, hhalf]

theorem inRange_unsigned_iff {k : IntegerKind} (h : k.isSigned = false) {n : Int} :
    k.InRange n ↔ 0 ≤ n ∧ n < 2 ^ k.width := by
  simp [InRange, h, size]

/-- A number of a kind survives the passage through a signed word that is wide enough. -/
theorem operand_bmod {k : IntegerKind} {w : Nat} (hw : k.width ≤ w) {n : Int} (h : k.InRange n) :
    (Kind.integer k).operand w (n.bmod (2 ^ w)) = n := by
  cases hsigned : k.isSigned with
  | true =>
    -- both halves of the kind lie within the halves of the word
    obtain ⟨hlow, hhigh⟩ := (inRange_signed_iff hsigned).mp h
    have hwidth : 0 < k.width := by cases k <;> decide
    have hhalf : (2 : Int) ^ (k.width - 1) ≤ 2 ^ (w - 1) := by
      exact_mod_cast Nat.pow_le_pow_right (by decide) (Nat.sub_le_sub_right hw 1)
    have hword : (2 : Int) ^ w = 2 * 2 ^ (w - 1) := by
      rw [← pow_succ', Nat.sub_add_cancel (by omega)]
    rw [Kind.operand, if_neg (by simp [Kind.isUnsigned, hsigned])]
    apply Int.bmod_eq_of_le <;> push_cast <;> omega
  | false =>
    obtain ⟨hlow, hhigh⟩ := (inRange_unsigned_iff hsigned).mp h
    have hword : (2 : Int) ^ k.width ≤ 2 ^ w := by
      exact_mod_cast Nat.pow_le_pow_right (by decide) hw
    -- the word and the number are the same modulo the words
    have hmod : n.bmod (2 ^ w) % (2 ^ w : Nat) = n % (2 ^ w : Nat) := Int.bmod_emod
    push_cast at hmod
    rw [Kind.operand, if_pos (by simp [Kind.isUnsigned, hsigned]), hmod,
      Int.emod_eq_of_lt hlow (by omega)]

/-- An operand of any kind survives a word of 64 bits. -/
theorem operand_ofInt64 {k : IntegerKind} {n : Int} (h : k.InRange n) :
    (Kind.integer k).operand 64 (Int64.ofInt n).toInt = n := by
  rw [Int64.toInt_ofInt]
  exact operand_bmod k.width_le_64 h

theorem operand_ofInt32 {k : IntegerKind} (hk : k.width ≠ 64) {n : Int} (h : k.InRange n) :
    (Kind.integer k).operand 32 (Int32.ofInt n).toInt = n := by
  rw [Int32.toInt_ofInt]
  exact operand_bmod (width_le_32 hk) h

end IntegerKind

/-! ## The methods

The methods of the views write their operands into words, and the engine reads them back by the kind
of the property. So each method asks of a number what its name says, as long as the operands are
numbers of the kind. -/

/-- A comparison method of the views of a kind, with its operands. -/
inductive NumberCall : Kind → Type where
  | equal {k : IntegerKind} (a : Int) : NumberCall (.integer k)
  | notEqual {k : IntegerKind} (a : Int) : NumberCall (.integer k)
  | greaterThan {k : IntegerKind} (a : Int) : NumberCall (.integer k)
  | lessThan {k : IntegerKind} (a : Int) : NumberCall (.integer k)
  | between {k : IntegerKind} (low high : Int) : NumberCall (.integer k)
  | isIn {k : IntegerKind} (as : List Int) : NumberCall (.integer k)
  | notIn {k : IntegerKind} (as : List Int) : NumberCall (.integer k)
  | equalBool (b : Bool) : NumberCall .bool
  | notEqualBool (b : Bool) : NumberCall .bool

namespace NumberCall

variable {k : Kind}

/-- The condition that the method writes. -/
def condition (v : View k) : NumberCall k → Condition
  | equal a => IntegerView.equal v a
  | notEqual a => IntegerView.notEqual v a
  | greaterThan a => IntegerView.greaterThan v a
  | lessThan a => IntegerView.lessThan v a
  | between low high => IntegerView.between v low high
  | isIn as => IntegerView.isIn v as
  | notIn as => IntegerView.notIn v as
  | equalBool b => BoolView.equal v b
  | notEqualBool b => BoolView.notEqual v b

/-- Whether the operands are numbers of the kind. -/
def InRange : NumberCall k → Prop
  | @equal i a | @notEqual i a | @greaterThan i a | @lessThan i a => i.InRange a
  | @between i low high => i.InRange low ∧ i.InRange high
  | @isIn i as | @notIn i as => ∀ a ∈ as, i.InRange a
  | equalBool _ | notEqualBool _ => True

/-- What the method asks of a number. -/
def Holds (n : Int) : NumberCall k → Prop
  | equal a => n = a
  | notEqual a => n ≠ a
  | greaterThan a => n > a
  | lessThan a => n < a
  | between low high => low ≤ n ∧ n ≤ high
  | isIn as => n ∈ as
  | notIn as => n ∉ as
  | equalBool b => n = if b then 1 else 0
  | notEqualBool b => n ≠ if b then 1 else 0

/-- A list of operands that are read as they were written has the members that it was written
with. -/
theorem mem_written_iff {α : Type} (write : Int → α) (read : α → Int) {as : List Int}
    (h : ∀ a ∈ as, read (write a) = a) (n : Int) :
    (∃ b ∈ as.map write, read b = n) ↔ n ∈ as := by
  simp only [List.mem_map]
  constructor
  · rintro ⟨_, ⟨a, ha, rfl⟩, rfl⟩
    rwa [h a ha]
  · intro hn
    exact ⟨_, ⟨n, hn, rfl⟩, h n hn⟩

/-- A number is different from all members that were written exactly if it is no member. -/
theorem not_mem_written_iff {α : Type} (write : Int → α) (read : α → Int) {as : List Int}
    (h : ∀ a ∈ as, read (write a) = a) (n : Int) :
    (∀ b ∈ as.map write, read b ≠ n) ↔ n ∉ as := by
  rw [← mem_written_iff write read h]
  push Not
  rfl

/-- The operator that a method writes fits the kind of its view, and holds of the values that count
as a number of which the method asks the right thing. -/
theorem exists_operator (v : View k) (call : NumberCall k) (h : call.InRange) :
    ∃ op, call.condition v = .compare ⟨v.property.id, op⟩ ∧ op.Fits k ∧
      ∀ value, op.Holds k value ↔ ∃ n, value.CountsAs n ∧ call.Holds n := by
  simp only [← Value.asNumber?_eq_some_iff]
  cases call with
  | equal a | notEqual a | greaterThan a | lessThan a =>
    refine ⟨_, rfl, by simp [Operator.Fits], fun value => ?_⟩
    simp only [Operator.Holds, IntegerKind.operand_ofInt64 h]
    rfl
  | between low high =>
    refine ⟨_, rfl, ⟨_, rfl⟩, fun value => ?_⟩
    simp only [Operator.Holds, IntegerKind.operand_ofInt64 h.1, IntegerKind.operand_ofInt64 h.2]
    rfl
  -- the row of the kind says in which words the members are written
  | @isIn i as =>
    refine ⟨_, rfl, (i.membership_fits as).1, fun value => ?_⟩
    rw [i.membership_eq]
    -- the words of the row are wide enough for the kind
    split <;> rename_i hi <;> refine exists_congr fun n => and_congr_right fun _ => ?_
    · exact mem_written_iff Int64.ofInt (fun b => (Kind.integer i).operand 64 b.toInt)
        (fun a ha => IntegerKind.operand_ofInt64 (h a ha)) n
    · exact mem_written_iff Int32.ofInt (fun b => (Kind.integer i).operand 32 b.toInt)
        (fun a ha => IntegerKind.operand_ofInt32 hi (h a ha)) n
  | @notIn i as =>
    refine ⟨_, rfl, (i.membership_fits as).2, fun value => ?_⟩
    rw [i.membership_eq]
    split <;> rename_i hi <;> refine exists_congr fun n => and_congr_right fun _ => ?_
    · exact not_mem_written_iff Int64.ofInt (fun b => (Kind.integer i).operand 64 b.toInt)
        (fun a ha => IntegerKind.operand_ofInt64 (h a ha)) n
    · exact not_mem_written_iff Int32.ofInt (fun b => (Kind.integer i).operand 32 b.toInt)
        (fun a ha => IntegerKind.operand_ofInt32 hi (h a ha)) n
  | equalBool b =>
    refine ⟨_, rfl, .inl rfl, fun value => ?_⟩
    cases b <;> rfl
  | notEqualBool b =>
    refine ⟨_, rfl, .inl rfl, fun value => ?_⟩
    cases b <;> rfl

/-- Over a property that is declared with the kind of the view, every session registers what a
method writes, and a record satisfies it exactly if the property holds a value that counts as a
number of which the method asks the right thing. -/
theorem register_tests (s : Session) (v : View k) (call : NumberCall k) (h : call.InRange)
    {p : Property} (hp : s.model.property? v.property.id = some p) (hkind : p.kind = k) :
    ∃ c q, call.condition v = .compare c ∧ s.Registers c q ∧
      ∀ r : Record, q.holds r = true ↔
        ∃ n, (r.value v.property.id).CountsAs n ∧ call.Holds n := by
  obtain ⟨op, hop, hfits, hholds⟩ := exists_operator v call h
  subst hkind
  -- the session files the test that the operator makes on this kind
  refine ⟨_, _, hop, s.registers_of_fits hp hfits, fun r => ?_⟩
  rw [Predicate.holds, Operator.test_passes_iff]
  exact hholds _

/-- A number above the signed words and one above the signed words of half the width: both operands
travel as negative words. -/
theorem register_tests_unsigned :
    let counter : EntityModel := ((EntityModel.new ⟨3⟩ "Counter").declare ⟨1⟩ "big"
      (.integer .uint64)).declare ⟨2⟩ "mid" (.integer .uint32)
    let s : Session := .new 1 counter
    let big : IntegerView .uint64 := ⟨⟨⟨1⟩, ⟨3⟩, "big", .integer .uint64⟩⟩
    let mid : IntegerView .uint32 := ⟨⟨⟨2⟩, ⟨3⟩, "mid", .integer .uint32⟩⟩
    (∃ c q, big.between (2 ^ 63) (2 ^ 64 - 1) = .compare c ∧ s.Registers c q ∧
      ∀ r : Record, q.holds r = true ↔
        ∃ n, (r.value ⟨1⟩).CountsAs n ∧ 2 ^ 63 ≤ n ∧ n ≤ 2 ^ 64 - 1) ∧
    ∃ c q, mid.notIn [2 ^ 31, 7] = .compare c ∧ s.Registers c q ∧
      ∀ r : Record, q.holds r = true ↔ ∃ n, (r.value ⟨2⟩).CountsAs n ∧ n ∉ [2 ^ 31, 7] := by
  intro counter s big mid
  have hbig : (between (k := .uint64) (2 ^ 63) (2 ^ 64 - 1)).InRange := by
    show IntegerKind.uint64.InRange (2 ^ 63) ∧ IntegerKind.uint64.InRange (2 ^ 64 - 1)
    decide
  have hmid : (notIn (k := .uint32) [2 ^ 31, 7]).InRange := by
    show ∀ a ∈ [2 ^ 31, 7], IntegerKind.uint32.InRange a
    decide
  exact ⟨register_tests s big _ hbig rfl rfl, register_tests s mid _ hmid rfl rfl⟩

end NumberCall

end EntityQuery
