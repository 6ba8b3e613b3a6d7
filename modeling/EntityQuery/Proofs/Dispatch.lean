import EntityQuery.Engine

/-!
# Comparisons and their primitives

A comparison is forwarded to a primitive, and nothing of it is lost or changed on the way: the
primitive is called with the comparison's property, its operands and its flags, each in its place
(`Comparison.comparison_primitive`). Every call of a primitive is that of one comparison
(`Primitive.primitive_comparison`), so a comparison is as good as its primitive.
-/

namespace EntityQuery

namespace Primitive

/-- The comparison that a call of the primitive stands for, read off its name and arguments. -/
def comparison : Primitive → Comparison
  | stringEqual p value caseSensitive => ⟨p, .stringEqual value caseSensitive⟩
  | stringNotEqual p value caseSensitive => ⟨p, .stringNotEqual value caseSensitive⟩
  | stringContains p value caseSensitive => ⟨p, .stringContains value caseSensitive⟩
  | stringStartsWith p value caseSensitive => ⟨p, .stringStartsWith value caseSensitive⟩
  | stringEndsWith p value caseSensitive => ⟨p, .stringEndsWith value caseSensitive⟩
  | stringGreater p value caseSensitive orEqual => ⟨p, .stringGreater value caseSensitive orEqual⟩
  | stringLess p value caseSensitive orEqual => ⟨p, .stringLess value caseSensitive orEqual⟩
  | stringIn p values caseSensitive => ⟨p, .stringIn values caseSensitive⟩
  | intEqual p n => ⟨p, .intEqual n⟩
  | intNotEqual p n => ⟨p, .intNotEqual n⟩
  | intGreater p n => ⟨p, .intGreater n⟩
  | intLess p n => ⟨p, .intLess n⟩
  | intBetween p low high => ⟨p, .intBetween low high⟩
  | int64In p ns => ⟨p, .int64In ns⟩
  | int64NotIn p ns => ⟨p, .int64NotIn ns⟩
  | int32In p ns => ⟨p, .int32In ns⟩
  | int32NotIn p ns => ⟨p, .int32NotIn ns⟩
  | doubleGreater p x => ⟨p, .doubleGreater x⟩
  | doubleLess p x => ⟨p, .doubleLess x⟩
  | doubleBetween p low high => ⟨p, .doubleBetween low high⟩
  | bytesEqual p b => ⟨p, .bytesEqual b⟩
  | bytesGreater p b orEqual => ⟨p, .bytesGreater b orEqual⟩
  | bytesLess p b orEqual => ⟨p, .bytesLess b orEqual⟩
  | isNull p => ⟨p, .isNull⟩
  | notNull p => ⟨p, .notNull⟩

/-- Every call of a primitive is what some comparison is forwarded to. -/
theorem primitive_comparison (p : Primitive) : p.comparison.primitive = p := by
  cases p <;> rfl

end Primitive

namespace Comparison

/-- The primitive that a comparison is forwarded to carries the comparison: its property, its
operator, and the operator's operands and flags. -/
@[simp]
theorem comparison_primitive (c : Comparison) : c.primitive.comparison = c := by
  obtain ⟨p, op⟩ := c
  -- one primitive for each of the twenty-five operators
  cases op <;> rfl

end Comparison

end EntityQuery
