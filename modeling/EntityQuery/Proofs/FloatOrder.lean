import EntityQuery.Predicate.Basic
import Mathlib

/-!
# The order of floats

Floats are compared by four questions in turn (`compareFloats?`). That is the comparison of floating
point numbers, in which something that is no number compares with nothing and the two zeros are
equal, so each of `<`, `==` and `≤` says what the comparison says.
-/

namespace EntityQuery

open Float.Model

/-- Comparing the other way round turns the answer round. -/
theorem compare_unpacked_swap (a b : UnpackedFloat) :
    (a.compare b).map Ordering.swap = b.compare a := by
  -- of all pairs of shapes, only two finite numbers of one sign compare by their parts
  rcases a with (_ | _) | _ | _ | ⟨_ | _, m, e, hm⟩ <;>
    rcases b with (_ | _) | _ | _ | ⟨_ | _, m', e', hm'⟩ <;>
    simp only [UnpackedFloat.compare, Option.map_some, Option.map_none, Ordering.swap_then] <;>
    try rfl
  all_goals
    rw [← Int.compare_swap, ← Nat.compare_swap]
    simp

/-- A float is less than another exactly if their parts compare so. -/
theorem lt_iff_compare (x y : Float) :
    x < y ↔ x.toModel.unpack.compare y.toModel.unpack = some .lt := by
  show decide (x.toModel < y.toModel) = true ↔ _
  rw [decide_eq_true_iff]
  exact beq_iff_eq

/-- Two floats are equal exactly if their parts compare so, which the two zeros do. -/
theorem beq_iff_compare (x y : Float) :
    (x == y) = true ↔ x.toModel.unpack.compare y.toModel.unpack = some .eq := by
  show (x.toModel.unpack.compare y.toModel.unpack == some .eq) = true ↔ _
  exact beq_iff_eq

/-- The four questions find the comparison of the two numbers. -/
theorem compareFloats?_eq (x y : Float) :
    compareFloats? x y = x.toModel.unpack.compare y.toModel.unpack := by
  -- one question is asked with the two floats exchanged
  have hswap : y < x ↔ x.toModel.unpack.compare y.toModel.unpack = some .gt := by
    rw [lt_iff_compare, ← compare_unpacked_swap]
    cases x.toModel.unpack.compare y.toModel.unpack with
    | none => simp
    | some o => cases o <;> simp
  simp only [compareFloats?, lt_iff_compare x y, beq_iff_compare, hswap]
  -- each answer of the comparison is found by one question, and none by the last
  cases x.toModel.unpack.compare y.toModel.unpack with
  | none => simp
  | some o => cases o <;> simp

theorem compareFloats?_eq_lt {x y : Float} : compareFloats? x y = some .lt ↔ x < y := by
  rw [compareFloats?_eq, lt_iff_compare]

theorem compareFloats?_eq_gt {x y : Float} : compareFloats? x y = some .gt ↔ y < x := by
  rw [compareFloats?_eq, lt_iff_compare, ← compare_unpacked_swap x.toModel.unpack]
  cases x.toModel.unpack.compare y.toModel.unpack with
  | none => simp
  | some o => cases o <;> simp

end EntityQuery
