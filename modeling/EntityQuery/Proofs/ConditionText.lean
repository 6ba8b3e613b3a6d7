import EntityQuery.Encoding.Condition
import EntityQuery.Proofs.Meaning
import EntityQuery.Proofs.Nesting

/-!
# Conditions are read back from their text

The text of a condition without float operands is read back as that condition, whatever its shape,
if the brackets of the text nest at most 127 deep; if they nest deeper, the text is refused
(`Condition.read?_write_eq_ite`). So no text is read as another condition than the one it was
written for.

* `Operator.readsWithin` goes through the operators by the shape of their operands.
* `Condition.readsWithin` goes through the tree: a comparison is inside one bracket more than its
  condition, the children of a junction inside two.
-/

namespace EntityQuery

open JsonForm

/-! ## Operators

An operator is a variant whose content is its operand, a structure of its operands or nothing. So it
is read if its operands are, in one bracket less. -/

namespace Operator

/-- An operator with one operand. -/
theorem readsWithin_operand {α : Type} [JsonForm α] {a : α} (h : ReadsWithin a) {name : String}
    {make : α → Operator}
    (hmake : ∀ room j, ofVariant? room name (some j) = (ofJson? room j).map make) :
    Json.ReadsWithin (fun room j => ofVariant? room name (some j)) (toJson a) (make a) := by
  simp only [hmake]
  exact h.map make

theorem readsWithin_strings (vs : List String) : ReadsWithin vs :=
  readsWithin_list fun v _ => readsWithin_string v

theorem readsWithin_bytes (b : Bytes) : ReadsWithin b :=
  readsWithin_list fun n _ => readsWithin_uint8 n

/-- Every operator that compares no floats is read back. -/
theorem readsWithin {op : Operator} (h : op.demand? ≠ some .float) : ReadsWithin op := by
  -- by the shape of the operands: with flags, alone, a pair, or none
  cases op with
  | stringEqual v cs | stringNotEqual v cs | stringContains v cs | stringStartsWith v cs
  | stringEndsWith v cs =>
    exact ((readsWithin_string v).fields₂ (readsWithin_bool cs) (by decide) _).variant
  | stringGreater v cs orEqual | stringLess v cs orEqual =>
    exact ((readsWithin_string v).fields₃ (readsWithin_bool cs) (readsWithin_bool orEqual)
      (by decide) _).variant
  | stringIn vs cs =>
    exact ((readsWithin_strings vs).fields₂ (readsWithin_bool cs) (by decide) _).variant
  | intEqual n | intNotEqual n | intGreater n | intLess n =>
    exact (readsWithin_operand (readsWithin_int64 n) fun _ _ => rfl).variant
  | intBetween a b =>
    exact ((readsWithin_int64 a).items₂ (readsWithin_int64 b) _).variant
  | int64In ns | int64NotIn ns =>
    have hns : ReadsWithin ns := readsWithin_list fun n _ => readsWithin_int64 n
    exact (readsWithin_operand hns fun _ _ => rfl).variant
  | int32In ns | int32NotIn ns =>
    have hns : ReadsWithin ns := readsWithin_list fun n _ => readsWithin_int32 n
    exact (readsWithin_operand hns fun _ _ => rfl).variant
  | doubleGreater | doubleLess | doubleBetween => exact absurd rfl h
  | bytesEqual b => exact (readsWithin_operand (readsWithin_bytes b) fun _ _ => rfl).variant
  | bytesGreater b orEqual | bytesLess b orEqual =>
    exact ((readsWithin_bytes b).fields₂ (readsWithin_bool orEqual) (by decide) _).variant
  | isNull | notNull =>
    -- a null check is written as a string, without a bracket of its own
    refine readsWithin_of_depth_eq_zero rfl fun room => ⟨Json.writable_ofString _, ?_⟩
    show (Json.variant? room (form _)).bind _ = _
    simp only [form, Json.ofString, Json.variant?, StringPart.text?_ofString]
    rfl

end Operator

/-! ## Trees

A condition is a variant too, with a comparison or a list of children as its content. The reader
goes down the tree by a recursion of its own, which is compared here with the readers of its parts.
-/

theorem PropertyId.readsWithin (p : PropertyId) : ReadsWithin p :=
  (readsWithin_uint32 p.val).map PropertyId.mk

theorem Comparison.readsWithin {c : Comparison} (h : c.op.demand? ≠ some .float) :
    ReadsWithin c :=
  (PropertyId.readsWithin c.property).fields₂ (Operator.readsWithin h) (by decide) Comparison.mk

namespace Condition

theorem forms_eq_map (cs : List Condition) : forms cs = cs.map form := by
  induction cs with
  | nil => rfl
  | cons c cs ih => rw [forms, ih, List.map_cons]

theorem ofForms?_eq_mapM (room : Nat) (js : List Json) :
    ofForms? room js = js.mapM (ofForm? room) := by
  induction js with
  | nil => rfl
  | cons j js ih => rw [ofForms?, ih, List.mapM_cons]

/-- The content of a comparison's variant is read as a comparison. -/
theorem ofForm?_compare (room : Nat) (c : Comparison) :
    ofForm? (room + 1) (.ofVariant "Compare" (toJson c)) =
      (ofJson? room (toJson c) : Option Comparison).map compare := by
  simp only [Json.ofVariant, Json.ofMembers, toJson, List.map_cons, List.map_nil, ofForm?,
    Json.enter?, StringPart.text?_ofString, Option.bind_eq_bind, Option.bind_some, if_true]
  exact Option.map_eq_bind.symm

/-- The content of a junction's variant is read as a list of conditions, in another bracket. -/
theorem ofForm?_join (room : Nat) (j : Junction) (items : List Json) :
    ofForm? (room + 1) (.ofVariant j.tag (.array items)) =
      (Json.enter? room).bind fun room => (items.mapM (ofForm? room)).map (join j) := by
  have htag : j.tag ≠ "Compare" ∧ Junction.ofTag? j.tag = some j := by cases j <;> decide
  simp only [Json.ofVariant, Json.ofMembers, List.map_cons, List.map_nil, ofForm?, Json.enter?,
    StringPart.text?_ofString, Option.bind_eq_bind, Option.bind_some, if_neg htag.1, htag.2,
    ofForms?_eq_mapM]
  cases room with
  | zero => rfl
  | succ room => exact Option.map_eq_bind.symm

/-- A comparison is inside one bracket, that of its variant. -/
theorem readsWithin_compare {c : Comparison} (h : ReadsWithin c) : ReadsWithin (compare c) where
  writable := by
    show (Json.ofVariant "Compare" (toJson c)).Writable
    rw [Json.ofVariant, Json.writable_ofMembers_iff, List.forall_mem_singleton]
    exact h.writable
  eq_ite room := by
    show ofForm? room (.ofVariant "Compare" (toJson c)) =
      if (Json.ofVariant "Compare" (toJson c)).depth ≤ room then _ else _
    rw [Json.depth_ofVariant]
    cases room with
    | zero => rfl
    | succ room =>
      rw [ofForm?_compare, (h.map compare).eq_ite]
      exact if_congr Nat.succ_le_succ_iff.symm rfl rfl

/-- The children of a junction are inside two brackets, those of its variant and of their list. -/
theorem readsWithin_join (j : Junction) {children : List Condition}
    (h : ∀ c ∈ children, ReadsWithin c) : ReadsWithin (join j children) where
  writable := by
    show (form (join j children)).Writable
    rw [form, Json.ofVariant, Json.writable_ofMembers_iff, List.forall_mem_singleton, forms_eq_map]
    exact (readsWithin_list h).writable
  eq_ite room := by
    show ofForm? room (form (join j children)) =
      if (form (join j children)).depth ≤ room then _ else _
    rw [form, Json.depth_ofVariant, Json.depth, forms_eq_map]
    -- room for no bracket, for the variant alone, or for its list too
    rcases room with _ | _ | room
    · rfl
    · rw [ofForm?_join]
      rfl
    · have hitems : (children.map form).mapM (ofForm? room) = _ := mapM_ofJson? h room
      rw [ofForm?_join, Json.enter?, Option.bind_some, hitems, apply_ite (Option.map (join j))]
      exact if_congr (by rw [Nat.add_le_add_iff_right, Nat.add_le_add_iff_right]; rfl) rfl rfl

/-- A condition without float operands is read back in as much room as its form needs. -/
theorem readsWithin {c : Condition} (h : ∀ leaf ∈ c.leaves, leaf.op.demand? ≠ some .float) :
    ReadsWithin c := by
  induction c with
  | compare c => exact readsWithin_compare (Comparison.readsWithin (h c (by simp [leaves])))
  | join j children ih =>
    refine readsWithin_join j fun c hc => ih c hc fun leaf hleaf => h leaf ?_
    rw [leaves]
    exact mem_leavesList.mpr ⟨c, hc, hleaf⟩

/-- A condition without float operands is read back from its text if the brackets of the text nest
at most 127 deep, and otherwise its text is refused. -/
theorem read?_write_eq_ite (c : Condition) (h : ∀ leaf ∈ c.leaves, leaf.op.demand? ≠ some .float) :
    ∃ ts, Token.lex? (write c) = some ts ∧
      read? Condition (write c) = if Token.nesting 0 ts ≤ 127 then some c else none :=
  (readsWithin h).read?_write

/-- Inside 60 junctions more, the text of the operand lists is as deep as is read, and comes back;
inside 61 it is refused. -/
theorem read?_write_eq_ite_nested :
    let leaf (op : Operator) : Condition := .compare ⟨⟨3⟩, op⟩
    let inner : Condition := .any [leaf .isNull, leaf (.intBetween (-1) 5), .all [],
      leaf (.stringIn ["\"", "é"] false), leaf (.bytesLess [0, 255] true)]
    let nested (n : Nat) : Condition := (fun c => .all [c])^[n] inner
    (∀ n ∈ [60, 61], ∀ d ∈ (nested n).leaves, d.op.demand? ≠ some .float) ∧
      read? Condition (write (nested 60)) = some (nested 60) ∧
      read? Condition (write (nested 61)) = none := by
  intro leaf inner nested
  have hleaves : ∀ n ∈ [60, 61], ∀ d ∈ (nested n).leaves, d.op.demand? ≠ some .float := by decide
  obtain ⟨ts, hts, hread⟩ := read?_write_eq_ite (nested 60) (hleaves 60 (by simp))
  obtain ⟨us, hus, hrefused⟩ := read?_write_eq_ite (nested 61) (hleaves 61 (by simp))
  have hwithin : (Token.lex? (write (nested 60))).map (Token.nesting 0) = some 127 := by
    decide +kernel
  have hdeeper : (Token.lex? (write (nested 61))).map (Token.nesting 0) = some 129 := by
    decide +kernel
  rw [hts, Option.map_some, Option.some.injEq] at hwithin
  rw [hus, Option.map_some, Option.some.injEq] at hdeeper
  exact ⟨hleaves, hread.trans (if_pos hwithin.le), hrefused.trans (if_neg (by omega))⟩

end Condition

end EntityQuery
