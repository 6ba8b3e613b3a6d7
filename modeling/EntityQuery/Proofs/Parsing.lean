import EntityQuery.Json.Parser
import EntityQuery.Proofs.Lexing

/-!
# Written values are read back

The compact text of a JSON value is read as that value (`Json.parse?_bytes`), if it holds only
strings and numbers that can be written.

* `Json.foldlM_tokens` runs the parser over the tokens of a value, which takes it from expecting a
  value to having one, whatever containers it is in.
* `Json.spelled_tokens` says that the tokens of a value stand apart when something that ends a value
  follows.
* `Json.writable_array_iff` and `Json.writable_object_iff` reduce containers to what they hold.
-/

namespace EntityQuery

namespace Json

/-! ## The parser on the tokens of a value

The parser is a machine with a stack of open containers. The tokens of a value take it from the
state that expects a value to the one that has it, and leave the stack as it was. -/

/-- A value has a first token, which does not end an array. -/
theorem exists_tokens_eq_cons (j : Json) : ∃ t ts, j.tokens = t :: ts ∧ t ≠ .closeBracket := by
  cases j with
  | array items => cases items <;> exact ⟨.openBracket, _, rfl, by decide⟩
  | object members => cases members <;> exact ⟨.openBrace, _, rfl, by decide⟩
  | _ => exact ⟨_, [], rfl, by simp⟩

/-- The first item of an array is read like any other value. -/
theorem foldlM_firstItem (j : Json) (outer : List Frame) :
    j.tokens.foldlM State.step? (.firstItem outer) =
      j.tokens.foldlM State.step? (.value (.items [] :: outer)) := by
  obtain ⟨t, ts, htokens, hne⟩ := exists_tokens_eq_cons j
  -- the two states differ in the closing bracket alone
  have hstep : State.step? (.firstItem outer) t = State.step? (.value (.items [] :: outer)) t := by
    cases t <;> first | rfl | exact absurd rfl hne
  rw [htokens, List.foldlM_cons, List.foldlM_cons, hstep]

mutual

/-- The tokens of a value are read as that value. -/
theorem foldlM_tokens (outer : List Frame) :
    (j : Json) → j.tokens.foldlM State.step? (.value outer) = some (.after j outer)
  | null | bool _ | number _ | string _ | array [] | object [] => rfl
  -- the first item is read where an array could still be empty, the others after commas
  | array (item :: items) => by
    rw [tokens, List.cons_append, List.foldlM_cons]
    simp only [State.step?, State.start?, bind, Option.bind]
    rw [List.foldlM_append, foldlM_firstItem, foldlM_tokens _ item]
    exact foldlM_itemTokens outer item [] items
  | object ((key, value) :: members) => by
    rw [tokens, List.cons_append, List.cons_append, List.cons_append, List.foldlM_cons]
    simp only [State.step?, State.start?, bind, Option.bind, List.foldlM_cons]
    rw [List.foldlM_append, foldlM_tokens _ value]
    exact foldlM_memberTokens outer key value [] members

/-- The items after one that is complete; `done` are those before it, last first. -/
theorem foldlM_itemTokens (outer : List Frame) (v : Json) (done : List Json) :
    (items : List Json) →
      (itemTokens items).foldlM State.step? (.after v (.items done :: outer)) =
        some (.after (.array ((v :: done).reverse ++ items)) outer)
  | [] => by rw [List.append_nil]; rfl
  | item :: items => by
    rw [itemTokens, List.cons_append, List.foldlM_cons]
    simp only [State.step?, bind, Option.bind]
    rw [List.foldlM_append, foldlM_tokens _ item, List.append_cons, ← List.reverse_cons]
    exact foldlM_itemTokens outer item (v :: done) items

/-- The members after one that is complete; `done` are those before it, last first. -/
theorem foldlM_memberTokens (outer : List Frame) (k : List StringPart) (v : Json)
    (done : List (List StringPart × Json)) :
    (members : List (List StringPart × Json)) →
      (memberTokens members).foldlM State.step? (.after v (.members done k :: outer)) =
        some (.after (.object (((k, v) :: done).reverse ++ members)) outer)
  | [] => by rw [List.append_nil]; rfl
  | (key, value) :: members => by
    rw [memberTokens, List.cons_append, List.cons_append, List.cons_append, List.foldlM_cons]
    simp only [State.step?, bind, Option.bind, List.foldlM_cons]
    rw [List.foldlM_append, foldlM_tokens _ value, List.append_cons, ← List.reverse_cons]
    exact foldlM_memberTokens outer key value ((k, v) :: done) members

end

/-! ## Values that can be written

Strings and numbers are written as they are held, so not everything that a value can hold has a
text. Which values have one is a matter of their tokens. -/

/-- Strings and numbers anywhere in the value can be written, keys included. -/
def Writable (j : Json) : Prop :=
  ∀ t ∈ j.tokens, t.Writable

theorem writable_itemTokens_iff (items : List Json) :
    (∀ t ∈ itemTokens items, t.Writable) ↔ ∀ item ∈ items, item.Writable := by
  induction items with
  | nil => simp [itemTokens, Token.Writable]
  | cons item items ih =>
    rw [itemTokens, List.cons_append, List.forall_mem_cons, List.forall_mem_append, ih,
      List.forall_mem_cons]
    simp [Writable, Token.Writable]

theorem writable_memberTokens_iff (members : List (List StringPart × Json)) :
    (∀ t ∈ memberTokens members, t.Writable) ↔
      ∀ m ∈ members, (∀ part ∈ m.1, part.Writable) ∧ m.2.Writable := by
  induction members with
  | nil => simp [memberTokens, Token.Writable]
  | cons member members ih =>
    obtain ⟨key, value⟩ := member
    rw [memberTokens, List.cons_append, List.cons_append, List.cons_append, List.forall_mem_cons,
      List.forall_mem_cons, List.forall_mem_cons, List.forall_mem_append, ih, List.forall_mem_cons]
    simp [Writable, Token.Writable, and_assoc]

/-- An array can be written if its items can. -/
theorem writable_array_iff (items : List Json) :
    (array items).Writable ↔ ∀ item ∈ items, item.Writable := by
  rw [← writable_itemTokens_iff]
  cases items with
  | nil => simp [Writable, tokens, itemTokens, Token.Writable]
  | cons item items =>
    rw [Writable, tokens, itemTokens, List.cons_append, List.cons_append, List.forall_mem_cons,
      List.forall_mem_cons]
    rfl

theorem writable_object_iff (members : List (List StringPart × Json)) :
    (object members).Writable ↔
      ∀ m ∈ members, (∀ part ∈ m.1, part.Writable) ∧ m.2.Writable := by
  rw [← writable_memberTokens_iff]
  rcases members with _ | ⟨⟨key, value⟩, members⟩
  · simp [Writable, tokens, memberTokens, Token.Writable]
  · rw [Writable, tokens, memberTokens, List.cons_append, List.cons_append, List.forall_mem_cons]
    simp only [List.cons_append, List.forall_mem_cons]
    rfl

/-! ## The tokens of a value stand apart

A number could run on into the text after it. Inside a value it never does, since every value in a
container is followed by a comma or by a closing bracket. -/

theorem closes_of_head?_itemTokens (items : List Json) (ts : List Token) :
    ∀ t ∈ (itemTokens items ++ ts).head?, t.closes := by
  cases items <;> simp [itemTokens, Token.closes]

theorem closes_of_head?_memberTokens (members : List (List StringPart × Json)) (ts : List Token) :
    ∀ t ∈ (memberTokens members ++ ts).head?, t.closes := by
  cases members <;> simp [memberTokens, Token.closes]

mutual

/-- The tokens of a value stand apart from each other and from what ends the value. -/
theorem spelled_tokens {ts : List Token} (hts : Token.Spelled ts)
    (hcloses : ∀ t ∈ ts.head?, t.closes) :
    (j : Json) → (∀ t ∈ j.tokens, t.Writable) → Token.Spelled (j.tokens ++ ts)
  | null, _ | bool _, _ => .cons trivial trivial hts
  | number _, h => .cons (h _ (by simp [tokens])) (Token.endsBefore_of_closes _ hcloses) hts
  | string _, h => .cons (h _ (by simp [tokens])) trivial hts
  | array [], _ | object [], _ => .cons trivial trivial (.cons trivial trivial hts)
  -- behind its first token, a container is written as its items are after a comma
  | array (item :: items), h => by
    cases spelled_itemTokens hts (item :: items) (List.forall_mem_cons.mpr
      ⟨trivial, (List.forall_mem_cons.mp h).2⟩) with
    | cons _ _ rest => exact .cons trivial trivial rest
  | object (member :: members), h => by
    cases spelled_memberTokens hts (member :: members) (List.forall_mem_cons.mpr
      ⟨trivial, (List.forall_mem_cons.mp h).2⟩) with
    | cons _ _ rest => exact .cons trivial trivial rest

theorem spelled_itemTokens {ts : List Token} (hts : Token.Spelled ts) :
    (items : List Json) → (∀ t ∈ itemTokens items, t.Writable) →
      Token.Spelled (itemTokens items ++ ts)
  | [], _ => .cons trivial trivial hts
  | item :: items, h => by
    rw [itemTokens, List.cons_append, List.forall_mem_cons, List.forall_mem_append] at h
    rw [itemTokens, List.cons_append, List.cons_append, List.append_assoc]
    refine .cons trivial trivial (spelled_tokens ?_ ?_ item h.2.1)
    · exact spelled_itemTokens hts items h.2.2
    · exact closes_of_head?_itemTokens items ts

theorem spelled_memberTokens {ts : List Token} (hts : Token.Spelled ts) :
    (members : List (List StringPart × Json)) → (∀ t ∈ memberTokens members, t.Writable) →
      Token.Spelled (memberTokens members ++ ts)
  | [], _ => .cons trivial trivial hts
  | (key, value) :: members, h => by
    simp only [memberTokens, List.cons_append, List.forall_mem_cons, List.forall_mem_append] at h
    obtain ⟨-, hkey, -, hvalue, hmembers⟩ := h
    simp only [memberTokens, List.cons_append, List.append_assoc]
    refine .cons trivial trivial (.cons hkey trivial (.cons trivial trivial
      (spelled_tokens ?_ ?_ value hvalue)))
    · exact spelled_memberTokens hts members hmembers
    · exact closes_of_head?_memberTokens members ts

end

theorem ofTokens?_tokens (j : Json) : ofTokens? j.tokens = some j := by
  rw [ofTokens?, foldlM_tokens]

/-- A value is read back from its text. -/
theorem parse?_bytes {j : Json} (h : j.Writable) : parse? j.bytes = some j := by
  have hspelled : Token.Spelled j.tokens := by
    simpa using spelled_tokens .nil (by simp) j h
  rw [parse?, bytes, Token.lex?_bytes hspelled, Option.bind_some, ofTokens?_tokens]

end Json

end EntityQuery
