import EntityQuery.Proofs.Forms

/-!
# How deep brackets nest

A text is read only if its brackets nest no deeper than the reader has room for. Here that is made
exact for texts that were written: what is written with enough room is read back, and with less room
it is refused (`JsonForm.ReadsWithin`).

* `Token.nesting` goes through the tokens of a text and counts the brackets that are open.
* `Json.depth` counts them along the structure of a value, and `Json.nesting_tokens` says that both
  agree.
* `Json.ReadsWithin.fields₂`, `Json.ReadsWithin.variant` and `JsonForm.readsWithin_list` take one
  bracket for a structure, a variant and a list, and leave the rest of the room to what is inside.
-/

namespace EntityQuery

/-! ## Brackets of a text

The depth of a text is the largest number of brackets that are open at some place in it. For the
text of a value that is how deep the value's containers are in each other. -/

namespace Token

/-- How many brackets are open behind a token. -/
def openAfter (depth : Nat) : Token → Nat
  | openBrace | openBracket => depth + 1
  | closeBrace | closeBracket => depth - 1
  | colon | comma | null | bool _ | number _ | string _ => depth

/-- How many brackets are open at most, from where `depth` are open on. -/
def nesting (depth : Nat) : List Token → Nat
  | [] => depth
  | t :: ts => max depth (nesting (t.openAfter depth) ts)

theorem le_nesting (depth : Nat) (ts : List Token) : depth ≤ nesting depth ts := by
  cases ts with
  | nil => exact Nat.le_refl depth
  | cons t ts => exact Nat.le_max_left ..

end Token

namespace Json

mutual

/-- How deep the brackets of a value nest. -/
def depth : Json → Nat
  | null | bool _ | number _ | string _ => 0
  | array items => depthOfItems items + 1
  | object members => depthOfMembers members + 1

/-- How deep the deepest item is. -/
def depthOfItems : List Json → Nat
  | [] => 0
  | item :: items => max item.depth (depthOfItems items)

/-- How deep the deepest member is. -/
def depthOfMembers : List (List StringPart × Json) → Nat
  | [] => 0
  | (_, value) :: members => max value.depth (depthOfMembers members)

end

open Token (nesting openAfter le_nesting)

mutual

/-- The tokens of a value nest as deep as the value does, and leave no bracket open. -/
theorem nesting_tokens (d : Nat) (ts : List Token) :
    (j : Json) → nesting d (j.tokens ++ ts) = max (d + j.depth) (nesting d ts)
  | null | bool _ | number _ | string _ => rfl
  | array [] | object [] => by
    have := le_nesting d ts
    simp only [tokens, List.cons_append, List.nil_append, nesting, openAfter, depth, depthOfItems,
      depthOfMembers, Nat.add_sub_cancel]
    omega
  -- the item is inside the bracket that opens, and the one that closes is among the items left
  | array (item :: items) => by
    have hitem := nesting_tokens (d + 1) (itemTokens items ++ ts) item
    have hitems := nesting_itemTokens d ts items
    simp only [tokens, List.cons_append, List.append_assoc, nesting, openAfter, hitem, hitems,
      depth, depthOfItems]
    omega
  | object ((key, value) :: members) => by
    have hvalue := nesting_tokens (d + 1) (memberTokens members ++ ts) value
    have hmembers := nesting_memberTokens d ts members
    simp only [tokens, List.cons_append, List.append_assoc, nesting, openAfter, hvalue, hmembers,
      depth, depthOfMembers]
    omega

/-- The rest of an array, which is inside one bracket more than what follows. -/
theorem nesting_itemTokens (d : Nat) (ts : List Token) :
    (items : List Json) →
      nesting (d + 1) (itemTokens items ++ ts) = max (d + 1 + depthOfItems items) (nesting d ts)
  | [] => by
    simp only [itemTokens, List.singleton_append, nesting, openAfter, Nat.add_sub_cancel,
      depthOfItems, Nat.add_zero]
  | item :: items => by
    have hitem := nesting_tokens (d + 1) (itemTokens items ++ ts) item
    have hitems := nesting_itemTokens d ts items
    simp only [itemTokens, List.cons_append, List.append_assoc, nesting, openAfter, hitem, hitems,
      depthOfItems]
    omega

/-- The rest of an object, which is inside one bracket more than what follows. -/
theorem nesting_memberTokens (d : Nat) (ts : List Token) :
    (members : List (List StringPart × Json)) →
      nesting (d + 1) (memberTokens members ++ ts) =
        max (d + 1 + depthOfMembers members) (nesting d ts)
  | [] => by
    simp only [memberTokens, List.singleton_append, nesting, openAfter, Nat.add_sub_cancel,
      depthOfMembers, Nat.add_zero]
  | (key, value) :: members => by
    have hvalue := nesting_tokens (d + 1) (memberTokens members ++ ts) value
    have hmembers := nesting_memberTokens d ts members
    simp only [memberTokens, List.cons_append, List.append_assoc, nesting, openAfter, hvalue,
      hmembers, depthOfMembers]
    omega

end

/-- The brackets of a written text nest as deep as those of the value it is written for. -/
theorem lex?_bytes_nesting {j : Json} (h : j.Writable) :
    ∃ ts, Token.lex? j.bytes = some ts ∧ nesting 0 ts = j.depth := by
  have hspelled : Token.Spelled j.tokens := by
    simpa using spelled_tokens .nil (by simp) j h
  refine ⟨j.tokens, Token.lex?_bytes hspelled, ?_⟩
  simpa [nesting] using nesting_tokens 0 [] j

/-! ## Brackets that are entered

A reader pays for a bracket when it enters a container. What is written as a structure or a variant
costs one bracket more than its deepest part. -/

theorem depth_ofMembers (members : List (String × Json)) :
    (ofMembers members).depth = depthOfItems (members.map (·.2)) + 1 := by
  rw [ofMembers, depth]
  congr 1
  induction members with
  | nil => rfl
  | cons m members ih => rw [List.map_cons, depthOfMembers, ih, List.map_cons, depthOfItems]

theorem depth_ofVariant (name : String) (content : Json) :
    (ofVariant name content).depth = content.depth + 1 := by
  rw [ofVariant, depth_ofMembers]
  simp [depthOfItems]

/-- The fields of a structure are found if there is room for a bracket. -/
theorem fields?_ofMembers_eq (room : Nat) (members : List (String × Json))
    (hnodup : (members.map (·.1)).Nodup) :
    (ofMembers members).fields? room (members.map (·.1)) =
      (enter? room).map (members.map (·.2), ·) := by
  cases room with
  | zero => rfl
  | succ room => exact fields?_ofMembers room hnodup

/-- The name and the content of a variant are found if there is room for a bracket. -/
theorem variant?_ofVariant (room : Nat) (name : String) (content : Json) :
    (ofVariant name content).variant? room = (enter? room).map (name, some content, ·) := by
  cases room with
  | zero => rfl
  | succ room =>
    simp only [ofVariant, ofMembers, List.map_cons, List.map_nil, variant?, enter?,
      StringPart.text?_ofString, Option.bind_eq_bind, Option.bind_some, Option.map_some]
    rfl

end Json

/-! ## Readers

A reader is a function of the room there is. What it makes of a value can be told apart from the
type that it reads. -/

namespace Json

variable {α β γ δ : Type} {j : Json}

/-- Whether the value can be written, and is read as `a` exactly when as many brackets may be open
as its own nest. -/
structure ReadsWithin (read? : Nat → Json → Option α) (j : Json) (a : α) : Prop where
  writable : j.Writable
  eq_ite : ∀ room, read? room j = if j.depth ≤ room then some a else none

namespace ReadsWithin

theorem map {read? : Nat → Json → Option α} {a : α} (h : ReadsWithin read? j a) (f : α → β) :
    ReadsWithin (fun room j => (read? room j).map f) j (f a) where
  writable := h.writable
  eq_ite room := by
    rw [h.eq_ite, apply_ite (Option.map f)]
    rfl

/-- A structure of two fields takes a bracket itself. -/
theorem fields₂ {first? : Nat → Json → Option α} {second? : Nat → Json → Option β} {j j' : Json}
    {a : α} {b : β} (ha : ReadsWithin first? j a) (hb : ReadsWithin second? j' b)
    {first second : String} (hne : first ≠ second) (make : α → β → δ) :
    ReadsWithin
      (fun room j => do
        match ← j.fields? room [first, second] with
        | ([x, y], room) => return make (← first? room x) (← second? room y)
        | _ => none)
      (ofMembers [(first, j), (second, j')]) (make a b) where
  writable := by
    rw [writable_ofMembers_iff, List.forall_mem_cons, List.forall_mem_singleton]
    exact ⟨ha.writable, hb.writable⟩
  eq_ite room := by
    have hfields : (ofMembers [(first, j), (second, j')]).fields? room [first, second] = _ :=
      fields?_ofMembers_eq room [(first, j), (second, j')] (by simpa using hne)
    rw [hfields, depth_ofMembers]
    cases room with
    | zero => rfl
    | succ room =>
      simp only [enter?, Option.map_some, List.map_cons, List.map_nil, Option.bind_eq_bind,
        Option.bind_some, ha.eq_ite, hb.eq_ite, depthOfItems, Nat.add_le_add_iff_right, Nat.max_le]
      -- the fields need the room that the deeper of them needs
      by_cases hfirst : j.depth ≤ room <;> by_cases hsecond : j'.depth ≤ room <;>
        simp [hfirst, hsecond]

theorem fields₃ {first? : Nat → Json → Option α} {second? : Nat → Json → Option β}
    {third? : Nat → Json → Option γ} {j j' j'' : Json} {a : α} {b : β} {c : γ}
    (ha : ReadsWithin first? j a) (hb : ReadsWithin second? j' b) (hc : ReadsWithin third? j'' c)
    {first second third : String} (hnodup : [first, second, third].Nodup)
    (make : α → β → γ → δ) :
    ReadsWithin
      (fun room j => do
        match ← j.fields? room [first, second, third] with
        | ([x, y, z], room) =>
          return make (← first? room x) (← second? room y) (← third? room z)
        | _ => none)
      (ofMembers [(first, j), (second, j'), (third, j'')]) (make a b c) where
  writable := by
    rw [writable_ofMembers_iff, List.forall_mem_cons, List.forall_mem_cons,
      List.forall_mem_singleton]
    exact ⟨ha.writable, hb.writable, hc.writable⟩
  eq_ite room := by
    have hfields : (ofMembers [(first, j), (second, j'), (third, j'')]).fields? room
        [first, second, third] = _ :=
      fields?_ofMembers_eq room [(first, j), (second, j'), (third, j'')] hnodup
    rw [hfields, depth_ofMembers]
    cases room with
    | zero => rfl
    | succ room =>
      simp only [enter?, Option.map_some, List.map_cons, List.map_nil, Option.bind_eq_bind,
        Option.bind_some, ha.eq_ite, hb.eq_ite, hc.eq_ite, depthOfItems, Nat.add_le_add_iff_right,
        Nat.max_le]
      by_cases hfirst : j.depth ≤ room <;> by_cases hsecond : j'.depth ≤ room <;>
        by_cases hthird : j''.depth ≤ room <;> simp [hfirst, hsecond, hthird]

/-- A pair of items takes a bracket itself. -/
theorem items₂ {first? : Nat → Json → Option α} {second? : Nat → Json → Option β} {j j' : Json}
    {a : α} {b : β} (ha : ReadsWithin first? j a) (hb : ReadsWithin second? j' b)
    (make : α → β → δ) :
    ReadsWithin
      (fun room j => do
        match ← j.items? room with
        | ([x, y], room) => return make (← first? room x) (← second? room y)
        | _ => none)
      (array [j, j']) (make a b) where
  writable := by
    rw [writable_array_iff, List.forall_mem_cons, List.forall_mem_singleton]
    exact ⟨ha.writable, hb.writable⟩
  eq_ite room := by
    cases room with
    | zero => rfl
    | succ room =>
      simp only [items?, enter?, Option.map_some, Option.bind_eq_bind, Option.bind_some, ha.eq_ite,
        hb.eq_ite, depth, depthOfItems, Nat.add_le_add_iff_right, Nat.max_le]
      by_cases hfirst : j.depth ≤ room <;> by_cases hsecond : j'.depth ≤ room <;>
        simp [hfirst, hsecond]

/-- A variant takes a bracket and leaves the rest of the room to its content. -/
theorem variant {content? : Nat → String → Option Json → Option α} {name : String} {a : α}
    (h : ReadsWithin (fun room j => content? room name (some j)) j a) :
    ReadsWithin
      (fun room j => do
        let (name, content, room) ← j.variant? room
        content? room name content)
      (ofVariant name j) a where
  writable := by
    rw [ofVariant, writable_ofMembers_iff, List.forall_mem_singleton]
    exact h.writable
  eq_ite room := by
    rw [variant?_ofVariant, depth_ofVariant]
    cases room with
    | zero => rfl
    | succ room => exact (h.eq_ite room).trans (if_congr Nat.succ_le_succ_iff.symm rfl rfl)

end ReadsWithin

end Json

/-! ## Members of a type

Truth values, words and texts have no brackets. A list has one, and its items share the room that is
left, so it needs as much as its deepest item and one more. -/

namespace JsonForm

open Json (depthOfItems)

variable {α : Type} [JsonForm α]

/-- Whether `a` can be written, and is read back exactly when as many brackets may be open as its
own form needs. -/
abbrev ReadsWithin (a : α) : Prop :=
  Json.ReadsWithin ofJson? (toJson a) a

/-- The text of a member is read back if its brackets nest within the limit, and refused if they
nest deeper. -/
theorem ReadsWithin.read?_write {a : α} (h : ReadsWithin a) :
    ∃ ts, Token.lex? (write a) = some ts ∧
      read? α (write a) = if Token.nesting 0 ts ≤ Json.maxDepth then some a else none := by
  obtain ⟨ts, hlex, hnesting⟩ := Json.lex?_bytes_nesting h.writable
  refine ⟨ts, hlex, ?_⟩
  rw [read?, write, Json.parse?_bytes h.writable, hnesting, ← h.eq_ite]
  rfl

/-- What is written without brackets needs no room. -/
theorem readsWithin_of_depth_eq_zero {a : α} (hdepth : (toJson a).depth = 0)
    (h : ∀ room, ReadsBack room a) : ReadsWithin a where
  writable := (h 0).writable
  eq_ite room := by rw [(h room).ofJson?, hdepth, if_pos (Nat.zero_le room)]

theorem readsWithin_bool (b : Bool) : ReadsWithin b :=
  readsWithin_of_depth_eq_zero rfl fun room => readsBack_bool room b

theorem readsWithin_string (s : String) : ReadsWithin s :=
  readsWithin_of_depth_eq_zero rfl fun room => readsBack_string room s

theorem readsWithin_uint8 (n : UInt8) : ReadsWithin n :=
  readsWithin_of_depth_eq_zero rfl fun room => readsBack_uint8 room n

theorem readsWithin_int64 (n : Int64) : ReadsWithin n :=
  readsWithin_of_depth_eq_zero rfl fun room => readsBack_int64 room n

theorem readsWithin_int32 (n : Int32) : ReadsWithin n :=
  readsWithin_of_depth_eq_zero rfl fun _ => {
    writable := Json.writable_ofInt _
    ofJson? := by
      simp only [JsonForm.ofJson?, toJson, Json.intWithin?_ofInt n.minValue_le_toInt n.toInt_le,
        Option.map_some, Int32.ofInt_toInt] }

theorem readsWithin_uint32 (n : UInt32) : ReadsWithin n :=
  readsWithin_of_depth_eq_zero rfl fun _ => {
    writable := Json.writable_ofInt _
    ofJson? := by
      simp only [JsonForm.ofJson?, toJson, Json.natBelow?_ofInt n.toNat_lt, Option.map_some,
        UInt32.ofNat_toNat] }

theorem mapM_ofJson? {as : List α} (h : ∀ a ∈ as, ReadsWithin a) (room : Nat) :
    (as.map toJson).mapM (ofJson? room) =
      if depthOfItems (as.map toJson) ≤ room then some as else none := by
  induction as with
  | nil => rfl
  | cons a as ih =>
    obtain ⟨ha, has⟩ := List.forall_mem_cons.mp h
    rw [List.map_cons, List.mapM_cons, ha.eq_ite, ih has, depthOfItems]
    by_cases hhead : (toJson a).depth ≤ room <;>
      by_cases htail : depthOfItems (as.map toJson) ≤ room <;> simp [hhead, htail]

/-- A list takes a bracket itself. -/
theorem readsWithin_list {as : List α} (h : ∀ a ∈ as, ReadsWithin a) : ReadsWithin as where
  writable := by
    rw [toJson, instList, Json.writable_array_iff, List.forall_mem_map]
    exact fun a ha => (h a ha).writable
  eq_ite room := by
    cases room with
    | zero => rfl
    | succ room =>
      exact (mapM_ofJson? h room).trans (if_congr Nat.succ_le_succ_iff.symm rfl rfl)

end JsonForm

end EntityQuery
