import EntityQuery.Proofs.Agreement

/-!
# Chained conditions

Joining conditions one after the other flattens some trees and nests others, but what is found is
the same: the intersection or the union of what the conditions find on their own
(`Memory.chained_answers`). The pieces, in order:

* `Condition.resolve_joinWith` says that a join resolves like its two sides, one after the other,
  whichever shape they have.
* `Condition.selection` is what a condition selects among the records of an entity, and
  `Condition.selection_joinWith` turns joins into intersections and unions.
* `Chain` is a chain with its grouping. `Chain.selection_of_uniform` forgets the grouping of a chain
  that is joined in one way, and `Condition.selection_chained` reads any other from left to right.
-/

namespace EntityQuery

open Memory (satisfies satisfies_iff)

/-! ## Intersections and unions

"All" and "any" act on what is found as intersection and union, be it on two conditions or on a
whole list of them. The empty intersection is everything and the empty union nothing, so lists can
be put together without a case for empty ones. -/

namespace Junction

/-- What has to hold of what is found by two conditions that are joined. -/
def Joins : Junction → Prop → Prop → Prop
  | all, P, Q => P ∧ Q
  | any, P, Q => P ∨ Q

/-- The intersection of two sets for "all" and their union for "any". -/
def onSets (j : Junction) (A B : Set ObjectId) : Set ObjectId :=
  {o | j.Joins (o ∈ A) (o ∈ B)}

/-- The intersection or union of any number of sets. -/
def overall (j : Junction) (As : List (Set ObjectId)) : Set ObjectId :=
  match j with
  | all => {o | ∀ A ∈ As, o ∈ A}
  | any => {o | ∃ A ∈ As, o ∈ A}

theorem evaluate_pair_iff {j : Junction} {x y : Bool} :
    j.evaluate [x, y] = true ↔ j.Joins (x = true) (y = true) := by
  cases j <;> simp [evaluate, Joins]

theorem overall_singleton (j : Junction) (A : Set ObjectId) : j.overall [A] = A := by
  cases j <;> simp [overall]

/-- Of two lists of sets, it is what the two of them come to, joined. -/
theorem overall_append (j : Junction) (As Bs : List (Set ObjectId)) :
    j.overall (As ++ Bs) = j.onSets (j.overall As) (j.overall Bs) := by
  ext o
  cases j with
  | all => exact List.forall_mem_append
  | any => simp [overall, onSets, Joins, or_and_right, exists_or]

end Junction

/-! ## Shapes

Joining a condition to a junction of the same sort adds a child, and to anything else makes a new
junction of two. The two shapes have the same comparisons in the same order, resolve alike, and mean
the same; only the number of nodes tells them apart. -/

namespace Predicate

/-- Joins one more predicate to the right, as conditions are joined. -/
def joinWith (j : Junction) (p other : Predicate) : Predicate :=
  match p with
  | join j' children => if j' = j then join j (children ++ [other]) else join j [p, other]
  | compare .. => join j [p, other]

/-- Whichever shape a joined predicate has, it holds as its two sides do. -/
theorem holds_joinWith (j : Junction) (p q : Predicate) (r : Record) :
    (p.joinWith j q).holds r = j.evaluate [p.holds r, q.holds r] := by
  unfold joinWith
  -- either the new child is added to the others or a junction of two is made
  split
  · rename_i j' children
    split
    · rename_i h
      subst h
      simp only [holds, Condition.holdsList_eq_map, List.map_append, List.map_cons, List.map_nil]
      cases j' <;> simp [Junction.evaluate]
    · rfl
  · rfl

/-- A record satisfies a join as it satisfies its two sides. -/
theorem satisfies_joinWith {j : Junction} {p q : Predicate} {bytes : Bytes} :
    satisfies (p.joinWith j q) bytes = true ↔
      j.Joins (satisfies p bytes = true) (satisfies q bytes = true) := by
  rw [← Junction.evaluate_pair_iff, satisfies, satisfies, satisfies]
  cases Record.decode bytes with
  | ok r => rw [← holds_joinWith]
  | error err => cases j <;> rfl

end Predicate

namespace Condition

variable {a b : Condition} {j : Junction}

theorem sizeList_append (cs ds : List Condition) :
    sizeList (cs ++ ds) = sizeList cs + sizeList ds := by
  induction cs with
  | nil => rw [List.nil_append, sizeList, Nat.zero_add]
  | cons c cs ih => rw [List.cons_append, sizeList, ih, sizeList, Nat.add_assoc]

theorem resolveList_append (m : EntityModel) (cs ds : List Condition) :
    resolveList m (cs ++ ds) = do
      let ps ← resolveList m cs
      let qs ← resolveList m ds
      return ps ++ qs := by
  induction cs with
  | nil => simp [resolveList]
  | cons c cs ih => simp [resolveList, ih]

/-- The comparisons of a join are those of its two sides, one after the other. -/
theorem leaves_joinWith (j : Junction) (a b : Condition) :
    (a.joinWith j b).leaves = a.leaves ++ b.leaves := by
  unfold joinWith
  split
  · split
    · simp [leaves, leavesList, leavesList_append]
    · simp [leaves, leavesList]
  · simp [leaves, leavesList]

/-- A join has as many nodes as its sides, and one more where they are set side by side. -/
theorem size_joinWith (j : Junction) (a b : Condition) :
    (a.joinWith j b).size = a.size + b.size ∨ (a.joinWith j b).size = a.size + b.size + 1 := by
  unfold joinWith
  split
  · split
    · left
      simp only [size, sizeList, sizeList_append]
      omega
    · right
      simp [size, sizeList]
  · right
    simp [size, sizeList]

/-- The left side of a join resolves first, and then the right one. -/
theorem resolve_joinWith (m : EntityModel) (j : Junction) (a b : Condition) :
    (a.joinWith j b).resolve m = do
      let p ← a.resolve m
      let q ← b.resolve m
      return p.joinWith j q := by
  -- where a junction of two is made, its children resolve in order
  have hpair : ∀ a : Condition, (join j [a, b]).resolve m = do
      let p ← a.resolve m
      let q ← b.resolve m
      return .join j [p, q] := by
    intro a
    simp [resolve, resolveList]
  unfold joinWith
  split
  · rename_i j' children
    split
    · rename_i h
      subst h
      simp [resolve, resolveList, resolveList_append, Predicate.joinWith]
    · rename_i h
      rw [hpair]
      simp [resolve, Predicate.joinWith, h]
  · rename_i c
    rw [hpair]
    cases hc : c.resolve m with
    | error err => simp [resolve, hc, bind, Except.bind]
    | ok p =>
      obtain ⟨_, -, -, rfl⟩ := Comparison.resolve_eq_ok_iff.mp hc
      simp [resolve, hc, bind, Except.bind, Predicate.joinWith]

end Condition

/-! ## What is selected

A condition selects objects of a record table under a schema, or is refused by the schema. The ids
are looked at as a set, on which the two joins are the intersection and the union. -/

section

variable {objects : Table ObjectId Bytes} {p q : Predicate} {j : Junction} {o : ObjectId}

/-- The objects of a table whose records satisfy a predicate. -/
def Predicate.found (objects : Table ObjectId Bytes) (p : Predicate) : List ObjectId :=
  (objects.toList.filter fun entry => satisfies p entry.2).map (·.1)

/-- An object is found if it has a record that satisfies the predicate. -/
theorem Predicate.mem_found_iff :
    o ∈ p.found objects ↔ ∃ bytes, objects.get? o = some bytes ∧ satisfies p bytes = true := by
  simp only [found, List.mem_map, List.mem_filter, ← Table.mem_toList_iff]
  constructor
  · rintro ⟨⟨_, bytes⟩, h, rfl⟩
    exact ⟨bytes, h⟩
  · rintro ⟨bytes, h⟩
    exact ⟨(o, bytes), h, rfl⟩

/-- The table lists its entries in key order, and the scan keeps that order. -/
theorem Predicate.ascending_found (p : Predicate) (objects : Table ObjectId Bytes) :
    (p.found objects).Pairwise (·.val < ·.val) := by
  unfold found
  rw [List.pairwise_map]
  exact (objects.ascending.filter _).imp fun h => UInt64.lt_iff_toNat_lt.mpr h

/-- What a join finds is what its sides find, joined. -/
theorem Predicate.mem_found_joinWith :
    o ∈ (p.joinWith j q).found objects ↔ j.Joins (o ∈ p.found objects) (o ∈ q.found objects) := by
  simp only [mem_found_iff, Predicate.satisfies_joinWith]
  -- there is one record under an id at most
  cases hbytes : objects.get? o <;> cases j <;> simp [Junction.Joins]

end

namespace Condition

/-- What a condition selects among the objects of an entity. -/
def selection (model : EntityModel) (objects : Table ObjectId Bytes) (c : Condition) :
    Except Error (Set ObjectId) :=
  (c.resolve model).map fun p => {o | o ∈ p.found objects}

variable (model : EntityModel) (objects : Table ObjectId Bytes)

/-- What a join selects is the intersection or the union of what its sides select. It is refused as
the first side that is refused. -/
theorem selection_joinWith (j : Junction) (a b : Condition) :
    (a.joinWith j b).selection model objects = do
      let A ← a.selection model objects
      let B ← b.selection model objects
      return j.onSets A B := by
  unfold selection
  rw [Condition.resolve_joinWith]
  cases a.resolve model with
  | error err => rfl
  | ok p =>
    cases b.resolve model with
    | error err => rfl
    | ok q =>
      refine congrArg Except.ok (Set.ext fun o => ?_)
      exact Predicate.mem_found_joinWith

variable {model objects}

/-- Conditions that select the same set find the same objects. -/
theorem found_eq_of_selection_eq {a b : Condition}
    (h : a.selection model objects = b.selection model objects) :
    (a.resolve model).map (·.found objects) = (b.resolve model).map (·.found objects) := by
  unfold selection at h
  revert h
  cases a.resolve model with
  | error err => cases b.resolve model <;> intro h <;> cases h; rfl
  | ok p =>
    cases b.resolve model with
    | error err => intro h; cases h
    | ok q =>
      intro h
      have hsets : ∀ o, o ∈ p.found objects ↔ o ∈ q.found objects :=
        Set.ext_iff.mp (Except.ok.inj h)
      -- there is one record under each id, so equal sets of ids are equal filters
      have hsame : ∀ entry ∈ objects.toList, satisfies p entry.2 = satisfies q entry.2 := by
        intro entry hentry
        have hget := Table.mem_toList_iff.mp hentry
        have hone := hsets entry.1
        simp only [Predicate.mem_found_iff, hget, Option.some.injEq, exists_eq_left'] at hone
        exact Bool.eq_iff_iff.mpr hone
      show Except.ok ((objects.toList.filter fun entry => satisfies p entry.2).map (·.1)) = _
      rw [List.filter_congr hsame]
      rfl

end Condition

/-! ## Chains

A chain remembers how its joins were grouped, which the tree that it makes may not show. The sets
that its members select are put together by one operation if all joins are of one sort, and that
operation does not care for grouping; otherwise the order from left to right is all there is. -/

/-- Conditions joined one after the other, with the order in which that was done. -/
inductive Chain where
  | single (c : Condition)
  | join (j : Junction) (left right : Chain)

namespace Chain

/-- The tree that the chain makes. -/
def condition : Chain → Condition
  | single c => c
  | join j left right => left.condition.joinWith j right.condition

/-- The conditions of the chain, from left to right. -/
def operands : Chain → List Condition
  | single c => [c]
  | join _ left right => left.operands ++ right.operands

/-- Whether all joins of the chain are of one sort. -/
def Uniform (j : Junction) : Chain → Prop
  | single _ => True
  | join j' left right => j' = j ∧ left.Uniform j ∧ right.Uniform j

/-- What is selected does not depend on how the joins were grouped. -/
theorem selection_of_uniform (model : EntityModel) (objects : Table ObjectId Bytes) {j : Junction}
    {t : Chain} (h : t.Uniform j) :
    t.condition.selection model objects =
      (t.operands.mapM (Condition.selection model objects)).map j.overall := by
  induction t with
  | single c =>
    rw [condition, operands]
    cases hc : c.selection model objects with
    | error err => simp [hc, bind, Except.bind, Except.map]
    | ok A =>
      simp [hc, bind, Except.bind, Except.map, pure, Except.pure, Junction.overall_singleton]
  | join j' left right ihleft ihright =>
    obtain ⟨rfl, hleft, hright⟩ := h
    rw [condition, operands, Condition.selection_joinWith, ihleft hleft, ihright hright,
      List.mapM_append]
    cases left.operands.mapM (Condition.selection model objects) with
    | error err => rfl
    | ok As =>
      cases right.operands.mapM (Condition.selection model objects) with
      | error err => rfl
      | ok Bs => exact congrArg Except.ok (j'.overall_append As Bs).symm

end Chain

/-- A condition with others joined to it one after the other. -/
def Condition.chained (c : Condition) (steps : List (Junction × Condition)) : Condition :=
  steps.foldl (fun c s => c.joinWith s.1 s.2) c

/-- A chain of both sorts of joins is read from left to right. -/
theorem Condition.selection_chained (model : EntityModel) (objects : Table ObjectId Bytes)
    (c : Condition) (steps : List (Junction × Condition)) :
    (c.chained steps).selection model objects =
      steps.foldl (fun A s => do return s.1.onSets (← A) (← s.2.selection model objects))
        (c.selection model objects) :=
  (List.foldl_hom (selection model objects) fun c s =>
    (selection_joinWith model objects s.1 c s.2).symm).symm

theorem Condition.size_le_chained (c : Condition) (steps : List (Junction × Condition)) :
    c.size ≤ (c.chained steps).size ∧ ∀ s ∈ steps, s.2.size ≤ (c.chained steps).size := by
  induction steps generalizing c with
  | nil => exact ⟨Nat.le_refl _, nofun⟩
  | cons s steps ih =>
    obtain ⟨hfirst, hrest⟩ := ih (c.joinWith s.1 s.2)
    have hsize := size_joinWith s.1 c s.2
    have hstep : (c.chained (s :: steps)) = (c.joinWith s.1 s.2).chained steps := rfl
    rw [hstep]
    exact ⟨by omega, List.forall_mem_cons.mpr ⟨by omega, hrest⟩⟩

/-! ## Answers

What was said of selections holds of the answers of queries, since a query answers with what its
condition selects in the record table of its entity, in the order of the table. -/

namespace Memory

variable {m : Memory} {e : EntityId} {c : Condition} {model : EntityModel}
  {objects : Table ObjectId Bytes}

/-- Whether a plan can be made of a condition, or the error that it fails with. -/
def built (m : Memory) (e : EntityId) (c : Condition) : Except Error Unit :=
  ((Query.acquirePlan engine).run (m, ⟨e, c, none⟩)).1.map fun _ => ()

/-- The set of the objects that a query finds. -/
def selected (m : Memory) (e : EntityId) (c : Condition) : Except Error (Set ObjectId) :=
  (m.answer e c .findIds).map fun ids => {o | o ∈ ids}

/-- A plan can be made of the conditions that resolve. -/
theorem built_eq (hmodel : m.model e = .ok model) (hsize : c.size ≤ 2 ^ 32) :
    m.built e c = (c.resolve model).map fun _ => () := by
  rw [built, Query.run_acquirePlan, run_makePlan hmodel hsize]
  cases c.resolve model <;> rfl

/-- A query finds what its condition resolves to, or is refused as the condition is. -/
theorem answer_findIds_eq (hm : m.Reachable) (hmodel : m.model e = .ok model)
    (hobjects : m.objects e = .ok objects) (hsize : c.size ≤ 2 ^ 32) :
    m.answer e c .findIds = (c.resolve model).map (·.found objects) := by
  have hmake := run_makePlan hmodel hsize
  cases hp : c.resolve model with
  | error err =>
    rw [hp] at hmake
    exact refuses_of_makePlan hmake _ .findIds
  | ok p =>
    have hid : model.id = e := hm.filed e model (model_eq_ok_iff.mp hmodel)
    exact congrArg Prod.fst (run_findIds_readable hmodel hobjects hid (hm.readable e) hsize hp)

/-- The set that a query finds is what its condition selects. -/
theorem selected_eq (hm : m.Reachable) (hmodel : m.model e = .ok model)
    (hobjects : m.objects e = .ok objects) (hsize : c.size ≤ 2 ^ 32) :
    m.selected e c = c.selection model objects := by
  rw [selected, answer_findIds_eq hm hmodel hobjects hsize, Condition.selection]
  cases c.resolve model <;> rfl

/-- A join can be built if both sides can, and the left side fails first. -/
theorem built_joinWith (hmodel : m.model e = .ok model) {j : Junction} {a b : Condition}
    (hsize : a.size + b.size < 2 ^ 32 - 1) :
    m.built e (a.joinWith j b) = (m.built e a >>= fun _ => m.built e b) := by
  have hjoin := Condition.size_joinWith j a b
  rw [built_eq hmodel (by omega), built_eq hmodel (by omega), built_eq hmodel (by omega),
    Condition.resolve_joinWith]
  cases a.resolve model with
  | error err => rfl
  | ok p => cases b.resolve model <;> rfl

/-- What a join finds is told by what its sides find on their own. -/
theorem answer_joinWith (hm : m.Reachable) (hmodel : m.model e = .ok model) {j : Junction}
    {a b : Condition} (hsize : a.size + b.size < 2 ^ 32 - 1)
    (ha : m.built e a = .ok ()) (hb : m.built e b = .ok ()) :
    ∃ as bs ids, m.answer e a .findIds = .ok as ∧ m.answer e b .findIds = .ok bs ∧
      m.answer e (a.joinWith j b) .findIds = .ok ids ∧ ids.Pairwise (·.val < ·.val) ∧
      ∀ o, o ∈ ids ↔ j.Joins (o ∈ as) (o ∈ bs) := by
  obtain ⟨objects, hobjects⟩ := hm.paired.exists_objects hmodel
  have hjoin := Condition.size_joinWith j a b
  rw [built_eq hmodel (by omega)] at ha hb
  rw [answer_findIds_eq hm hmodel hobjects (by omega),
    answer_findIds_eq hm hmodel hobjects (by omega),
    answer_findIds_eq hm hmodel hobjects (by omega), Condition.resolve_joinWith]
  cases hp : a.resolve model with
  | error err => rw [hp] at ha; cases ha
  | ok p =>
    cases hq : b.resolve model with
    | error err => rw [hq] at hb; cases hb
    | ok q =>
      exact ⟨_, _, _, rfl, rfl, rfl, Predicate.ascending_found _ _,
        fun o => Predicate.mem_found_joinWith⟩

/-- Chaining conditions intersects and unites what they find, whatever shape the tree takes. A join
can be built exactly if both sides can, and fails with the error of the first that cannot. The
answers are in ascending order. How a chain of one sort of joins was grouped makes no difference,
and any other chain is read from left to right. -/
theorem chained_answers (hm : m.Reachable) (hmodel : m.model e = .ok model) :
    (∀ (j : Junction) (a b : Condition),
      (a.joinWith j b).leaves = a.leaves ++ b.leaves ∧
      (a.joinWith j b).leafCount = a.leafCount + b.leafCount ∧
      (a.size + b.size < 2 ^ 32 - 1 →
        m.built e (a.joinWith j b) = (m.built e a >>= fun _ => m.built e b) ∧
        (m.built e a = .ok () → m.built e b = .ok () → ∃ as bs ids,
          m.answer e a .findIds = .ok as ∧ m.answer e b .findIds = .ok bs ∧
          m.answer e (a.joinWith j b) .findIds = .ok ids ∧ ids.Pairwise (·.val < ·.val) ∧
          ∀ o, o ∈ ids ↔ j.Joins (o ∈ as) (o ∈ bs)))) ∧
    (∀ (j : Junction) (s t : Chain), s.Uniform j → t.Uniform j → s.operands = t.operands →
      s.condition.size ≤ 2 ^ 32 → t.condition.size ≤ 2 ^ 32 →
        m.answer e s.condition .findIds = m.answer e t.condition .findIds) ∧
    ∀ (c : Condition) (steps : List (Junction × Condition)),
      (c.chained steps).size ≤ 2 ^ 32 →
        m.selected e (c.chained steps) =
          steps.foldl (fun A s => do return s.1.onSets (← A) (← m.selected e s.2))
            (m.selected e c) ∧
        ∀ ids, m.answer e (c.chained steps) .findIds = .ok ids →
          ids.Pairwise (·.val < ·.val) := by
  obtain ⟨objects, hobjects⟩ := hm.paired.exists_objects hmodel
  refine ⟨fun j a b => ⟨a.leaves_joinWith j b, ?_, fun hsize => ⟨built_joinWith hmodel hsize,
    answer_joinWith hm hmodel hsize⟩⟩, fun j s t hs ht heq hssize htsize => ?_,
    fun c steps hsize => ⟨?_, fun ids hids => ?_⟩⟩
  · rw [Condition.leafCount_eq, Condition.leafCount_eq, Condition.leafCount_eq,
      Condition.leaves_joinWith, List.length_append]
  · rw [answer_findIds_eq hm hmodel hobjects hssize, answer_findIds_eq hm hmodel hobjects htsize]
    apply Condition.found_eq_of_selection_eq
    rw [Chain.selection_of_uniform model objects hs, Chain.selection_of_uniform model objects ht,
      heq]
  · obtain ⟨hfirst, hrest⟩ := c.size_le_chained steps
    rw [selected_eq hm hmodel hobjects hsize, selected_eq hm hmodel hobjects (hfirst.trans hsize),
      Condition.selection_chained]
    refine List.foldl_ext _ _ _ fun A s hs => ?_
    rw [selected_eq hm hmodel hobjects ((hrest s hs).trans hsize)]
  · rw [answer_findIds_eq hm hmodel hobjects hsize] at hids
    obtain ⟨p, -, hp⟩ := bind_eq_ok.mp hids
    cases hp
    exact p.ascending_found objects

/-- Three comparisons of one property, in a chain of one sort of joins that is grouped in two ways
and in a chain of both sorts. -/
theorem chained_answers_people :
    let people : EntityModel := (EntityModel.new ⟨7⟩ "Person").declare ⟨3⟩ "age" (.integer .uint8)
    let m := ((((Memory.new none).write (.register people)).write
      (.put ⟨7⟩ (.ofList [(⟨3⟩, .uint 41)]))).write (.put ⟨7⟩ .empty)).write
      (.put ⟨7⟩ (.ofList [(⟨3⟩, .uint 12)]))
    let known : Condition := .compare ⟨⟨3⟩, .notNull⟩
    let young : Condition := .compare ⟨⟨3⟩, .intLess 18⟩
    let twelve : Condition := .compare ⟨⟨3⟩, .intEqual 12⟩
    (∃ as bs ids, m.answer ⟨7⟩ known .findIds = .ok as ∧ m.answer ⟨7⟩ young .findIds = .ok bs ∧
      m.answer ⟨7⟩ (known.and young) .findIds = .ok ids ∧ ids.Pairwise (·.val < ·.val) ∧
      ∀ o, o ∈ ids ↔ o ∈ as ∧ o ∈ bs) ∧
    m.answer ⟨7⟩ ((known.or young).or twelve) .findIds =
      m.answer ⟨7⟩ (known.or (young.or twelve)) .findIds ∧
    m.selected ⟨7⟩ ((known.or young).and twelve) = do
      let A ← m.selected ⟨7⟩ known
      let B ← m.selected ⟨7⟩ young
      let C ← m.selected ⟨7⟩ twelve
      return (A ∪ B) ∩ C := by
  intro people m known young twelve
  have hm : m.Reachable := .write _ (.write _ (.write _ (.write _ (.new _))))
  have hmodel : m.model ⟨7⟩ = .ok people := rfl
  obtain ⟨hpair, hgrouping, hmixed⟩ := chained_answers hm hmodel
  obtain ⟨-, -, hjoin⟩ := hpair .all known young
  obtain ⟨-, hfound⟩ := hjoin (by decide)
  have hknown : m.built ⟨7⟩ known = .ok () := rfl
  have hyoung : m.built ⟨7⟩ young = .ok () := rfl
  have hleft := (hmixed known [(.any, young), (.all, twelve)] (by decide)).1
  let left : Chain := .join .any (.join .any (.single known) (.single young)) (.single twelve)
  let right : Chain := .join .any (.single known) (.join .any (.single young) (.single twelve))
  have hsame := hgrouping .any left right ⟨rfl, ⟨rfl, trivial, trivial⟩, trivial⟩
    ⟨rfl, trivial, rfl, trivial, trivial⟩ rfl (by decide) (by decide)
  refine ⟨hfound hknown hyoung, hsame, hleft.trans ?_⟩
  generalize m.selected ⟨7⟩ = select
  simp only [List.foldl_cons, List.foldl_nil, bind_assoc, pure_bind]
  rfl

end Memory

end EntityQuery
