import EntityQuery.Condition.Basic
import Mathlib

/-!
# The places of a condition

A place says which child to go to at each junction on the way down from the root of a condition.
`Condition.places` lists the places of a condition in post-order: those below a junction before the
junction, and those of earlier children before those of later ones.

* `Place.Before` is this order between two places, and `Condition.places_ordered` says that the list
  is in it.
* `Condition.mem_places_iff` says that the list has the places at which something stands.
* `Place.HangsAbove` is about places beside the way down to another place: those whose parent is an
  ancestor of it.
-/

namespace EntityQuery

/-- Which child to go to at each junction on the way down. The root is the empty place. -/
abbrev Place := List Nat

namespace Place

/-- A place comes before the junctions that it is below, and what is below an earlier child before
what is below a later one. -/
inductive Before : Place → Place → Prop where
  | root (i : Nat) (p : Place) : Before (i :: p) []
  | apart {i k : Nat} (h : i < k) (p q : Place) : Before (i :: p) (k :: q)
  | within (i : Nat) {p q : Place} (h : Before p q) : Before (i :: p) (i :: q)

/-- The place is on the way down to the other one, and not the place itself. -/
def IsAncestor (p q : Place) : Prop :=
  p <+: q ∧ p ≠ q

/-- Whether the place has a parent and the parent is an ancestor of the other place. -/
def HangsAbove (p q : Place) : Prop :=
  ∃ parent i, p = parent ++ [i] ∧ IsAncestor parent q

variable {p q : Place} {i k : Nat}

/-- The root comes last, so nothing that comes before something is the root. -/
theorem Before.ne_nil (h : Before p q) : p ≠ [] := by
  cases h <;> exact List.cons_ne_nil _ _

theorem Before.irrefl (p : Place) : ¬ Before p p := by
  induction p with
  | nil => exact fun h => h.ne_nil rfl
  | cons i p ih =>
    intro h
    cases h with
    | apart hlt => exact Nat.lt_irrefl i hlt
    | within _ h => exact ih h

/-- Of what is below another child than the place is, the child itself hangs above the place. -/
theorem hangsAbove_apart_iff (h : i ≠ k) : HangsAbove (i :: p) (k :: q) ↔ p = [] := by
  constructor
  · rintro ⟨parent, n, heq, hprefix, -⟩
    cases parent with
    | nil => exact (List.cons_eq_cons.mp heq).2
    | cons i' parent =>
      -- the parent would lead to the other child
      obtain ⟨rfl, -⟩ := List.cons_eq_cons.mp heq
      exact absurd (List.cons_prefix_cons.mp hprefix).1 h
  · rintro rfl
    exact ⟨[], i, rfl, List.nil_prefix, (List.cons_ne_nil _ _).symm⟩

/-- Below a child, what hangs above is what hangs above below the child. -/
theorem hangsAbove_within_iff (h : p ≠ []) : HangsAbove (i :: p) (i :: q) ↔ HangsAbove p q := by
  constructor
  · rintro ⟨parent, n, heq, hprefix, hne⟩
    cases parent with
    | nil => exact absurd (List.cons_eq_cons.mp heq).2 h
    | cons i' parent =>
      obtain ⟨rfl, rfl⟩ := List.cons_eq_cons.mp heq
      exact ⟨parent, n, rfl, (List.cons_prefix_cons.mp hprefix).2, fun heq => hne (heq ▸ rfl)⟩
  · rintro ⟨parent, n, rfl, hprefix, hne⟩
    exact ⟨i :: parent, n, rfl, List.cons_prefix_cons.mpr ⟨rfl, hprefix⟩,
      fun heq => hne (List.cons_eq_cons.mp heq).2⟩

end Place

namespace Condition

/-- What stands at a place of a condition. -/
def at? : Condition → Place → Option Condition
  | c, [] => some c
  | compare _, _ :: _ => none
  | join _ children, i :: p =>
    match children[i]? with
    | some c => c.at? p
    | none => none

mutual

/-- The places of a condition in post-order. -/
def places : Condition → List Place
  | compare _ => [[]]
  | join _ children => placesFrom 0 children ++ [[]]

/-- The places below some children of a junction, the first of which has the index `i`. -/
def placesFrom (i : Nat) : List Condition → List Place
  | [] => []
  | c :: rest => c.places.map (i :: ·) ++ placesFrom (i + 1) rest

end

/-- The places that come before another one in post-order. -/
def placesBefore (c : Condition) (p : Place) : List Place :=
  c.places.takeWhile (· ≠ p)

variable {c d : Condition} {children cs ds : List Condition} {j : Junction} {p : Place} {i : Nat}

theorem at?_cons (h : children[i]? = some c) (j : Junction) (p : Place) :
    (join j children).at? (i :: p) = c.at? p := by
  rw [at?, h]

/-- The places of children in a row, the later ones with later indices. -/
theorem placesFrom_append (i : Nat) (cs ds : List Condition) :
    placesFrom i (cs ++ ds) = placesFrom i cs ++ placesFrom (i + cs.length) ds := by
  induction cs generalizing i with
  | nil => rfl
  | cons c rest ih =>
    rw [List.cons_append, placesFrom, placesFrom, ih, List.append_assoc, List.length_cons,
      Nat.add_right_comm, Nat.add_assoc]

/-- The places below some children, each with the index of its child. -/
theorem mem_placesFrom_iff :
    p ∈ placesFrom i cs ↔ ∃ k d q, cs[k]? = some d ∧ q ∈ d.places ∧ p = (i + k) :: q := by
  induction cs generalizing i with
  | nil => simp [placesFrom]
  | cons c rest ih =>
    rw [placesFrom, List.mem_append, List.mem_map, ih]
    constructor
    · rintro (⟨q, hq, rfl⟩ | ⟨k, d, q, hd, hq, rfl⟩)
      · exact ⟨0, c, q, rfl, hq, rfl⟩
      · exact ⟨k + 1, d, q, hd, hq, by rw [Nat.add_right_comm, Nat.add_assoc]⟩
    · rintro ⟨k, d, q, hd, hq, rfl⟩
      cases k with
      | zero =>
        obtain rfl := Option.some.inj hd
        exact .inl ⟨q, hq, rfl⟩
      | succ k => exact .inr ⟨k, d, q, hd, hq, by rw [Nat.add_right_comm, Nat.add_assoc]⟩

/-- The places of a condition are those at which something stands. -/
theorem mem_places_iff : p ∈ c.places ↔ ∃ d, c.at? p = some d := by
  induction c generalizing p with
  | compare c => cases p <;> simp [places, at?]
  | join j children ih =>
    rw [places, List.mem_append, List.mem_singleton, mem_placesFrom_iff]
    cases p with
    | nil => simp [at?]
    | cons i p =>
      rw [or_iff_left (List.cons_ne_nil i p)]
      -- below the root a place leads to a child, and on from there
      constructor
      · rintro ⟨k, c, q, hc, hq, heq⟩
        obtain ⟨rfl, rfl⟩ := List.cons_eq_cons.mp heq
        rw [Nat.zero_add, at?_cons hc]
        exact (ih c (List.mem_of_getElem? hc)).mp hq
      · rintro ⟨d, hd⟩
        cases hc : children[i]? with
        | none => simp [at?, hc] at hd
        | some c =>
          rw [at?_cons hc] at hd
          exact ⟨i, c, p, hc, (ih c (List.mem_of_getElem? hc)).mpr ⟨d, hd⟩, by rw [Nat.zero_add]⟩

/-- The places below some children are in post-order if those of each child are. -/
theorem placesFrom_ordered (h : ∀ c ∈ cs, c.places.Pairwise Place.Before) :
    (placesFrom i cs).Pairwise Place.Before := by
  induction cs generalizing i with
  | nil => exact .nil
  | cons c rest ih =>
    obtain ⟨hc, hrest⟩ := List.forall_mem_cons.mp h
    rw [placesFrom, List.pairwise_append, List.pairwise_map]
    -- inside the child, and before what is below the children after it
    refine ⟨hc.imp (.within i), ih hrest, fun p hp q hq => ?_⟩
    obtain ⟨p, -, rfl⟩ := List.mem_map.mp hp
    obtain ⟨k, d, q, -, -, rfl⟩ := mem_placesFrom_iff.mp hq
    exact .apart (by omega) p q

/-- The places of a condition are listed in post-order, each of them once. -/
theorem places_ordered (c : Condition) : c.places.Pairwise Place.Before := by
  induction c with
  | compare c => exact List.pairwise_singleton _ _
  | join j children ih =>
    rw [places, List.pairwise_append]
    -- what is below the junction comes before it
    refine ⟨placesFrom_ordered ih, List.pairwise_singleton _ _, fun p hp q hq => ?_⟩
    obtain ⟨k, d, p, -, -, rfl⟩ := mem_placesFrom_iff.mp hp
    obtain rfl := List.mem_singleton.mp hq
    exact .root _ p

example (c d e : Comparison) :
    (all [any [compare c, compare d], compare e]).places = [[0, 0], [0, 1], [0], [1], []] :=
  rfl

/-- What is listed before a place comes before it. -/
theorem before_of_places_eq {before after : List Place} (h : c.places = before ++ p :: after)
    {q : Place} (hq : q ∈ before) : q.Before p :=
  (List.pairwise_append.mp (h ▸ c.places_ordered)).2.2 q hq p List.mem_cons_self

/-- No place is listed again later, so what stands before it is what comes before it. -/
theorem placesBefore_eq {before after : List Place} (h : c.places = before ++ p :: after) :
    c.placesBefore p = before := by
  rw [placesBefore, h, List.takeWhile_append_of_pos fun q hq => ?_, List.takeWhile_cons_of_neg,
    List.append_nil]
  · simp
  · -- a place that comes before it is another one
    have hne : q ≠ p := fun heq => Place.Before.irrefl p (heq ▸ before_of_places_eq h hq)
    simpa using hne

/-- There are as many places below some children as their conditions have nodes. -/
theorem length_placesFrom (h : ∀ c ∈ cs, c.places.length = c.size) :
    (placesFrom i cs).length = sizeList cs := by
  induction cs generalizing i with
  | nil => rfl
  | cons c rest ih =>
    obtain ⟨hc, hrest⟩ := List.forall_mem_cons.mp h
    rw [placesFrom, List.length_append, List.length_map, hc, ih hrest, sizeList]

/-- There is one place for each comparison and each junction. -/
theorem length_places (c : Condition) : c.places.length = c.size := by
  induction c with
  | compare c => rfl
  | join j children ih =>
    rw [places, List.length_append, length_placesFrom ih, size]
    rfl

end Condition

end EntityQuery
