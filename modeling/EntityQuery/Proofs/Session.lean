import EntityQuery.Predicate.Resolve
import EntityQuery.Proofs.Dispatch
import EntityQuery.Session

/-!
# What a builder session's calls do to its slots

A primitive goes through exactly for comparisons that can be resolved against the session's schema,
and then appends a slot (`Session.run_register`). A combination goes through exactly for ids that
the session gave out itself, that name untaken slots and that are listed once each
(`Session.Claimable`). It then marks those slots and appends a new one, as
`Session.combine_eq_ok_iff` says. A refused call leaves the session as it was
(`Session.atomic_register`, `Session.atomic_combine`).
-/

namespace EntityQuery

namespace ConditionId

/-- The place of the slot that an id names. -/
def slot (c : ConditionId) : Nat :=
  c.index.toNat

end ConditionId

namespace Slot

/-- The slot once a combination has claimed it. -/
def take (x : Slot) : Slot :=
  { x with taken := true }

@[simp]
theorem take_predicate (x : Slot) : x.take.predicate = x.predicate :=
  rfl

@[simp]
theorem take_taken (x : Slot) : x.take.taken = true :=
  rfl

end Slot

namespace Session

/-- Ids that can be combined: the session's own, of untaken slots, each listed once. -/
structure Claimable (s : Session) (ids : List ConditionId) : Prop where
  own : ∀ c ∈ ids, c.builder = s.id
  untaken : ∀ c ∈ ids, ∃ x, s.slots[c.slot]? = some x ∧ x.taken = false
  distinct : (ids.map ConditionId.slot).Nodup

/-! ## Claims

Ids are claimed one after the other, and each claim is checked against the session and against those
before it. A list of claims goes through exactly if the ids are the session's own, name untaken
slots, and name none twice; the places that it gives are those that the ids name. -/

/-- One id can be claimed if it is the session's own and names an untaken slot that was not claimed
before. -/
theorem claim_eq_ok_iff {s : Session} {claimed : List Nat} {c : ConditionId} {i : Nat} :
    s.claim claimed c = .ok i ↔
      c.builder = s.id ∧ (∃ x, s.slots[c.slot]? = some x ∧ x.taken = false) ∧
        c.slot ∉ claimed ∧ i = c.slot := by
  simp only [claim, ConditionId.slot]
  by_cases howner : c.builder = s.id
  · rw [if_neg (not_not_intro howner)]
    cases hslot : s.slots[c.index.toNat]? with
    | none => simp
    | some x =>
      by_cases hclaimed : c.index.toNat ∈ claimed <;>
        cases htaken : x.taken <;> simp [howner, htaken, hclaimed, @eq_comm _ i]
  · simp [howner]

/-- Some ids can be claimed if they can be combined and none of them was claimed before. -/
theorem claimAll_eq_ok_iff {s : Session} {ids : List ConditionId} {claimed indexes : List Nat} :
    s.claimAll claimed ids = .ok indexes ↔
      s.Claimable ids ∧ (∀ c ∈ ids, c.slot ∉ claimed) ∧ indexes = ids.map ConditionId.slot := by
  -- on the ids: claiming the head makes its slot one that the rest may not claim
  induction ids generalizing claimed indexes with
  | nil =>
    have hnone : s.Claimable [] := ⟨by simp, by simp, by simp⟩
    simp only [claimAll, Except.ok.injEq, hnone, List.map_nil, List.not_mem_nil, true_and]
    exact ⟨fun h => ⟨fun _ h' => h'.elim, h.symm⟩, fun h => h.2.symm⟩
  | cons c rest ih =>
    simp only [claimAll, bind_eq_ok, claim_eq_ok_iff, ih]
    constructor
    · rintro ⟨i, ⟨hown, huntaken, hfresh, rfl⟩, others, ⟨hrest, hnew, rfl⟩, hindexes⟩
      refine ⟨⟨?_, ?_, ?_⟩, ?_, ?_⟩
      · exact List.forall_mem_cons.mpr ⟨hown, hrest.own⟩
      · exact List.forall_mem_cons.mpr ⟨huntaken, hrest.untaken⟩
      · -- the slot of the head is claimed when the rest comes
        have hhead : c.slot ∉ rest.map ConditionId.slot := by
          intro hmem
          obtain ⟨d, hd, heq⟩ := List.mem_map.mp hmem
          exact hnew d hd (heq ▸ List.mem_cons_self)
        exact List.nodup_cons.mpr ⟨hhead, hrest.distinct⟩
      · exact List.forall_mem_cons.mpr
          ⟨hfresh, fun d hd hmem => hnew d hd (List.mem_cons_of_mem _ hmem)⟩
      · exact (Except.ok.inj hindexes).symm
    · rintro ⟨⟨hown, huntaken, hdistinct⟩, hfresh, rfl⟩
      obtain ⟨hown, howns⟩ := List.forall_mem_cons.mp hown
      obtain ⟨huntaken, huntakens⟩ := List.forall_mem_cons.mp huntaken
      obtain ⟨hhead, hdistinct⟩ := List.nodup_cons.mp hdistinct
      obtain ⟨hfresh, hfreshs⟩ := List.forall_mem_cons.mp hfresh
      refine ⟨_, ⟨hown, huntaken, hfresh, rfl⟩, _, ⟨⟨howns, huntakens, hdistinct⟩, ?_, rfl⟩, rfl⟩
      intro d hd hmem
      rcases List.mem_cons.mp hmem with heq | hmem
      · exact hhead (List.mem_map.mpr ⟨d, hd, heq⟩)
      · exact hfreshs d hd hmem

/-! ## Runs of the calls

What the session's calls do in one equation each. All of them end by appending a slot or stay with
the session that they found, so every lemma about a whole call comes from these. -/

/-- What a session gives and keeps when it is to enter something that may have been refused. -/
def enter (s : Session) : Except Error Predicate → Except Error ConditionId × Session
  | .ok p => (.ok (s.append p).1, (s.append p).2)
  | .error err => (.error err, s)

/-- Something is entered if it was not refused, and then appended. -/
theorem enter_eq_ok_iff {s s' : Session} {r : Except Error Predicate} {c : ConditionId} :
    s.enter r = (.ok c, s') ↔ ∃ p, r = .ok p ∧ (c, s') = s.append p := by
  cases r with
  | error err => simp [enter]
  | ok p => simp [enter, Prod.ext_iff, @eq_comm _ c, @eq_comm _ s']

/-- A test is entered if its property can be looked up and is of the kind demanded. -/
theorem run_pushTest (s : Session) (id : PropertyId) (demand? : Option Demand)
    (test : Kind → Test) :
    (pushTest id demand? test).run s =
      s.enter ((s.property id demand?).map fun p => .compare id p.name (test p.kind)) := by
  rw [pushTest, Action.run_bind, Action.run_ofQuestion]
  cases s.property id demand? <;> rfl

/-- A test of a property is entered as the comparison that makes it is resolved. -/
theorem run_pushTest_of_resolve (s : Session) {c : Comparison} (hnan : c.op.hasNaN = false) :
    (pushTest c.property c.op.demand? c.op.test).run s = s.enter (c.resolve s.model) := by
  rw [run_pushTest, property, Comparison.resolve, hnan, if_neg Bool.false_ne_true]
  cases s.model.property? c.property with
  | none => rfl
  | some p =>
    simp only
    split <;> simp [*, Except.map]

/-- An operand that is no number is refused before the property is looked up. -/
theorem run_refuseNaN_bind (s : Session) {c : Comparison} {operands : List Float}
    (hnan : c.op.hasNaN = operands.any (·.isNaN)) :
    (refuseNaN c.property operands >>= fun _ =>
        pushTest c.property c.op.demand? c.op.test).run s = s.enter (c.resolve s.model) := by
  rw [refuseNaN, Action.run_bind, Action.run_ofQuestion]
  cases h : operands.any (·.isNaN) with
  | true =>
    rw [h] at hnan
    rw [Comparison.resolve, if_pos hnan]
    rfl
  | false => exact s.run_pushTest_of_resolve (hnan.trans h)

/-- A primitive enters what its comparison is resolved to, one arm for each. -/
theorem run_register (s : Session) (p : Primitive) :
    (register p).run s = s.enter (p.comparison.resolve s.model) := by
  -- the check of a single operand is the check of a list of one
  have hnan : ∀ x : Float, x.isNaN = [x].any (·.isNaN) := fun x => (Bool.or_false _).symm
  cases p with
  | doubleGreater id x => exact s.run_refuseNaN_bind (c := ⟨id, .doubleGreater x⟩) (hnan x)
  | doubleLess id x => exact s.run_refuseNaN_bind (c := ⟨id, .doubleLess x⟩) (hnan x)
  | doubleBetween id low high =>
    exact s.run_refuseNaN_bind (c := ⟨id, .doubleBetween low high⟩)
      (congrArg (low.isNaN || ·) (hnan high))
  | _ =>
    -- the other primitives have no operand that could be no number
    rw [← run_pushTest_of_resolve]
    · rfl
    · rfl

/-- A comparison is entered as what it is resolved to. -/
theorem run_apply (s : Session) (c : Comparison) :
    (c.apply registrar).run s = s.enter (c.resolve s.model) := by
  have hrun := s.run_register c.primitive
  rwa [c.comparison_primitive] at hrun

/-- A combination claims its ids, marks their slots and enters the junction of their predicates. -/
theorem run_combine (s : Session) (j : Junction) (ids : List ConditionId) :
    (combine j ids).run s =
      match s.claimAll [] ids with
      | .ok indexes => (s.markTaken indexes).enter (.ok (.join j (s.predicatesAt indexes)))
      | .error r => (.error r.toError, s) := by
  rw [combine, take]
  simp only [Action.run_bind, Action.run_ofQuestion, Action.run_modifyGet]
  cases s.claimAll [] ids <;> rfl

/-- A combination goes through exactly for ids that can be combined. -/
theorem combine_eq_ok_iff {s s' : Session} {j : Junction} {ids : List ConditionId}
    {c : ConditionId} :
    (combine j ids).run s = (.ok c, s') ↔
      s.Claimable ids ∧
        (c, s') = (s.markTaken (ids.map ConditionId.slot)).append
          (.join j (s.predicatesAt (ids.map ConditionId.slot))) := by
  rw [run_combine]
  cases h : s.claimAll [] ids with
  | ok indexes =>
    obtain ⟨hids, -, rfl⟩ := claimAll_eq_ok_iff.mp h
    simp [hids, enter_eq_ok_iff]
  | error refusal =>
    have hids : ¬ s.Claimable ids := by
      intro hids
      have := claimAll_eq_ok_iff.mpr ⟨hids, fun _ _ => List.not_mem_nil, rfl⟩
      rw [h] at this
      cases this
    simp [hids]

/-! ## Calls that fail

A call asks whether it can go through before it changes anything, so the session that it leaves when
it fails is the one that it found. -/

/-- A test that is refused leaves the session as it was: the property is looked up first. -/
theorem atomic_pushTest (id : PropertyId) (demand? : Option Demand) (test : Kind → Test) :
    (pushTest id demand? test).Atomic :=
  .question_bind fun _ => Action.atomic_modifyGet _

/-- A primitive that is refused leaves the session as it was. -/
theorem atomic_register (p : Primitive) : (register p).Atomic := by
  cases p with
  | doubleGreater | doubleLess | doubleBetween =>
    exact .question_bind fun _ => atomic_pushTest _ _ _
  | _ =>
    simp only [register, pushText, pushInt]
    exact atomic_pushTest _ _ _

/-- A combination that is refused leaves the session as it was, also when only the last of its ids
is bad. -/
theorem atomic_combine (j : Junction) (ids : List ConditionId) : (combine j ids).Atomic :=
  -- the ids are claimed by a question, and the slots are marked afterwards
  have htake : (take ids).Atomic := .question_bind fun _ => Action.atomic_modifyGet _
  htake.bind_modifyGet

/-- A combination is only ever refused for one of its ids. -/
theorem exists_refusal {s : Session} {j : Junction} {ids : List ConditionId} {err : Error}
    (h : ((combine j ids).run s).1 = .error err) : ∃ r : Refusal, err = r.toError := by
  rw [run_combine] at h
  split at h <;> cases h
  exact ⟨_, rfl⟩

/-! ## What no call changes

The session of a builder is opened for one id and one schema. Its calls add slots and mark them, and
that is all. -/

/-- A session that appended a predicate shows which one. -/
theorem append_injective (s : Session) : Function.Injective s.append := by
  intro p q h
  simpa [append] using h

/-- However the call ends, the session keeps its id and its model. -/
def Framed {α : Type} (act : Action Session α) : Prop :=
  ∀ s, (act.run s).2.id = s.id ∧ (act.run s).2.model = s.model

/-- A primitive keeps the id and the model, whether it is refused or not. -/
theorem framed_register (p : Primitive) : Framed (register p) := by
  intro s
  rw [run_register]
  cases p.comparison.resolve s.model <;> exact ⟨rfl, rfl⟩

theorem framed_combine (j : Junction) (ids : List ConditionId) : Framed (combine j ids) := by
  intro s
  rw [run_combine]
  cases s.claimAll [] ids <;> exact ⟨rfl, rfl⟩

end Session

end EntityQuery
