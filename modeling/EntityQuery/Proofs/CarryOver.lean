import EntityQuery.Proofs.FirstFailure
import EntityQuery.Proofs.StoredRecords
import EntityQuery.Proofs.TwinQueries

/-!
# A query carries nothing over

Whatever happened before, a call of a query answers as it would have answered on a fresh query with
the same condition (`Memory.carries_nothing_over`). So a query has no memory but its condition, and
what it left behind in the store has no effect on a later call: neither the counters, which have
moved on, nor a handle, however the earlier calls failed. The call itself changes no schema, no
record and not the counter of object ids.

* `Query.life` is what remains of a query and its store after a history.
* `Query.life_eq` says that a query has no plan afterwards, and the condition that was set last.
* `Memory.twin_inquiry` puts the two runs side by side.
-/

namespace EntityQuery

open EntityQuery.Action

/-- What every call of an engine keeps is kept past the spy, whichever calls are made to fail. -/
theorem Follows.kept {σ : Type} {E : Engine σ} {P : σ → Prop} {s s' : Spied E}
    {evs : List (Event E)} (hcalls : ∀ c : Call E, c.perform.Leads P P) (h : Follows s evs s')
    (hs : P s.inner) : P s'.inner := by
  induction h with
  | refl => exact hs
  | @call c s _ _ _ ih =>
    refine ih ?_
    rw [Spied.run_call]
    show P (Spied.outcomeOf s.faults c s.inner).2
    -- a call that is made to fail is either made as well, when it is a release, or not made
    unfold Spied.outcomeOf
    split
    · split
      · exact hcalls c _ hs
      · exact hs
    · exact hcalls c _ hs

namespace Query

/-! ## Histories

What happens to a query and its store is a list of turns, taken one after the other. The turns that
do not concern the query are arbitrary changes of the store, so nothing is assumed of what the store
was used for meanwhile. -/

/-- A call of a query that asks the store something. -/
inductive Inquiry : Type → Type 1 where
  | find {α : Type} (decode : Bytes → Except Error α) : Inquiry (List α)
  | findIds : Inquiry (List ObjectId)
  | count : Inquiry Nat
  | describe : Inquiry String

namespace Inquiry

variable {σ α : Type} (E : Engine σ) (e : EntityId) (c : Condition)

/-- The call of the query that asks it. -/
def perform : Inquiry α → Action (σ × Query E.Plan) α
  | find decode => Query.find E decode
  | findIds => Query.findIds E
  | count => Query.count E
  | describe => Query.describe E

/-- What is done with the plan. -/
def use : Inquiry α → E.Plan → Action σ α
  | find decode, p => E.withCursor e .readOnly fun k => do
    let records ← E.find p k
    records.mapM fun bytes => MonadExcept.ofExcept (decode bytes)
  | findIds, p => E.withCursor e .readOnly (E.findIds p)
  | count, p => E.withCursor e .readOnly (E.count p)
  | describe, p => E.describe p

/-- Every inquiry makes and uses a plan, and leaves the query as it was. -/
theorem keepsQuery (i : Inquiry α) :
    KeepsQuery E e c (i.perform E) (usePlan E e c (i.use E e)) := by
  cases i with
  | find decode => exact run_find E e c decode
  | findIds => exact run_findIds E e c
  | count => exact run_count E e c
  | describe => exact run_describe E e c

/-- A call of a query makes calls past the spy, and does nothing else to the store. -/
theorem follows (i : Inquiry α) (s : Spied E) :
    ∃ evs, Follows s evs ((usePlan E.spied e c (i.use E.spied e)).run s).2 := by
  cases i with
  | find decode =>
    obtain ⟨_, ⟨evs, h, -⟩, -⟩ := obeys_useFind decode [] e c s
    exact ⟨evs, h⟩
  | findIds =>
    obtain ⟨_, ⟨evs, h, -⟩, -⟩ := obeys_useFindIds Except.ok [] e c s
    exact ⟨evs, h⟩
  | count =>
    obtain ⟨_, ⟨evs, h, -⟩, -⟩ := obeys_useCount Except.ok [] e c s
    exact ⟨evs, h⟩
  | describe =>
    obtain ⟨_, ⟨evs, h, -⟩, -⟩ := obeys_useDescribe Except.ok [] e c s
    exact ⟨evs, h⟩

end Inquiry

/-- Something that happens while a query is alive. -/
inductive Turn (σ : Type) where
  | ask {α : Type} (i : Inquiry α)
  | setCondition (c : Condition)
  /-- Anything that happens without the query: objects are put, calls are made to fail, other
  queries are run. -/
  | elsewhere (change : σ → σ)

section

variable {σ : Type} (E : Engine σ)

/-- The query and its store after a turn. -/
def Turn.after : Turn σ → σ × Query E.Plan → σ × Query E.Plan
  | ask i, s => ((i.perform E).run s).2
  | setCondition c, (s, q) => (s, q.setCondition c)
  | elsewhere change, (s, q) => (change s, q)

/-- The query and its store after a history. -/
def life (history : List (Turn σ)) (s : σ × Query E.Plan) : σ × Query E.Plan :=
  history.foldl (fun s t => t.after E s) s

/-- The condition that was set last, or else the one from before. -/
def lastSet (history : List (Turn σ)) (c : Condition) : Condition :=
  history.foldl (fun c t => match t with
    | .setCondition c' => c'
    | _ => c) c

/-- However the calls of a query ended, it holds no plan after them. -/
theorem life_eq (history : List (Turn σ)) (s : σ) (e : EntityId) (c : Condition) :
    ∃ s', life E history (s, ⟨e, c, none⟩) = (s', ⟨e, lastSet history c, none⟩) := by
  induction history generalizing s c with
  | nil => exact ⟨s, rfl⟩
  | cons t rest ih =>
    -- only setting a condition changes the query, and no turn puts a plan into its slot
    cases t with
    | ask i =>
      obtain ⟨s', hrest⟩ := ih ((usePlan E e c (i.use E e)).run s).2 c
      refine ⟨s', Eq.trans ?_ hrest⟩
      rw [life, List.foldl_cons, Turn.after, i.keepsQuery E e c s]
      rfl
    | setCondition c' => exact ih s c'
    | elsewhere change => exact ih (change s) c

end

end Query

namespace Memory

open Spied

variable {α : Type}

/-! ## Two runs

One run is on the query with a history, the other on a fresh query, in stores with the same
contents. The four inquiries use their plans in different ways and are twins for the same reason:
each asks a question that reads the contents alone. -/

/-- An inquiry is answered the same way in stores with the same contents. -/
theorem twin_inquiry (i : Query.Inquiry α) (e : EntityId) (c : Condition) :
    Twin (Error.Alike (2 ^ 32 < c.size)) (Over (Held none none none))
      (Same (Over (Held none none none))) (Over (Held none none none))
      (Query.usePlan engine.spied e c (i.use engine.spied e))
      (Query.usePlan engine.spied e c (i.use engine.spied e)) := by
  refine twin_usePlan e c fun p p' => ?_
  cases i with
  | find decode =>
    refine twin_withCursor .same e .readOnly fun k k' => ?_
    refine (twin_use (E := engine) (.find p k) (.find p' k') rfl rfl rfl rfl .same
      (twin_question .same fun m m' h => h.find_eq)).bind fun records records' => ?_
    rintro s s' ⟨hfaults, rfl, hheld⟩
    -- the records are the same, and nothing is called to decode them
    rw [run_decodeAll, run_decodeAll]
    exact .same .same _ ⟨hfaults, hheld⟩
  | findIds =>
    refine twin_withCursor .same e .readOnly fun k k' => ?_
    exact (twin_use (E := engine) (.findIds p k) (.findIds p' k') rfl rfl rfl rfl .same
      (twin_question .same fun m m' h => h.findIds_eq)).weaken
      (fun _ _ _ _ h => h.same) fun _ _ h => h
  | count =>
    refine twin_withCursor .same e .readOnly fun k k' => ?_
    exact (twin_use (E := engine) (.count p k) (.count p' k') rfl rfl rfl rfl .same
      (twin_question .same fun m m' h => h.count_eq)).weaken
      (fun _ _ _ _ h => h.same) fun _ _ h => h
  | describe =>
    exact (twin_use (E := engine) (.describe p) (.describe p') rfl rfl rfl rfl .same
      (twin_pure fun m m' h => ⟨h.describe_eq.symm, h⟩)).weaken
      (fun _ _ _ _ h => h.same) fun _ _ h => h

/-- Two observed stores with the same schemas, records and limit, in which the same calls are made
to fail. All else may differ. -/
structure Interchangeable (s s' : Spied engine) : Prop where
  limit : s'.inner.limit = s.inner.limit
  schemas : s'.inner.schemas = s.inner.schemas
  records : s'.inner.records = s.inner.records
  faults : ∀ name, name ∈ s'.faults ↔ name ∈ s.faults

/-- Stores that can be interchanged are related as long as no handle is held. -/
theorem Interchangeable.over {s s' : Spied engine} (h : Interchangeable s s') :
    Over (Held none none none) s s' :=
  ⟨h.faults, ⟨h.limit, h.schemas, h.records, nofun, nofun, nofun⟩⟩

/-- After any history a call of a query changes nothing that is stored, and answers as on a fresh
query with the condition that was set last, in any store with the same contents. Only where a
condition has more nodes than there are ids can the two runs refuse it with different ids in the
text. -/
theorem carries_nothing_over (s : Spied engine) (e : EntityId) (c : Condition)
    (history : List (Query.Turn (Spied engine))) (i : Query.Inquiry α) :
    let lived := Query.life engine.spied history (s, ⟨e, c, none⟩)
    let current := Query.lastSet history c
    let asked := (i.perform engine.spied).run lived
    lived.2 = ⟨e, current, none⟩ ∧ asked.2.1.inner.schemas = lived.1.inner.schemas ∧
      asked.2.1.inner.records = lived.1.inner.records ∧
      asked.2.1.inner.nextObject = lived.1.inner.nextObject ∧
      ∀ s', Interchangeable lived.1 s' →
        let fresh := (i.perform engine.spied).run (s', ⟨e, current, none⟩)
        asked.1 = fresh.1 ∨ 2 ^ 32 < current.size ∧ ∃ r r' : Refusal, r.Twin r' ∧
          asked.1 = .error r.toError ∧ fresh.1 = .error r'.toError := by
  intro lived current asked
  obtain ⟨t, hlived⟩ := Query.life_eq engine.spied history s e c
  have hasked : asked = _ := (congrArg (i.perform engine.spied).run hlived).trans
    (i.keepsQuery engine.spied e current t)
  obtain ⟨evs, hfollows⟩ := i.follows engine e current t
  have hkept := hfollows.kept (P := t.inner.Retains) (fun c => leads_perform c) ⟨rfl, rfl, rfl⟩
  rw [hasked, show lived = _ from hlived]
  refine ⟨rfl, hkept.schemas, hkept.records, hkept.nextObject, fun s' hs' => ?_⟩
  intro fresh
  rw [show fresh = _ from i.keepsQuery engine.spied e current s']
  have hends := twin_inquiry i e current t s' hs'.over
  dsimp only
  generalize (Query.usePlan engine.spied e current (i.use engine.spied e)).run t = ran at hends ⊢
  generalize (Query.usePlan engine.spied e current (i.use engine.spied e)).run s' = ran' at hends ⊢
  cases hends with
  | ok h =>
    obtain ⟨rfl, -⟩ := h
    exact .inl rfl
  | error he _ =>
    cases he with
    | same e => exact .inl rfl
    | refused hcrowded hr => exact .inr ⟨hcrowded, _, _, hr, rfl, rfl⟩

/-- A call failed because its builder session could not be closed. Later the same query finds what a
fresh query finds in a store where no session was opened before. -/
theorem carries_nothing_over_people :
    let people : EntityModel := (EntityModel.new ⟨7⟩ "Person").declare ⟨3⟩ "age" (.integer .uint8)
    let start : Spied engine := ⟨(new none).register people, [], []⟩
    let present : Condition := .compare ⟨⟨3⟩, .notNull⟩
    let history : List (Query.Turn (Spied engine)) :=
      [.elsewhere (·.setFault "close_builder" true), .ask .findIds,
        .elsewhere (·.setFault "close_builder" false), .setCondition present]
    let lived := Query.life engine.spied history (start, ⟨⟨7⟩, .compare ⟨⟨3⟩, .isNull⟩, none⟩)
    lived.1.inner.nextBuilder ≠ start.inner.nextBuilder ∧ Interchangeable lived.1 start ∧
      ((Query.findIds engine.spied).run lived).1 =
        ((Query.findIds engine.spied).run (start, ⟨⟨7⟩, present, none⟩)).1 := by
  intro people start present history lived
  have hsame : Interchangeable lived.1 start := ⟨rfl, rfl, rfl, fun _ => Iff.rfl⟩
  obtain ⟨-, -, -, -, hfresh⟩ := carries_nothing_over start ⟨7⟩ (.compare ⟨⟨3⟩, .isNull⟩) history
    .findIds
  refine ⟨by decide, hsame, (hfresh start hsame).resolve_right fun hcrowded => ?_⟩
  exact absurd hcrowded.1 (by decide)

end Memory

end EntityQuery
