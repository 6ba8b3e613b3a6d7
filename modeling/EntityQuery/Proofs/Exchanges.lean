import EntityQuery.Proofs.StoredRecords

/-!
# A store answers as its history says

What a store answers can be read off what it was asked before and what it answered then, without a
look at the store: it behaves as a map from entities and object ids to records
(`Memory.lawful_exchanges`).

* `Transcript.Live` says which objects there are after some exchanges, and `Transcript.Expects` what
  the next answer must be.
* `Memory.Follows` ties a store to its history. `Memory.Follows.exchange` says that one exchange
  keeps the tie, and `Memory.follows_exchanges` that any number of them do.
-/

namespace EntityQuery

/-! ## Requests and answers

A request changes the store, answers, or does both. What is written down of it is the request and
its answer, and nothing of the store. -/

/-- What a store can be asked: to register an entity, or to put, remove or read an object. -/
inductive Request where
  | register (model : EntityModel)
  | put (entity : EntityId) (properties : PropertyMap)
  | remove (entity : EntityId) (object : ObjectId)
  | get (entity : EntityId) (object : ObjectId)

/-- A request together with its answer. -/
inductive Exchange where
  | register (model : EntityModel)
  | put (entity : EntityId) (properties : PropertyMap) (outcome : Except Error ObjectId)
  | remove (entity : EntityId) (object : ObjectId) (outcome : Except Error Bool)
  | get (entity : EntityId) (object : ObjectId) (outcome : Except Error (Option Bytes))

/-- The exchanges with a store, in the order in which they took place. -/
abbrev Transcript := List Exchange

namespace Memory

/-- The answer to a request, written down together with it, and the store afterwards. -/
def exchange (m : Memory) : Request → Exchange × Memory
  | .register model => (.register model, m.register model)
  | .put e properties =>
    let (outcome, m') := (put e properties).run m
    (.put e properties outcome, m')
  | .remove e o =>
    let (outcome, m') := (remove e o).run m
    (.remove e o outcome, m')
  | .get e o => (.get e o (m.get e o), m)

/-- Asks a store one thing after the other. -/
def exchanges (m : Memory) (requests : List Request) : Transcript × Memory :=
  requests.foldl (fun (t, m) r => ((t ++ [(m.exchange r).1]), (m.exchange r).2)) ([], m)

end Memory

/-! ## What a history says

These definitions look at the transcript alone. Each has one lemma about a transcript that is one
exchange longer, which is all that the step from one store to the next needs. -/

/-- The id that a put gave, if it was successful. -/
def Exchange.stored? : Exchange → Option ObjectId
  | put _ _ (.ok o) => some o
  | _ => none

namespace Transcript

/-- The ids that the successful puts gave, over all entities. -/
def stored (t : Transcript) : List ObjectId :=
  t.filterMap Exchange.stored?

/-- The entity was registered at some time, with whatever schema. -/
def Registered (t : Transcript) (e : EntityId) : Prop :=
  ∃ model, .register model ∈ t ∧ model.id = e

/-- Whether an object of the entity was put with the properties and not removed since. -/
def Live (t : Transcript) (e : EntityId) (o : ObjectId) (properties : PropertyMap) : Prop :=
  ∃ before after, t = before ++ .put e properties (.ok o) :: after ∧
    ∀ outcome, .remove e o outcome ∉ after

/-- An entity that was never registered is unknown; of others the answer is as told. -/
def Knows {α : Type} (t : Transcript) (e : EntityId) (outcome : Except Error α)
    (P : α → Prop) : Prop :=
  (t.Registered e ∧ ∃ a, outcome = .ok a ∧ P a) ∨
    (¬ t.Registered e ∧ outcome = .error (.unknownEntity e))

/-- Whether an exchange is what must come of its request after some history: the next object gets
the next number, an object is read as it was put until it is removed, and a removal tells whether
there was something to remove. -/
def Expects (t : Transcript) : Exchange → Prop
  | .register _ => True
  | .put _ _ outcome => ∀ o, outcome = .ok o → o.val.toNat = t.stored.length + 1
  | .remove e o outcome =>
    t.Knows e outcome fun existed => existed = true ↔ ∃ properties, t.Live e o properties
  | .get e o outcome =>
    t.Knows e outcome fun found => ∀ bytes, found = some bytes ↔
      ∃ properties, t.Live e o properties ∧ bytes = Record.encode ⟨o, properties⟩

/-- Whether every exchange is what must come of its request after those before it. -/
def Lawful (t : Transcript) : Prop :=
  ∀ before x after, t = before ++ x :: after → Expects before x

variable {t : Transcript} {x : Exchange} {e : EntityId} {o : ObjectId} {properties : PropertyMap}

theorem stored_concat (t : Transcript) (x : Exchange) :
    stored (t ++ [x]) = t.stored ++ x.stored?.toList := by
  rw [stored, List.filterMap_append]
  cases h : x.stored? <;> simp [h, stored]

theorem registered_concat_iff :
    Registered (t ++ [x]) e ↔ t.Registered e ∨ ∃ model, x = .register model ∧ model.id = e := by
  simp only [Registered, List.mem_append, List.mem_singleton, or_and_right, exists_or, eq_comm]

/-- One more exchange adds an object or removes one. -/
theorem live_concat_iff :
    Live (t ++ [x]) e o properties ↔
      x = .put e properties (.ok o) ∨
        t.Live e o properties ∧ ∀ outcome, x ≠ .remove e o outcome := by
  constructor
  · rintro ⟨before, after, heq, hkept⟩
    -- the object was put by the last exchange or before it
    rcases List.eq_nil_or_concat' after with rfl | ⟨after, y, rfl⟩
    · obtain ⟨-, hx⟩ := List.append_inj' heq rfl
      exact .inl (List.singleton_inj.mp hx)
    · rw [← List.cons_append, ← List.append_assoc] at heq
      obtain ⟨ht, hx⟩ := List.append_inj' heq rfl
      obtain rfl := List.singleton_inj.mp hx
      refine .inr ⟨⟨before, after, ht, fun outcome hmem => ?_⟩, ?_⟩
      · exact hkept outcome (List.mem_append_left _ hmem)
      · rintro outcome rfl
        exact hkept outcome (List.mem_append_right _ List.mem_cons_self)
  · rintro (rfl | ⟨⟨before, after, rfl, hkept⟩, hx⟩)
    · exact ⟨t, [], rfl, by simp⟩
    · refine ⟨before, after ++ [x], by simp, fun outcome hmem => ?_⟩
      rcases List.mem_append.mp hmem with hmem | hmem
      · exact hkept outcome hmem
      · exact hx outcome (List.mem_singleton.mp hmem).symm

theorem mem_stored_of_live (h : t.Live e o properties) : o ∈ t.stored := by
  obtain ⟨before, after, rfl, -⟩ := h
  simp [stored, Exchange.stored?]

/-- A transcript is lawful exchange by exchange. -/
theorem lawful_concat_iff : Lawful (t ++ [x]) ↔ t.Lawful ∧ t.Expects x := by
  constructor
  · intro h
    refine ⟨fun before y after heq => ?_, h t x [] rfl⟩
    exact h before y (after ++ [x]) (by simp [heq])
  · rintro ⟨hlawful, hx⟩ before y after heq
    rcases List.eq_nil_or_concat' after with rfl | ⟨after, z, rfl⟩
    · obtain ⟨rfl, hy⟩ := List.append_inj' heq rfl
      exact List.singleton_inj.mp hy ▸ hx
    · rw [← List.cons_append, ← List.append_assoc] at heq
      exact hlawful before y after (List.append_inj' heq rfl).1

end Transcript

/-! ## Stores and their histories

A store is looked at by `record?` alone, which reads the record table of an entity if there is one.
Each change of the store is an equation on what `record?` shows afterwards. -/

namespace Memory

variable {m m' : Memory} {t : Transcript} {e : EntityId} {o : ObjectId} {properties : PropertyMap}
  {objects : Table ObjectId Bytes}

/-- The record that is stored under an id of an entity. -/
def record? (m : Memory) (e : EntityId) (o : ObjectId) : Option Bytes :=
  (m.records.get? e).bind (·.get? o)

/-- A record table that is not there shows what the empty one shows. -/
theorem get?_getD_default (m : Memory) (e : EntityId) (o : ObjectId) :
    ((m.records.get? e).getD default).get? o = m.record? e o := by
  rw [record?]
  cases m.records.get? e <;> rfl

/-- An entity whose record table is changed is the only one that is changed. -/
theorem record?_insert (h : m'.records = m.records.insert e objects) (e' : EntityId)
    (o : ObjectId) :
    m'.record? e' o = if e' = e then objects.get? o else m.record? e' o := by
  rw [record?, h, Table.get?_insert]
  by_cases heq : e' = e
  · simp [heq]
  · simp [heq, Key.rank_eq_iff, record?]

/-- Registering an entity drops no record and alters none, also if it has another schema already. -/
theorem record?_register (m : Memory) (model : EntityModel) (e : EntityId) (o : ObjectId) :
    (m.register model).record? e o = m.record? e o := by
  have hrecords : (m.register model).records = m.records.insert model.id _ := rfl
  rw [record?_insert hrecords]
  split
  · rename_i heq
    rw [heq]
    exact m.get?_getD_default model.id o
  · rfl

/-- Storing an object adds its record under the next id. -/
theorem record?_stored (m : Memory) (e e' : EntityId) (properties : PropertyMap) (o : ObjectId) :
    (m.stored e properties).record? e' o =
      if e' = e ∧ o = ⟨m.nextObject⟩ then some (Record.encode ⟨o, properties⟩)
      else m.record? e' o := by
  have hrecords : (m.stored e properties).records = m.records.insert e _ := rfl
  rw [record?_insert hrecords]
  by_cases he : e' = e
  · have hshown : ((m.records.get? e).getD default).get? o = m.record? e o :=
      m.get?_getD_default e o
    rw [if_pos he, Table.get?_insert, hshown, he]
    by_cases ho : o = ⟨m.nextObject⟩
    · simp [ho]
    · simp [ho, Key.rank_eq_iff]
  · rw [if_neg he, if_neg fun h => he h.1]

/-- Removing an object takes its record away, and no other. -/
theorem record?_removed (hobjects : m.objects e = .ok objects) (e' : EntityId) (o o' : ObjectId) :
    (m.removed e objects o).record? e' o' =
      if e' = e ∧ o' = o then none else m.record? e' o' := by
  have hrecords : (m.removed e objects o).records = m.records.insert e _ := rfl
  rw [record?_insert hrecords]
  by_cases he : e' = e
  · rw [if_pos he, Table.get?_erase, record?, he, objects_eq_ok_iff.mp hobjects, Option.bind_some]
    by_cases ho : o' = o
    · simp [ho]
    · simp [ho, Key.rank_eq_iff]
  · rw [if_neg he, if_neg fun h => he h.1]

theorem get?_eq_record? (hobjects : m.objects e = .ok objects) (o : ObjectId) :
    objects.get? o = m.record? e o := by
  rw [record?, objects_eq_ok_iff.mp hobjects, Option.bind_some]

/-- What is read of an entity with a record table is what `record?` shows. -/
theorem get_of_objects (hobjects : m.objects e = .ok objects) (o : ObjectId) :
    m.get e o = .ok (m.record? e o) := by
  rw [get, hobjects, ← get?_eq_record? hobjects]
  rfl

/-- An entity without a record table is unknown to whatever reads one. -/
theorem objects_of_get?_eq_none (h : m.records.get? e = none) :
    m.objects e = .error (.unknownEntity e) := by
  rw [objects, h]

/-! ## One exchange

The tie between a store and its history has four parts: the counter, the entities, that schemas and
record tables go together, and the records. An exchange keeps all four, or is refused and leaves the
store as it is. -/

/-- Whether a store is as its history says. -/
structure Follows (m : Memory) (t : Transcript) : Prop where
  next : m.nextObject.toNat = t.stored.length + 1
  numbered : t.stored.map (·.val.toNat) = List.range' 1 t.stored.length
  registered : ∀ e, (m.schemas.get? e).isSome ↔ t.Registered e
  /-- The entities with a schema are those with a record table. -/
  paired : m.Paired
  records : ∀ e o bytes, m.record? e o = some bytes ↔
    ∃ properties, t.Live e o properties ∧ bytes = Record.encode ⟨o, properties⟩

theorem follows_new (limit : Option Nat) : (new limit).Follows [] where
  next := rfl
  numbered := rfl
  registered e := by simp [new, Transcript.Registered]
  paired := paired_new limit
  records e o bytes := by simp [record?, new, Transcript.Live]

theorem writes_exchange (m : Memory) (r : Request) : m.Writes (m.exchange r).2 := by
  cases r with
  | register model => exact .register model
  | put e properties => exact writes_put m e properties
  | remove e o => exact writes_remove m e o
  | get => exact .refuse

namespace Follows

variable (h : m.Follows t)

include h

/-- What is asked of a record table is answered by the history. -/
theorem knows {α : Type} {outcome : Except Error α} {P : α → Prop}
    (hsome : ∀ objects, m.objects e = .ok objects → ∃ a, outcome = .ok a ∧ P a)
    (hnone : m.objects e = .error (.unknownEntity e) → outcome = .error (.unknownEntity e)) :
    t.Knows e outcome P := by
  cases hobjects : m.records.get? e with
  | some objects =>
    refine .inl ⟨(h.registered e).mp ?_, hsome objects (objects_eq_ok_iff.mpr hobjects)⟩
    rw [h.paired e, hobjects]
    rfl
  | none =>
    refine .inr ⟨fun hregistered => ?_, hnone (objects_of_get?_eq_none hobjects)⟩
    -- an entity with a schema would have a record table
    have hsome := (h.registered e).mpr hregistered
    rw [h.paired e, hobjects] at hsome
    cases hsome

/-- No object has the id that is given next. -/
theorem not_live_next (e : EntityId) (properties : PropertyMap) :
    ¬ t.Live e ⟨m.nextObject⟩ properties := by
  intro hlive
  have hmem : m.nextObject.toNat ∈ t.stored.map (·.val.toNat) :=
    List.mem_map_of_mem (Transcript.mem_stored_of_live hlive)
  rw [h.numbered, List.mem_range', h.next] at hmem
  obtain ⟨i, hi, heq⟩ := hmem
  omega

/-- An exchange that stores no new object leaves the count as it is. -/
theorem concat {x : Exchange} (hstored : x.stored? = none) (hnext : m'.nextObject = m.nextObject)
    (hwrites : m.Writes m')
    (hregistered : ∀ e, (m'.schemas.get? e).isSome ↔ Transcript.Registered (t ++ [x]) e)
    (hrecords : ∀ e o bytes, m'.record? e o = some bytes ↔
      ∃ properties, Transcript.Live (t ++ [x]) e o properties ∧
        bytes = Record.encode ⟨o, properties⟩) :
    m'.Follows (t ++ [x]) where
  next := by rw [hnext, h.next, Transcript.stored_concat, hstored]; simp
  numbered := by rw [Transcript.stored_concat, hstored]; simpa using h.numbered
  registered := hregistered
  paired := h.paired.writes hwrites
  records := hrecords

/-- Registering an entity makes it known, and changes no record. -/
theorem register (model : EntityModel) :
    (m.register model).Follows (t ++ [.register model]) := by
  refine h.concat rfl rfl (.register model) (fun e => ?_) fun e o bytes => ?_
  · show ((m.schemas.insert model.id model).get? e).isSome ↔ _
    rw [Table.isSome_get?_insert, Bool.or_eq_true, decide_eq_true_iff, h.registered,
      Transcript.registered_concat_iff]
    simp [Key.rank_eq_iff, or_comm, eq_comm]
  · simp [record?_register, h.records, Transcript.live_concat_iff]

/-- An exchange that changes nothing that the history tells leaves the store as it is. -/
theorem unchanged {x : Exchange} (hstored : x.stored? = none)
    (hregister : ∀ model, x ≠ .register model)
    (hlive : ∀ e o properties,
      Transcript.Live (t ++ [x]) e o properties ↔ t.Live e o properties) :
    m.Follows (t ++ [x]) :=
  h.concat hstored rfl .refuse
    (fun e => by simp [h.registered, Transcript.registered_concat_iff, hregister])
    fun e o bytes => by simp only [h.records, hlive]

/-- An object that is admitted is stored under an id that no object had before. -/
theorem stored (hvalid : m.validate e properties = .ok ())
    (hroom : t.stored.length + 1 < 2 ^ 64 - 1) :
    (m.stored e properties).Follows (t ++ [.put e properties (.ok ⟨m.nextObject⟩)]) where
  next := by
    show (m.nextObject + 1).toNat = _
    -- the count of the stored objects is far from coming round
    have hnext := h.next
    have hone : (1 : UInt64).toNat = 1 := rfl
    rw [UInt64.toNat_add, hone, Transcript.stored_concat]
    simp only [Exchange.stored?, Option.toList_some, List.length_append, List.length_singleton]
    omega
  numbered := by
    simp only [Transcript.stored_concat, Exchange.stored?, Option.toList_some, List.map_append,
      List.map_singleton, List.length_append, List.length_singleton, h.numbered, h.next]
    rw [List.range'_1_concat, Nat.add_comm 1]
  registered e' := by
    rw [Transcript.registered_concat_iff, ← h.registered]
    simp [Memory.stored, file]
  paired := h.paired.writes (.store hvalid)
  records e' o bytes := by
    rw [record?_stored]
    -- only under the new id is anything else to be read than before
    by_cases hnew : e' = e ∧ o = ⟨m.nextObject⟩
    · obtain ⟨rfl, rfl⟩ := hnew
      simp [Transcript.live_concat_iff, h.not_live_next, eq_comm]
    · have hne : ∀ properties', Exchange.put e properties (.ok ⟨m.nextObject⟩) ≠
          .put e' properties' (.ok o) := by
        intro properties' heq
        cases heq
        exact hnew ⟨rfl, rfl⟩
      simp [if_neg hnew, h.records, Transcript.live_concat_iff, hne]

/-- A removal takes one object away, if it was there. -/
theorem removed (hobjects : m.objects e = .ok objects) (o : ObjectId) (existed : Bool) :
    (m.removed e objects o).Follows (t ++ [.remove e o (.ok existed)]) := by
  refine h.concat rfl rfl (.remove hobjects o) (fun e' => ?_) fun e' o' bytes => ?_
  · rw [Transcript.registered_concat_iff, ← h.registered]
    simp [Memory.removed]
  · rw [record?_removed hobjects]
    by_cases hgone : e' = e ∧ o' = o
    · obtain ⟨rfl, rfl⟩ := hgone
      simp [Transcript.live_concat_iff]
    · have hne : ∀ outcome, Exchange.remove e o (.ok existed) ≠ .remove e' o' outcome := by
        intro outcome heq
        cases heq
        exact hgone ⟨rfl, rfl⟩
      simp [if_neg hgone, h.records, Transcript.live_concat_iff, hne]

/-- A put comes out as the history says: a valid object gets the next number, and any other changes
nothing. -/
theorem put (e : EntityId) (properties : PropertyMap)
    (hroom : (Transcript.stored (t ++ [(m.exchange (.put e properties)).1])).length < 2 ^ 64 - 1) :
    t.Expects (m.exchange (.put e properties)).1 ∧
      (m.exchange (.put e properties)).2.Follows (t ++ [(m.exchange (.put e properties)).1]) := by
  simp only [Memory.exchange, run_put] at hroom ⊢
  cases hvalid : m.validate e properties with
  | error err =>
    refine ⟨fun o ho => (by cases ho), h.unchanged rfl (by simp) fun e o properties => ?_⟩
    simp [Transcript.live_concat_iff]
  | ok =>
    refine ⟨fun o ho => ?_, h.stored hvalid ?_⟩
    · cases ho
      exact h.next
    · simpa [hvalid, Transcript.stored_concat, Exchange.stored?] using hroom

/-- A removal comes out as the history says, and tells whether there was something to remove. -/
theorem remove (e : EntityId) (o : ObjectId) :
    t.Expects (m.exchange (.remove e o)).1 ∧
      (m.exchange (.remove e o)).2.Follows (t ++ [(m.exchange (.remove e o)).1]) := by
  have hlive : (m.record? e o).isSome = true ↔ ∃ properties, t.Live e o properties := by
    simp [Option.isSome_iff_exists, h.records]
  simp only [Memory.exchange, run_remove]
  cases hobjects : m.records.get? e with
  | some objects =>
    replace hobjects : m.objects e = .ok objects := objects_eq_ok_iff.mpr hobjects
    simp only [hobjects, get?_eq_record? hobjects]
    refine ⟨h.knows (fun _ _ => ⟨_, rfl, hlive⟩) fun hnone => ?_, h.removed hobjects o _⟩
    rw [hobjects] at hnone
    cases hnone
  | none =>
    have hunknown := objects_of_get?_eq_none hobjects
    simp only [hunknown]
    refine ⟨h.knows (fun _ hsome => ?_) fun _ => rfl, h.unchanged rfl (by simp) ?_⟩
    · rw [hunknown] at hsome
      cases hsome
    -- there was nothing to remove
    intro e' o' properties
    simp only [Transcript.live_concat_iff, reduceCtorEq, false_or]
    refine and_iff_left_of_imp fun hlive' outcome heq => ?_
    cases heq
    simpa [record?, hobjects] using hlive.mpr ⟨properties, hlive'⟩

/-- One exchange comes out as the history says and becomes part of it. -/
theorem exchange (r : Request)
    (hroom : (Transcript.stored (t ++ [(m.exchange r).1])).length < 2 ^ 64 - 1) :
    t.Expects (m.exchange r).1 ∧ (m.exchange r).2.Follows (t ++ [(m.exchange r).1]) := by
  cases r with
  | register model => exact ⟨trivial, h.register model⟩
  | put e properties => exact h.put e properties hroom
  | remove e o => exact h.remove e o
  | get e o =>
    have hrecords := h.records e o
    refine ⟨h.knows (fun _ hobjects => ⟨_, get_of_objects hobjects o, hrecords⟩) fun hnone => ?_,
      ?_⟩
    · rw [get, hnone]
      rfl
    · exact h.unchanged rfl (by simp [Memory.exchange]) fun e o properties => by
        simp [Memory.exchange, Transcript.live_concat_iff]

end Follows

/-! ## Any number of exchanges

The tie holds of a fresh store and the empty history, and each exchange keeps it. So it holds after
any number of them, and every answer on the way was the one that was to be expected. -/

theorem exchanges_concat (m : Memory) (requests : List Request) (r : Request) :
    m.exchanges (requests ++ [r]) =
      ((m.exchanges requests).1 ++ [((m.exchanges requests).2.exchange r).1],
        ((m.exchanges requests).2.exchange r).2) := by
  simp [exchanges]

/-- After any requests a store follows its history, and every answer on the way was expected. -/
theorem follows_exchanges (limit : Option Nat) (requests : List Request)
    (hroom : ((new limit).exchanges requests).1.stored.length < 2 ^ 64 - 1) :
    ((new limit).exchanges requests).1.Lawful ∧
      ((new limit).exchanges requests).2.Follows ((new limit).exchanges requests).1 := by
  induction requests using List.reverseRecOn with
  | nil => exact ⟨fun before x after heq => by simp [exchanges] at heq, follows_new limit⟩
  | append_singleton requests r ih =>
    rw [exchanges_concat] at hroom ⊢
    -- a history has no more puts than one that goes on from it
    have hshorter := hroom
    rw [Transcript.stored_concat, List.length_append] at hshorter
    obtain ⟨hlawful, hfollows⟩ := ih (Nat.lt_of_le_of_lt (Nat.le_add_right ..) hshorter)
    obtain ⟨hexpects, hnext⟩ := hfollows.exchange r hroom
    exact ⟨Transcript.lawful_concat_iff.mpr ⟨hlawful, hexpects⟩, hnext⟩

/-! ## Cursors

A cursor is opened on an entity with a schema. That entity has a record table, since the two tables
have the same entities, and no write takes the record table away. -/

/-- No write takes a record table away. -/
theorem Writes.isSome_records (h : m.Writes m') (hsome : (m.records.get? e).isSome) :
    (m'.records.get? e).isSome := by
  cases h with
  | register | store => exact (Table.isSome_get?_update ..).trans (by simp [hsome])
  | remove => exact (Table.isSome_get?_insert ..).trans (by simp [hsome])
  | refuse => exact hsome

/-- No requests take a record table away. -/
theorem isSome_exchanges (requests : List Request) (h : (m.records.get? e).isSome) :
    ((m.exchanges requests).2.records.get? e).isSome := by
  induction requests using List.reverseRecOn with
  | nil => exact h
  | append_singleton requests r ih =>
    rw [exchanges_concat]
    exact (writes_exchange _ r).isSome_records ih

/-- A scan fails only on a record that cannot be read. -/
theorem eq_decode_of_select {p : Predicate} {entries : List (ObjectId × Bytes)} {err : Error}
    (h : select p entries = .error err) : ∃ reason, err = .decode reason := by
  induction entries with
  | nil => cases h
  | cons entry rest ih =>
    simp only [select, Record.decode] at h
    cases hread : JsonForm.read? Record entry.2 with
    | none =>
      rw [hread] at h
      exact ⟨_, (Except.error.inj h).symm⟩
    | some r =>
      cases hrest : select p rest with
      | error err' =>
        simp only [hread, hrest] at h
        exact ih (hrest.trans h)
      | ok selected =>
        simp only [hread, hrest] at h
        cases h

/-- A scan with a cursor over an entity with a record table may fail, but not because the entity is
unknown. -/
theorem matching_ne_unknownEntity {p : Plan} {k : Cursor}
    (h : (m.records.get? k.entity).isSome) (e : EntityId) :
    m.matching p k ≠ .error (.unknownEntity e) := by
  obtain ⟨objects, hobjects⟩ := Option.isSome_iff_exists.mp h
  rw [matching]
  split_ifs with hne
  · simp
  · rw [not_not.mp hne, objects_eq_ok_iff.mpr hobjects]
    intro herror
    obtain ⟨reason, heq⟩ := eq_decode_of_select herror
    cases heq

/-- What is read of an entity is answered exactly if it has a record table. -/
theorem exists_get_iff :
    (∃ found, m.get e o = .ok found) ↔ ∃ objects, m.records.get? e = some objects := by
  simp [Memory.get, bind_eq_ok, objects_eq_ok_iff, pure, Except.pure]

/-- A cursor is opened on the entities with a schema, and changes no table. -/
theorem run_openCursor_eq_ok_iff {tx : Tx} {k : Cursor} :
    (openCursor tx e).run m = (.ok k, m') ↔ (m.schemas.get? e).isSome ∧
      k = ⟨m.nextCursor, tx.id, e⟩ ∧
      m' = { m with nextCursor := m.nextCursor + 1, cursors := m.nextCursor :: m.cursors } := by
  rw [openCursor, Action.run_bind, Action.run_ofQuestion, Memory.model]
  cases m.schemas.get? e <;> simp [@eq_comm _ k, @eq_comm _ m']

/-- A cursor can be opened on the entities with a schema. -/
theorem exists_openCursor_iff {tx : Tx} :
    (∃ k m', (openCursor tx e).run m = (.ok k, m')) ↔ (m.schemas.get? e).isSome := by
  simp only [run_openCursor_eq_ok_iff, exists_and_left, exists_eq, and_true]

/-- A store answers every request as its history says, whatever it is asked. Ids are given in
counting order. The entities with a schema are those with a record table, which are those that were
registered. A cursor can be opened on these alone, and whatever is asked next, a scan with it never
finds its entity unknown. -/
theorem lawful_exchanges (limit : Option Nat) (requests : List Request)
    (hroom : ((new limit).exchanges requests).1.stored.length < 2 ^ 64 - 1) :
    let t := ((new limit).exchanges requests).1
    let m := ((new limit).exchanges requests).2
    t.Lawful ∧ t.stored.map (·.val.toNat) = List.range' 1 t.stored.length ∧
      (∀ e, (m.schemas.get? e).isSome = (m.records.get? e).isSome) ∧
      (∀ e, ((∃ model, m.model e = .ok model) ↔ t.Registered e) ∧
        ∀ o, (∃ found, m.get e o = .ok found) ↔ t.Registered e) ∧
      ∀ tx e, ((∃ k m', (openCursor tx e).run m = (.ok k, m')) ↔ t.Registered e) ∧
        ∀ k m', (openCursor tx e).run m = (.ok k, m') → ∀ later p e',
          (m'.exchanges later).2.matching p k ≠ .error (.unknownEntity e') := by
  intro t m
  obtain ⟨hlawful, hfollows⟩ := follows_exchanges limit requests hroom
  refine ⟨hlawful, hfollows.numbered, hfollows.paired, fun e => ⟨?_, fun o => ?_⟩,
    fun tx e => ⟨?_, ?_⟩⟩
  · rw [← hfollows.registered, Option.isSome_iff_exists]
    exact exists_congr fun _ => model_eq_ok_iff
  · rw [← hfollows.registered, hfollows.paired, Option.isSome_iff_exists]
    exact exists_get_iff
  · rw [← hfollows.registered]
    exact exists_openCursor_iff
  · intro k m' hopen later p e'
    obtain ⟨hschema, rfl, rfl⟩ := run_openCursor_eq_ok_iff.mp hopen
    -- opening a cursor changes neither table
    have hrecords : (m.records.get? e).isSome := (hfollows.paired e).symm.trans hschema
    exact matching_ne_unknownEntity (isSome_exchanges later hrecords) e'

/-- Two entities share the count, the second put is refused, and an object is removed before its
entity gets another schema. -/
theorem lawful_exchanges_people :
    let people : EntityModel := (EntityModel.new ⟨7⟩ "Person").declare ⟨3⟩ "age" (.integer .uint8)
    let notes : EntityModel := (EntityModel.new ⟨8⟩ "Note").declare ⟨1⟩ "text" .text
    let hi : PropertyMap := .ofList [(⟨1⟩, .string "hi")]
    let requests : List Request := [.register people, .put ⟨7⟩ (.ofList [(⟨3⟩, .uint 41)]),
      .put ⟨7⟩ (.ofList [(⟨3⟩, .uint 300)]), .register notes, .put ⟨8⟩ hi, .remove ⟨7⟩ ⟨1⟩,
      .register (.new ⟨7⟩ "Person"), .put ⟨7⟩ .empty, .get ⟨7⟩ ⟨1⟩, .get ⟨8⟩ ⟨2⟩, .get ⟨9⟩ ⟨1⟩]
    let t := ((new none).exchanges requests).1
    let m := ((new none).exchanges requests).2
    let tx : Tx := ⟨⟨1⟩, .readOnly⟩
    t = [.register people, .put ⟨7⟩ (.ofList [(⟨3⟩, .uint 41)]) (.ok ⟨1⟩),
        .put ⟨7⟩ (.ofList [(⟨3⟩, .uint 300)]) (.error (.typeMismatch ⟨3⟩ "UInt8" "UNSIGNED")),
        .register notes, .put ⟨8⟩ hi (.ok ⟨2⟩), .remove ⟨7⟩ ⟨1⟩ (.ok true),
        .register (.new ⟨7⟩ "Person"), .put ⟨7⟩ .empty (.ok ⟨3⟩), .get ⟨7⟩ ⟨1⟩ (.ok none),
        .get ⟨8⟩ ⟨2⟩ (.ok (some (Record.encode ⟨⟨2⟩, hi⟩))),
        .get ⟨9⟩ ⟨1⟩ (.error (.unknownEntity ⟨9⟩))] ∧
      t.Lawful ∧ t.stored.map (·.val.toNat) = [1, 2, 3] ∧
      (m.records.get? ⟨8⟩).isSome = true ∧ (m.records.get? ⟨9⟩).isSome = false ∧
      ∃ k m', (openCursor tx ⟨7⟩).run m = (.ok k, m') ∧ ∀ later p e',
        (m'.exchanges later).2.matching p k ≠ .error (.unknownEntity e') := by
  intro people notes hi requests t m tx
  obtain ⟨hlawful, hnumbered, hpaired, -, hcursors⟩ :=
    lawful_exchanges none requests (by decide +kernel)
  have hlength : t.stored.length = 3 := by decide +kernel
  have hknown : t.Registered ⟨7⟩ := ⟨people, .head _, rfl⟩
  obtain ⟨k, m', hopen⟩ := (hcursors tx ⟨7⟩).1.mpr hknown
  -- the transcript is what the requests come to when they are answered
  refine ⟨by with_unfolding_all rfl, hlawful, hnumbered.trans (congrArg (List.range' 1 ·) hlength),
    (hpaired ⟨8⟩).symm.trans ?_, (hpaired ⟨9⟩).symm.trans ?_, k, m', hopen,
    (hcursors tx ⟨7⟩).2 k m' hopen⟩
  · decide +kernel
  · decide +kernel

end Memory

end EntityQuery
