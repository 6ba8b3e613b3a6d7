import EntityQuery.Proofs.Registration

/-!
# The history of a builder session

What went through in a session is a list of registrations, each with the id it was given. The list
alone tells which conditions no combination has taken (`Log.standing`) and which tree each id stands
for (`Log.Built`).

* `Session.Mirrors` ties a session to such a list. Every call that goes through keeps the tie, with
  one more registration (`Mirrors.register`, `Mirrors.combine`).
* `Mirrors.untaken` says that the session's untaken predicates are the trees of the standing ids.
* `Mirrors.leaves` says that every comparison that was registered is in one of these trees, once.
-/

namespace EntityQuery

/-- A registration that went through, with the id that it was given. -/
inductive Registered where
  | leaf (id : ConditionId) (c : Comparison)
  | node (id : ConditionId) (j : Junction) (ids : List ConditionId)

namespace Registered

/-- The id that the registration was given. -/
def id : Registered → ConditionId
  | leaf id _ => id
  | node id _ _ => id

/-- The ids that the registration takes: a combination's operands. -/
def takes : Registered → List ConditionId
  | leaf .. => []
  | node _ _ ids => ids

/-- The predicate that the registration adds, if it is a comparison's. -/
def leaf? (m : EntityModel) : Registered → Option Predicate
  | leaf _ c => (c.resolve m).toOption
  | node .. => none

end Registered

/-- What went through in a session, in order. -/
abbrev Log := List Registered

namespace Log

/-- Some combination took the condition of the id. -/
def Taken (log : Log) (id : ConditionId) : Prop :=
  ∃ entry ∈ log, id ∈ entry.takes

instance (log : Log) (id : ConditionId) : Decidable (log.Taken id) :=
  inferInstanceAs (Decidable (∃ entry ∈ log, id ∈ entry.takes))

/-- The conditions that no combination has taken, in the order of their registration. -/
def standing (log : Log) : List ConditionId :=
  (log.map (·.id)).filter fun id => ¬ log.Taken id

/-- The tree that an id stands for. Children come in the order in which their ids were listed. -/
inductive Built (m : EntityModel) (log : Log) : ConditionId → Predicate → Prop where
  | leaf {id : ConditionId} {c : Comparison} {p : Predicate} (hmade : .leaf id c ∈ log)
    (hp : c.resolve m = .ok p) : Built m log id p
  | node {id : ConditionId} {j : Junction} {ids : List ConditionId} {ps : List Predicate}
    (hmade : .node id j ids ∈ log) (hlength : ids.length = ps.length)
    (hchildren : ∀ child ∈ ids.zip ps, Built m log child.1 child.2) : Built m log id (.join j ps)

variable {m : EntityModel} {log : Log} {id : ConditionId}

/-- One more registration takes its operands and nothing else. -/
@[simp]
theorem taken_append {entry : Registered} :
    Taken (log ++ [entry]) id ↔ log.Taken id ∨ id ∈ entry.takes := by
  simp [Taken, or_and_right, exists_or]

/-- A tree that an id stands for stays the tree of that id when the log grows. -/
theorem Built.append {p : Predicate} (h : log.Built m id p) (entry : Registered) :
    Built m (log ++ [entry]) id p := by
  induction h with
  | leaf hmade hp => exact .leaf (List.mem_append_left _ hmade) hp
  | node hmade hlength _ ih => exact .node (List.mem_append_left _ hmade) hlength ih

/-- A combination is the junction of the trees of its operands. -/
theorem built_node {j : Junction} {ids : List ConditionId} {ps : List Predicate}
    (hmade : .node id j ids ∈ log) (h : List.Forall₂ (log.Built m) ids ps) :
    log.Built m id (.join j ps) :=
  .node hmade h.length_eq fun _ hchild => (List.forall₂_iff_zip.mp h).2 hchild

/-- Two registrations of one id are one registration. -/
theorem eq_of_id_eq (hnodup : (log.map (·.id)).Nodup) {x y : Registered} (hx : x ∈ log)
    (hy : y ∈ log) (h : x.id = y.id) : x = y :=
  List.inj_on_of_nodup_map hnodup hx hy h

/-- Lists are equal when each entry of the one is the only thing that the other can have in its
place. -/
theorem eq_of_forall₂ {R : ConditionId → Predicate → Prop} {ids : List ConditionId}
    {ps qs : List Predicate} (hps : List.Forall₂ (fun id p => ∀ q, R id q → p = q) ids ps)
    (hqs : List.Forall₂ R ids qs) : ps = qs := by
  induction hps generalizing qs with
  | nil =>
    cases hqs
    rfl
  | cons hp _ ih =>
    cases hqs with
    | cons hq hqs => rw [hp _ hq, ih hqs]

/-- No id stands for two trees. -/
theorem Built.unique (hnodup : (log.map (·.id)).Nodup) {p q : Predicate} (hp : log.Built m id p)
    (hq : log.Built m id q) : p = q := by
  induction hp generalizing q with
  | leaf hmade hp =>
    cases hq with
    | leaf hmade' hq =>
      -- the registration that gave the id is the same in both trees
      cases eq_of_id_eq hnodup hmade hmade' rfl
      exact Except.ok.inj (hp.symm.trans hq)
    | node hmade' => cases eq_of_id_eq hnodup hmade hmade' rfl
  | node hmade hlength _ ih =>
    cases hq with
    | leaf hmade' => cases eq_of_id_eq hnodup hmade hmade' rfl
    | node hmade' hlength' hchildren' =>
      cases eq_of_id_eq hnodup hmade hmade' rfl
      have hqs := List.forall₂_iff_zip.mpr ⟨hlength', fun hmem => hchildren' _ hmem⟩
      rw [eq_of_forall₂ (List.forall₂_iff_zip.mpr ⟨hlength, fun hmem _ => ih _ hmem⟩) hqs]

end Log

namespace Predicate

mutual

/-- The comparisons of a predicate, from left to right. -/
def leaves : Predicate → List Predicate
  | compare p name test => [compare p name test]
  | join _ children => leavesList children

/-- The comparisons of some predicates, one predicate after the other. -/
def leavesList : List Predicate → List Predicate
  | [] => []
  | p :: rest => p.leaves ++ leavesList rest

end

/-- The comparisons of some predicates are those of each of them, in a row. -/
theorem leavesList_eq_flatMap (ps : List Predicate) : leavesList ps = ps.flatMap leaves := by
  induction ps with
  | nil => rfl
  | cons p rest ih => rw [leavesList, ih, List.flatMap_cons]

theorem leaves_conjoin (ps : List Predicate) : (conjoin ps).leaves = ps.flatMap leaves := by
  match ps with
  | [] => rfl
  | [p] => simp [conjoin]
  | p :: q :: rest => rw [conjoin, leaves, leavesList_eq_flatMap]; simp

/-- Two predicates or more are conjoined as they are. -/
theorem conjoin_of_two_le {ps : List Predicate} (h : 2 ≤ ps.length) :
    conjoin ps = .join .all ps := by
  match ps with
  | [] | [_] => simp at h
  | _ :: _ :: _ => simp [conjoin]

end Predicate

namespace Session

variable {s : Session}

/-! ## What a combination takes

A combination marks slots and leaves their predicates where they are. The untaken slots before it
are therefore those that it marks and those that are left, in some order: the operands may be listed
in any. -/

/-- Each slot at one of the places is marked, and every other is as it was. -/
theorem getElem?_markTaken (indexes : List Nat) (i : Nat) :
    (s.markTaken indexes).slots[i]? =
      s.slots[i]?.map fun x => if i ∈ indexes then x.take else x := by
  simp [markTaken, List.getElem?_mapIdx, Slot.take]

theorem predicatesAt_markTaken (indexes is : List Nat) :
    (s.markTaken indexes).predicatesAt is = s.predicatesAt is := by
  unfold predicatesAt
  congr 1
  funext i
  rw [getElem?_markTaken]
  cases s.slots[i]? with
  | none => rfl
  | some x =>
    show some (if i ∈ indexes then x.take else x).predicate = some x.predicate
    split <;> rfl

/-- The untaken predicates are those at the places of the untaken slots. -/
theorem untaken_eq_predicatesAt (s : Session) :
    s.untaken = s.predicatesAt (Slot.rootsFrom 0 s.slots) := by
  have hs : s.slots = [] ++ s.slots := rfl
  exact (predicatesAt_roots hs).symm

/-- The places of untaken slots, looked up one by one. -/
theorem mem_untaken_slots {i : Nat} :
    i ∈ Slot.rootsFrom 0 s.slots ↔ ∃ x, s.slots[i]? = some x ∧ x.taken = false := by
  simp [Slot.mem_rootsFrom]

/-- What is untaken before a combination is what the combination takes and what is untaken after
it. -/
theorem untaken_perm {ids : List ConditionId} (h : s.Claimable ids) :
    s.untaken.Perm (s.predicatesAt (ids.map ConditionId.slot) ++
      (s.markTaken (ids.map ConditionId.slot)).untaken) := by
  let taken := ids.map ConditionId.slot
  let left := Slot.rootsFrom 0 (s.markTaken taken).slots
  have hleft : ∀ i, i ∈ left ↔ i ∉ taken ∧ i ∈ Slot.rootsFrom 0 s.slots := by
    intro i
    rw [mem_untaken_slots, mem_untaken_slots, getElem?_markTaken]
    by_cases hi : i ∈ taken <;> simp [hi]
  have htaken : ∀ i ∈ taken, i ∈ Slot.rootsFrom 0 s.slots := by
    intro i hi
    obtain ⟨c, hc, rfl⟩ := List.mem_map.mp hi
    exact mem_untaken_slots.mpr (h.untaken c hc)
  have hnodup : (taken ++ left).Nodup :=
    List.nodup_append'.mpr ⟨h.distinct, Slot.nodup_rootsFrom _ _,
      fun i hi hi' => ((hleft i).mp hi').1 hi⟩
  -- both lists are without duplicates, so it is enough that they have the same slots
  have hperm : (Slot.rootsFrom 0 s.slots).Perm (taken ++ left) := by
    refine (List.perm_ext_iff_of_nodup (Slot.nodup_rootsFrom _ _) hnodup).mpr fun i => ?_
    rw [List.mem_append, hleft]
    by_cases hi : i ∈ taken
    · simp [hi, htaken i hi]
    · simp [hi]
  have hsplit : s.predicatesAt (taken ++ left) = s.predicatesAt taken ++ s.predicatesAt left :=
    List.filterMap_append
  rw [untaken_eq_predicatesAt, untaken_eq_predicatesAt, predicatesAt_markTaken, ← hsplit]
  exact hperm.filterMap _

/-! ## Sessions and their logs

The tie between a session and its log is kept by every call that goes through. A registration
appends one slot and one entry; `Mirrors.extend` says what has to hold of the two, and each of the
two kinds of call only checks that. The bound on the slots is the one of their ids: past 2 ^ 32
slots an id would name an older slot. -/

/-- The id given for a place names that place. -/
theorem slot_of_idAt {i : Nat} {c : ConditionId} (hi : i < 2 ^ 32) (h : c = s.idAt i) :
    c.slot = i := by
  rw [h, slot_idAt s hi]

/-- An id of the session is the one that its place is given. -/
theorem eq_idAt_slot {c : ConditionId} (h : c.builder = s.id) : c = s.idAt c.slot := by
  rcases c with ⟨_, index⟩
  simp only at h
  rw [idAt, ← h]
  simp [ConditionId.slot]

namespace Claimable

variable {ids : List ConditionId}

/-- Ids that can be combined name slots of the session. -/
theorem lt_length (h : s.Claimable ids) {c : ConditionId} (hc : c ∈ ids) :
    c.slot < s.slots.length := by
  obtain ⟨x, hx, -⟩ := h.untaken c hc
  exact (List.getElem?_eq_some_iff.mp hx).1

/-- The places that such ids name, given ids again, are the ids. -/
theorem map_idAt_slot (h : s.Claimable ids) : (ids.map ConditionId.slot).map s.idAt = ids := by
  rw [List.map_map]
  have hback : ∀ c ∈ ids, (s.idAt ∘ ConditionId.slot) c = c :=
    fun c hc => (eq_idAt_slot (h.own c hc)).symm
  exact (List.map_congr_left hback).trans (List.map_id' _)

/-- A place is among those that the ids name if its own id is among the ids. -/
theorem mem_slots_iff {i : Nat} (h : s.Claimable ids) (hi : i < 2 ^ 32) :
    i ∈ ids.map ConditionId.slot ↔ s.idAt i ∈ ids := by
  constructor
  · intro hmem
    obtain ⟨c, hc, rfl⟩ := List.mem_map.mp hmem
    exact eq_idAt_slot (h.own c hc) ▸ hc
  · intro hmem
    exact List.mem_map.mpr ⟨_, hmem, slot_idAt s hi⟩

end Claimable

/-- The session holds what the log says that went through in it. -/
structure Mirrors (s : Session) (log : Log) : Prop where
  /-- Every registration has a slot of its own, in order. -/
  ids : log.map (·.id) = (List.range s.slots.length).map s.idAt
  /-- Only slots of the session are ever taken. -/
  known : ∀ {c}, log.Taken c → ∃ i < s.slots.length, c = s.idAt i
  taken : ∀ {i x}, s.slots[i]? = some x → (x.taken = true ↔ log.Taken (s.idAt i))
  built : ∀ {i x}, s.slots[i]? = some x → log.Built s.model (s.idAt i) x.predicate
  leaves : (s.untaken.flatMap Predicate.leaves).Perm (log.filterMap (·.leaf? s.model))

namespace Mirrors

variable {s' : Session} {log : Log} {c : ConditionId}

theorem new (id : UInt64) (model : EntityModel) : (Session.new id model).Mirrors [] where
  ids := rfl
  known := fun ⟨_, hmem, _⟩ => absurd hmem List.not_mem_nil
  taken := fun h => nomatch h
  built := fun h => nomatch h
  leaves := .nil

/-- The log has as many entries as the session has slots. -/
theorem length_eq (h : s.Mirrors log) : log.length = s.slots.length := by
  simpa using congrArg List.length h.ids

/-- A registration that goes through marks slots of the session and appends one. -/
theorem extend {slots : List Slot} {p : Predicate} {entry : Registered} (h : s.Mirrors log)
    (hroom : s.slots.length < 2 ^ 32) (hlength : slots.length = s.slots.length)
    (hid : entry.id = s.idAt s.slots.length)
    (hknown : ∀ c ∈ entry.takes, ∃ i < s.slots.length, c = s.idAt i)
    (htaken : ∀ {i x}, slots[i]? = some x →
      (x.taken = true ↔ log.Taken (s.idAt i) ∨ s.idAt i ∈ entry.takes))
    (hbuilt : ∀ {i x}, slots[i]? = some x → log.Built s.model (s.idAt i) x.predicate)
    (hnew : Log.Built s.model (log ++ [entry]) entry.id p)
    (hleaves : ((Slot.roots slots ++ [p]).flatMap Predicate.leaves).Perm
      ((log ++ [entry]).filterMap (·.leaf? s.model))) :
    Mirrors { s with slots := slots ++ [⟨p, false⟩] } (log ++ [entry]) := by
  have hknown' : ∀ {c}, Log.Taken (log ++ [entry]) c → ∃ i < s.slots.length, c = s.idAt i := by
    intro c hc
    exact (Log.taken_append.mp hc).elim h.known (hknown c)
  -- what is in a slot is either what was there before or the new predicate
  have hslot : ∀ {i x}, (slots ++ [⟨p, false⟩])[i]? = some x →
      slots[i]? = some x ∨ i = s.slots.length ∧ x = ⟨p, false⟩ := by
    intro i x hx
    rcases Nat.lt_or_ge i slots.length with hlt | hge
    · rw [List.getElem?_append_left hlt] at hx
      exact .inl hx
    · rw [List.getElem?_append_right hge, List.getElem?_singleton] at hx
      split at hx
      · exact .inr ⟨by omega, (Option.some.inj hx).symm⟩
      · cases hx
  constructor
  · -- the new id is the one of the slot that is appended
    show _ = (List.range (slots ++ [(⟨p, false⟩ : Slot)]).length).map s.idAt
    rw [List.length_append, hlength, List.map_append, h.ids]
    simp [List.range_succ, hid]
  · intro c hc
    obtain ⟨i, hi, heq⟩ := hknown' hc
    exact ⟨i, by rw [List.length_append]; omega, heq⟩
  · intro i x hx
    rcases hslot hx with hx | ⟨rfl, rfl⟩
    · exact (htaken hx).trans Log.taken_append.symm
    · -- the new id is none that could have been taken
      refine ⟨fun hfalse => (Bool.false_ne_true hfalse).elim, fun hmem => ?_⟩
      obtain ⟨i, hi, heq⟩ := hknown' hmem
      have hsame : (s.idAt s.slots.length).slot = i := slot_of_idAt (by omega) heq
      rw [slot_idAt s hroom] at hsame
      omega
  · intro i x hx
    rcases hslot hx with hx | ⟨rfl, rfl⟩
    · -- a tree that was there is a tree in a longer log
      exact (hbuilt hx).append entry
    · exact hid ▸ hnew
  · show ((Slot.roots (slots ++ [⟨p, false⟩])).flatMap Predicate.leaves).Perm _
    rw [Slot.roots_append]
    exact hleaves

/-- A primitive that goes through enters its comparison. -/
theorem register {primitive : Primitive} (h : s.Mirrors log) (hroom : s.slots.length < 2 ^ 32)
    (hs : (Session.register primitive).run s = (.ok c, s')) :
    s'.Mirrors (log ++ [.leaf c primitive.comparison]) := by
  rw [run_register] at hs
  generalize primitive.comparison = leaf at hs ⊢
  obtain ⟨p, hp, happend⟩ := enter_eq_ok_iff.mp hs
  obtain ⟨hc, rfl⟩ := Prod.mk.inj happend
  -- a comparison takes nothing, so the marks stay as they are
  have htaken : ∀ {i x}, s.slots[i]? = some x →
      (x.taken = true ↔ log.Taken (s.idAt i) ∨ s.idAt i ∈ (Registered.leaf c leaf).takes) := by
    intro i x hx
    simpa [Registered.takes] using h.taken hx
  refine h.extend hroom rfl hc (fun _ hmem => absurd hmem List.not_mem_nil) htaken h.built
    (.leaf (List.mem_append_right _ List.mem_cons_self) hp) ?_
  -- the predicate of a comparison is a leaf
  have hleaves : p.leaves = [p] := by
    obtain ⟨_, -, -, rfl⟩ := Comparison.resolve_eq_ok_iff.mp hp
    rfl
  have hentry : [Registered.leaf c leaf].filterMap (·.leaf? s.model) = [p] := by
    simp [Registered.leaf?, hp, Except.toOption]
  rw [List.flatMap_append, List.filterMap_append, List.flatMap_singleton, hleaves, hentry]
  exact h.leaves.append_right [p]

/-- The predicates in some slots are the trees of their ids. -/
theorem built_predicatesAt (h : s.Mirrors log) {is : List Nat}
    (his : ∀ i ∈ is, i < s.slots.length) :
    List.Forall₂ (log.Built s.model) (is.map s.idAt) (s.predicatesAt is) := by
  induction is with
  | nil => exact .nil
  | cons i rest ih =>
    obtain ⟨hi, hrest⟩ := List.forall_mem_cons.mp his
    have hx : s.slots[i]? = some s.slots[i] := List.getElem?_eq_getElem hi
    rw [List.map_cons, predicatesAt, List.filterMap_cons_some (by rw [hx]; rfl)]
    exact .cons (h.built hx) (ih hrest)

/-- The predicates that a combination takes are the trees of its ids. -/
theorem built_claimed {ids : List ConditionId} (h : s.Mirrors log) (hids : s.Claimable ids) :
    List.Forall₂ (log.Built s.model) ids (s.predicatesAt (ids.map ConditionId.slot)) := by
  have hbuilt := h.built_predicatesAt (List.forall_mem_map.mpr fun _ => hids.lt_length)
  rwa [hids.map_idAt_slot] at hbuilt

/-- The new tree has the comparisons of those that it takes, and the log has no new one. -/
theorem leaves_combine {j : Junction} {ids : List ConditionId} (h : s.Mirrors log)
    (hids : s.Claimable ids) :
    ((Slot.roots (s.markTaken (ids.map ConditionId.slot)).slots ++
        [Predicate.join j (s.predicatesAt (ids.map ConditionId.slot))]).flatMap
          Predicate.leaves).Perm
      ((log ++ [Registered.node c j ids]).filterMap (·.leaf? s.model)) := by
  have hjoin : (Predicate.join j (s.predicatesAt (ids.map ConditionId.slot))).leaves =
      (s.predicatesAt (ids.map ConditionId.slot)).flatMap Predicate.leaves := by
    rw [Predicate.leaves, Predicate.leavesList_eq_flatMap]
  have hsame : (log ++ [Registered.node c j ids]).filterMap (·.leaf? s.model) =
      log.filterMap (·.leaf? s.model) := by
    simp [Registered.leaf?]
  have hperm := (List.perm_append_comm.trans (untaken_perm hids).symm).flatMap_right
    Predicate.leaves
  rw [List.flatMap_append, List.flatMap_singleton, hjoin, ← List.flatMap_append, hsame]
  exact hperm.trans h.leaves

/-- Ids that are combined have been trees, and become one. -/
theorem combine {j : Junction} {ids : List ConditionId} (h : s.Mirrors log)
    (hroom : s.slots.length < 2 ^ 32) (hs : (Session.combine j ids).run s = (.ok c, s')) :
    s'.Mirrors (log ++ [.node c j ids]) := by
  obtain ⟨hids, heq⟩ := combine_eq_ok_iff.mp hs
  obtain ⟨hc, rfl⟩ := Prod.mk.inj heq
  have hlength : (s.markTaken (ids.map ConditionId.slot)).slots.length = s.slots.length := by
    simp [markTaken]
  have hid : c = s.idAt s.slots.length := by
    rw [hc, idAt, hlength]
    rfl
  have hslot : ∀ {i x}, (s.markTaken (ids.map ConditionId.slot)).slots[i]? = some x →
      ∃ y, s.slots[i]? = some y ∧ x = if i ∈ ids.map ConditionId.slot then y.take else y := by
    intro i x hx
    rw [getElem?_markTaken] at hx
    obtain ⟨y, hy, heq⟩ := Option.map_eq_some_iff.mp hx
    exact ⟨y, hy, heq.symm⟩
  -- what is left is about single slots, each of which is marked or as it was
  refine h.extend hroom hlength hid
    (fun d hd => ⟨_, hids.lt_length hd, eq_idAt_slot (hids.own d hd)⟩) ?_ ?_ ?_
    (h.leaves_combine hids)
  · -- a slot is taken if it was before or is now
    intro i x hx
    obtain ⟨y, hy, rfl⟩ := hslot hx
    have hi : i < 2 ^ 32 := Nat.lt_trans (List.getElem?_eq_some_iff.mp hy).1 hroom
    show _ ↔ _ ∨ s.idAt i ∈ ids
    rw [← h.taken hy, ← hids.mem_slots_iff hi]
    by_cases hnow : i ∈ ids.map ConditionId.slot <;> simp [hnow]
  · -- taking a slot does not change what is in it
    intro i x hx
    obtain ⟨y, hy, rfl⟩ := hslot hx
    have hpredicate :
        (if i ∈ ids.map ConditionId.slot then y.take else y).predicate = y.predicate := by
      split <;> rfl
    exact hpredicate ▸ h.built hy
  · refine Log.built_node (List.mem_append_right _ List.mem_cons_self) ?_
    exact (h.built_claimed hids).imp fun _ _ hbuilt => hbuilt.append _

/-- The untaken predicates are the trees of the ids that stand, in the same order. -/
theorem untaken (h : s.Mirrors log) :
    List.Forall₂ (log.Built s.model) log.standing s.untaken := by
  have hsame : ∀ x ∈ s.slots.zipIdx 0,
      (!x.1.taken) = decide (¬ log.Taken (s.idAt x.2)) := by
    intro x hx
    obtain ⟨-, hslot⟩ := List.mem_zipIdx_iff_le_and_getElem?_sub.mp hx
    have htaken := h.taken hslot
    cases hx : x.1.taken <;> simp_all
  -- a slot is marked exactly if its id was taken, so both lists are filtered alike
  have hroots : Slot.rootsFrom 0 s.slots =
      (List.range s.slots.length).filter fun i => ¬ log.Taken (s.idAt i) := by
    rw [Slot.rootsFrom, List.filter_congr hsame, List.range_eq_range']
    rw [← List.zipIdx_map_snd 0 s.slots, List.filter_map]
    rfl
  have hstanding : log.standing = (Slot.rootsFrom 0 s.slots).map s.idAt := by
    rw [Log.standing, h.ids, List.filter_map, hroots]
    rfl
  -- so the conditions that stand are the ids of the untaken slots, in order
  rw [hstanding, untaken_eq_predicatesAt]
  refine h.built_predicatesAt fun i hi => ?_
  obtain ⟨x, hx, -⟩ := mem_untaken_slots.mp hi
  exact (List.getElem?_eq_some_iff.mp hx).1

/-- No two registrations share an id. -/
theorem nodup_ids (h : s.Mirrors log) (hroom : s.slots.length ≤ 2 ^ 32) :
    (log.map (·.id)).Nodup := by
  rw [h.ids]
  refine List.nodup_range.map_on fun i hi k hk heq => ?_
  have hslot : (s.idAt i).slot = k :=
    slot_of_idAt (Nat.lt_of_lt_of_le (List.mem_range.mp hk) hroom) heq
  rwa [slot_idAt s (Nat.lt_of_lt_of_le (List.mem_range.mp hi) hroom)] at hslot

end Mirrors

end Session

end EntityQuery
