import EntityQuery.Engine
import EntityQuery.Proofs.Meaning
import EntityQuery.Proofs.Session

/-!
# Registering a condition fills slots

Registering a condition with a session in use appends slots and touches none that were there before.
`Condition.slots` gives the appended slots, up to the first comparison that the schema refuses.

* `Session.combine_roots` says that a combination can take all untaken slots of a run of new ones.
* `Condition.slots_of_resolve` says that an accepted condition leaves one untaken slot, the last.
* `Condition.run_registerIn` says that the walk fills exactly the slots of `Condition.slots`, for
  any registrar that keeps its session somewhere in a larger state (`Registrar.Hosts`).
-/

namespace EntityQuery

namespace Slot

/-- The predicates of the untaken slots, in the order of the slots. -/
def roots (slots : List Slot) : List Predicate :=
  (slots.filter (!·.taken)).map (·.predicate)

/-- The places of the untaken slots of a list, the first place being `base`. -/
def rootsFrom (base : Nat) (slots : List Slot) : List Nat :=
  ((slots.zipIdx base).filter (!·.1.taken)).map (·.2)

/-- A place is listed exactly if it is that of an untaken slot of the list. -/
theorem mem_rootsFrom {base i : Nat} {slots : List Slot} :
    i ∈ rootsFrom base slots ↔ base ≤ i ∧ ∃ x, slots[i - base]? = some x ∧ x.taken = false := by
  simp only [rootsFrom, List.mem_map, List.mem_filter, List.mem_zipIdx_iff_le_and_getElem?_sub,
    Bool.not_eq_true', Prod.exists]
  constructor
  · rintro ⟨x, _, ⟨⟨hle, hx⟩, hfree⟩, rfl⟩
    exact ⟨hle, x, hx, hfree⟩
  · rintro ⟨hle, x, hx, hfree⟩
    exact ⟨x, i, ⟨⟨hle, hx⟩, hfree⟩, rfl⟩

/-- No place is listed twice. -/
theorem nodup_rootsFrom (base : Nat) (slots : List Slot) : (rootsFrom base slots).Nodup := by
  have hsub : (rootsFrom base slots).Sublist ((slots.zipIdx base).map (·.2)) :=
    List.filter_sublist.map _
  rw [List.zipIdx_map_snd] at hsub
  exact hsub.nodup List.nodup_range'

/-- The places of two lists in a row, those of the second from the end of the first on. -/
theorem rootsFrom_append (base : Nat) (xs ys : List Slot) :
    rootsFrom base (xs ++ ys) = rootsFrom base xs ++ rootsFrom (base + xs.length) ys := by
  simp [rootsFrom, List.zipIdx_append]

theorem rootsFrom_map_take (base : Nat) (slots : List Slot) :
    rootsFrom base (slots.map take) = [] := by
  simp [rootsFrom, List.zipIdx_map, List.filter_map, Function.comp_def]

/-- What two lists of slots leave untaken is what each of them leaves. -/
theorem roots_append (xs ys : List Slot) : roots (xs ++ ys) = roots xs ++ roots ys := by
  simp [roots]

theorem roots_map_take (slots : List Slot) : roots (slots.map take) = [] := by
  simp [roots, List.filter_map, Function.comp_def]

end Slot

namespace Session

/-- The id that a session gives to its slot at a place. -/
def idAt (s : Session) (i : Nat) : ConditionId :=
  ⟨s.id, UInt32.ofNat i⟩

/-- An id names the place that it was given for, if the place fits the id's 32 bits. -/
theorem slot_idAt (s : Session) {i : Nat} (h : i < 2 ^ 32) : (s.idAt i).slot = i := by
  simp only [idAt, ConditionId.slot, UInt32.toNat_ofNat']
  exact Nat.mod_eq_of_lt h

/-! ## Combining the untaken slots of a run

The slots of a session are split into older ones and a run of new ones at the end. The untaken slots
of the run can be claimed together, claiming them takes the whole run and leaves the older slots
alone, and their predicates are those that the new junction joins. -/

section

variable {s : Session} {old new : List Slot}

/-- The ids of the untaken slots of the run can be claimed, and name their places. -/
theorem claimable_roots (hs : s.slots = old ++ new) (hroom : s.slots.length ≤ 2 ^ 32) :
    s.Claimable ((Slot.rootsFrom old.length new).map s.idAt) ∧
      ((Slot.rootsFrom old.length new).map s.idAt).map ConditionId.slot =
        Slot.rootsFrom old.length new := by
  have hslot : ∀ i ∈ Slot.rootsFrom old.length new,
      (s.idAt i).slot = i ∧ ∃ x, s.slots[i]? = some x ∧ x.taken = false := by
    intro i hi
    obtain ⟨hle, x, hx, hfree⟩ := Slot.mem_rootsFrom.mp hi
    have hlt : i < s.slots.length := by
      have := (List.getElem?_eq_some_iff.mp hx).1
      rw [hs, List.length_append]
      omega
    -- an index below 2 ^ 32 survives being an id
    refine ⟨s.slot_idAt (by omega), x, ?_, hfree⟩
    rw [hs, List.getElem?_append_right hle, hx]
  have hback : ((Slot.rootsFrom old.length new).map s.idAt).map ConditionId.slot =
      Slot.rootsFrom old.length new := by
    rw [List.map_map]
    exact (List.map_congr_left fun i hi => (hslot i hi).1).trans (List.map_id _)
  refine ⟨⟨?_, ?_, ?_⟩, hback⟩
  · simp [idAt]
  · simp only [List.forall_mem_map]
    intro i hi
    rw [(hslot i hi).1]
    exact (hslot i hi).2
  · rw [hback]
    exact Slot.nodup_rootsFrom _ _

/-- Claiming them takes the whole run: the rest of it was taken before. -/
theorem markTaken_roots (hs : s.slots = old ++ new) :
    (s.markTaken (Slot.rootsFrom old.length new)).slots = old ++ new.map Slot.take := by
  simp only [markTaken, hs]
  apply List.ext_getElem?
  intro i
  rw [List.getElem?_mapIdx]
  rcases Nat.lt_or_ge i old.length with hlt | hge
  · -- an older slot is not among the marked ones
    have hnot : i ∉ Slot.rootsFrom old.length new := by
      intro hmem
      have := (Slot.mem_rootsFrom.mp hmem).1
      omega
    rw [List.getElem?_append_left hlt, List.getElem?_append_left hlt]
    simp [hnot]
  · rw [List.getElem?_append_right hge, List.getElem?_append_right hge, List.getElem?_map]
    cases hx : new[i - old.length]? with
    | none => rfl
    | some x =>
      -- a new slot is marked unless it was taken before
      cases htaken : x.taken with
      | true => simp [Slot.take, ← htaken]
      | false =>
        have hmem : i ∈ Slot.rootsFrom old.length new :=
          Slot.mem_rootsFrom.mpr ⟨hge, x, hx, htaken⟩
        simp [hmem, Slot.take]

/-- The predicates at their places are those that the run leaves untaken. -/
theorem predicatesAt_roots (hs : s.slots = old ++ new) :
    s.predicatesAt (Slot.rootsFrom old.length new) = Slot.roots new := by
  have hget : ∀ p ∈ (new.zipIdx old.length).filter (!·.1.taken),
      s.slots[p.2]?.map (·.predicate) = some p.1.predicate := by
    intro p hp
    obtain ⟨hle, hx⟩ := List.mem_zipIdx_iff_le_and_getElem?_sub.mp (List.mem_filter.mp hp).1
    rw [hs, List.getElem?_append_right hle, hx, Option.map_some]
  -- the predicates do not depend on the places that the slots are numbered with
  have hfst : ((new.zipIdx old.length).filter (!·.1.taken)).map (·.1) = new.filter (!·.taken) := by
    have := List.filter_map (p := fun x : Slot => !x.taken) (f := Prod.fst)
      (l := new.zipIdx old.length)
    rw [List.zipIdx_map_fst] at this
    exact this.symm
  rw [predicatesAt, Slot.rootsFrom, List.filterMap_map, Slot.roots, ← hfst, List.map_map]
  exact List.filterMap_eq_map_iff_forall_eq_some.mpr hget

/-- All untaken slots of a run of slots at the end are combined into a new one. -/
theorem combine_roots (hs : s.slots = old ++ new) (hroom : s.slots.length ≤ 2 ^ 32)
    (j : Junction) :
    (combine j ((Slot.rootsFrom old.length new).map s.idAt)).run s =
      (.ok (s.idAt s.slots.length),
        { s with slots := old ++ new.map Slot.take ++ [⟨.join j (Slot.roots new), false⟩] }) := by
  obtain ⟨hids, hslots⟩ := claimable_roots hs hroom
  refine combine_eq_ok_iff.mpr ⟨hids, ?_⟩
  rw [hslots, append, markTaken_roots hs, predicatesAt_roots hs]
  simp [markTaken, idAt, hs]

end

/-- The session registers a comparison, and appends what it becomes. -/
def Registers (s : Session) (c : Comparison) (q : Predicate) : Prop :=
  (c.apply registrar).run s = (.ok (s.append q).1, (s.append q).2)

/-- No comparison is registered as two predicates. -/
theorem Registers.unique {s : Session} {c : Comparison} {q q' : Predicate} (h : s.Registers c q)
    (h' : s.Registers c q') : q = q' := by
  obtain ⟨hid, hs⟩ := Prod.mk.inj (h.symm.trans h')
  exact s.append_injective (Prod.ext (Except.ok.inj hid) hs)

/-- A session registers a comparison whose operator fits the kind that its property is declared
with. -/
theorem registers_of_fits (s : Session) {id : PropertyId} {op : Operator} {p : Property}
    (hp : s.model.property? id = some p) (hfits : op.Fits p.kind) :
    s.Registers ⟨id, op⟩ (.compare id p.name (op.test p.kind)) := by
  rw [Registers, run_apply, Comparison.resolve_eq_ok_iff.mpr ⟨p, hp, hfits, rfl⟩]
  rfl

end Session

/-! ## The slots of a condition

What a walk appends depends on the schema and the condition alone, not on the session that the walk
is made in. A refused comparison ends the list where it stands. What was placed before it stays
behind untaken, since the junctions above it are never asked for. -/

namespace Condition

mutual

/-- The slots that registering a condition appends, one for each comparison and junction that the
walk gets past, children first. A junction takes the slots of its children. -/
def slots (m : EntityModel) : Condition → List Slot
  | compare c =>
    match c.resolve m with
    | .ok p => [⟨p, false⟩]
    | .error _ => []
  | join j children =>
    match resolveList m children with
    | .ok ps => (slotsList m children).map Slot.take ++ [⟨.join j ps, false⟩]
    | .error _ => slotsList m children

/-- The slots that registering some conditions appends, up to the first that is refused. -/
def slotsList (m : EntityModel) : List Condition → List Slot
  | [] => []
  | c :: rest =>
    match c.resolve m with
    | .ok _ => c.slots m ++ slotsList m rest
    | .error _ => c.slots m

end

variable {m : EntityModel}

/-- An accepted condition leaves one untaken slot, the last. -/
theorem slots_of_resolve {c : Condition} {p : Predicate} (h : c.resolve m = .ok p) :
    ∃ before : List Slot, c.slots m = before.map Slot.take ++ [⟨p, false⟩] := by
  cases c with
  | compare c =>
    rw [resolve] at h
    exact ⟨[], by simp [slots, h]⟩
  | join j children =>
    obtain ⟨ps, hps, rfl⟩ := resolve_join_eq_ok_iff.mp h
    exact ⟨slotsList m children, by simp [slots, hps]⟩

/-- An accepted condition leaves its predicate and nothing else untaken. -/
theorem roots_slots {c : Condition} {p : Predicate} (h : c.resolve m = .ok p) :
    Slot.roots (c.slots m) = [p] := by
  obtain ⟨before, heq⟩ := slots_of_resolve h
  rw [heq, Slot.roots_append, Slot.roots_map_take]
  rfl

/-- An accepted condition leaves the place of its root, the last one. -/
theorem rootsFrom_slots {c : Condition} {p : Predicate} (h : c.resolve m = .ok p) (base : Nat) :
    Slot.rootsFrom base (c.slots m) = [base + (c.slots m).length - 1] := by
  obtain ⟨before, heq⟩ := slots_of_resolve h
  rw [heq, Slot.rootsFrom_append, Slot.rootsFrom_map_take]
  simp [Slot.rootsFrom]

/-- Accepted conditions in a row leave their predicates, in order. -/
theorem roots_slotsList {cs : List Condition} {ps : List Predicate}
    (h : resolveList m cs = .ok ps) : Slot.roots (slotsList m cs) = ps := by
  induction resolveList_eq_ok_iff.mp h with
  | nil => rfl
  | cons hp hps ih =>
    rw [slotsList, hp]
    show Slot.roots (_ ++ _) = _
    rw [Slot.roots_append, roots_slots hp, ih (resolveList_eq_ok_iff.mpr hps)]
    rfl

/-- Conditions in a row take no more slots than they have comparisons and junctions, if each of them
does. -/
theorem length_slotsList_le {cs : List Condition}
    (h : ∀ c ∈ cs, (c.slots m).length ≤ c.size) : (slotsList m cs).length ≤ sizeList cs := by
  induction cs with
  | nil => simp [slotsList]
  | cons c rest ih =>
    obtain ⟨hc, hrest⟩ := List.forall_mem_cons.mp h
    have := ih hrest
    rw [slotsList, sizeList]
    split
    · rw [List.length_append]
      omega
    · omega

/-- A condition takes no more slots than it has comparisons and junctions. -/
theorem length_slots_le (c : Condition) : (c.slots m).length ≤ c.size := by
  induction c with
  | compare c => rw [slots, size]; split <;> simp
  | join j children ih =>
    have := length_slotsList_le ih
    rw [slots, size]
    split
    · simpa using this
    · omega

end Condition

/-! ## The walk

A registrar works on a state that a session is kept in. The walk over a condition fills the slots of
the condition, and its outcome is the id of the last of them or the error of the leftmost comparison
that the schema refuses. -/

/-- The run of a session's call, in a larger state that the session is kept in. -/
def Session.hosted {τ α : Type} (host : Session → τ) (ran : Except Error α × Session) :
    Except Error α × τ :=
  (ran.1, host ran.2)

/-- The registrar's calls are the calls of a session of an id that is kept in a larger state. -/
structure Registrar.Hosts {τ : Type} (r : Registrar τ) (id : UInt64) (host : Session → τ) :
    Prop where
  register : ∀ s : Session, s.id = id → ∀ p,
    (r.register p).run (host s) = Session.hosted host ((Session.register p).run s)
  combine : ∀ s : Session, s.id = id → ∀ j ids,
    (r.combine j ids).run (host s) = Session.hosted host ((Session.combine j ids).run s)

namespace Condition

variable {τ : Type} {r : Registrar τ} {host : Session → τ} {s : Session}

/-- What registering the condition gives and leaves, whatever the session holds already. -/
def Fills (r : Registrar τ) (id : UInt64) (host : Session → τ) (c : Condition) : Prop :=
  ∀ s : Session, s.id = id → s.slots.length + c.size ≤ 2 ^ 32 →
    (c.registerIn r).run (host s) =
      ((c.resolve s.model).map fun _ => s.idAt (s.slots.length + (c.slots s.model).length - 1),
        host { s with slots := s.slots ++ c.slots s.model })

/-- Conditions in a row fill their slots one after the other. The ids are those of their roots. -/
theorem run_registerList {cs : List Condition} (h : ∀ c ∈ cs, c.Fills r s.id host)
    (hroom : s.slots.length + sizeList cs ≤ 2 ^ 32) :
    (registerList r cs).run (host s) =
      ((resolveList s.model cs).map fun _ =>
          (Slot.rootsFrom s.slots.length (slotsList s.model cs)).map s.idAt,
        host { s with slots := s.slots ++ slotsList s.model cs }) := by
  induction cs generalizing s with
  | nil =>
    rw [slotsList, List.append_nil]
    rfl
  | cons c rest ih =>
    obtain ⟨hc, hrest⟩ := List.forall_mem_cons.mp h
    rw [sizeList] at hroom
    have hsize : (c.slots s.model).length ≤ c.size := length_slots_le c
    rw [registerList, resolveList, slotsList, Action.run_bind, hc s rfl (by omega)]
    cases hp : c.resolve s.model with
    | error e => rfl
    | ok p =>
      -- the rest is registered in the session that the first condition leaves
      have hnext := ih (s := { s with slots := s.slots ++ c.slots s.model }) hrest
        (by rw [List.length_append]; omega)
      simp only [Except.map, Action.run_bind, hnext]
      cases resolveList s.model rest with
      | error e => simp [bind, Except.bind, List.append_assoc]
      | ok ps =>
        show (Except.ok (_ :: List.map _ _), host _) = (Except.ok (List.map s.idAt _), host _)
        rw [Slot.rootsFrom_append, rootsFrom_slots hp, List.append_assoc, List.length_append]
        rfl

/-- The walk over a condition fills the slots of the condition. -/
theorem run_registerIn (hr : r.Hosts s.id host) (c : Condition)
    (hroom : s.slots.length + c.size ≤ 2 ^ 32) :
    (c.registerIn r).run (host s) =
      ((c.resolve s.model).map fun _ => s.idAt (s.slots.length + (c.slots s.model).length - 1),
        host { s with slots := s.slots ++ c.slots s.model }) := by
  -- each node meets the session in another state, so the statement is over all sessions of the id
  suffices h : c.Fills r s.id host from h s rfl hroom
  clear hroom
  induction c with
  | compare c =>
    intro s' hid _
    rw [registerIn, Comparison.apply, hr.register s' hid, Session.run_register,
      Comparison.comparison_primitive, resolve, slots]
    cases c.resolve s'.model with
    | error e => simp [Session.hosted, Session.enter, Except.map]
    | ok p => simp [Session.hosted, Session.enter, Except.map, Session.append, Session.idAt]
  | join j children ih =>
    intro s' hid hroom
    rw [size] at hroom
    have hsize : (slotsList s'.model children).length ≤ sizeList children :=
      length_slotsList_le fun c _ => length_slots_le c
    have hchildren := run_registerList (s := s') (fun c hc => hid ▸ ih c hc) (by omega)
    rw [registerIn, Action.run_bind, hchildren, resolve, slots]
    cases hps : resolveList s'.model children with
    | error e => rfl
    | ok ps =>
      -- the junction takes what its children left untaken
      let filled : Session := { s' with slots := s'.slots ++ slotsList s'.model children }
      have hcombine := Session.combine_roots (s := filled) rfl
        (by rw [List.length_append]; omega) j
      rw [roots_slotsList hps] at hcombine
      have hrun := hr.combine filled hid j
        ((Slot.rootsFrom s'.slots.length (slotsList s'.model children)).map filled.idAt)
      rw [hcombine] at hrun
      refine hrun.trans ?_
      simp [Session.hosted, bind, Except.bind, pure, Except.pure, Except.map, Session.idAt, filled,
        List.append_assoc]

end Condition

end EntityQuery
