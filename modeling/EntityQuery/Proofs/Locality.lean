import EntityQuery.Proofs.Acceptance
import EntityQuery.Proofs.Forwarding
import EntityQuery.Proofs.PostOrder

/-!
# Registering a condition in a session in use

A session that is in use holds slots already when a condition is registered in it. The walk over the
condition appends slots behind them, one for each place that it gets past, in post-order, and
touches nothing else. If it gets past the root, the root's slot is the only new one that is not
taken. If it stops at a comparison, whatever still waits for a junction above the comparison is not
taken (`Memory.registerIn_stays_local`).

* `Condition.Occupied` says which slots hold what stands at some places, and which of them are
  untaken.
* `Condition.occupied_of_resolve` and `Condition.occupied_of_refused` say this of the slots that
  registering an accepted and a refused condition appends.
-/

namespace EntityQuery

namespace Condition

/-- The slots hold what stands at the places, one by one, and those of the free places are the
untaken ones. -/
def Occupied (m : EntityModel) (c : Condition) (free : Place → Prop) :
    List Place → List Slot → Prop :=
  List.Forall₂ fun p x =>
    (∃ d, c.at? p = some d ∧ d.resolve m = .ok x.predicate) ∧ (x.taken = false ↔ free p)

variable {m : EntityModel} {c : Condition} {children cs : List Condition} {j : Junction} {i : Nat}

namespace Occupied

variable {free free' : Place → Prop} {ps qs : List Place} {xs ys : List Slot}

/-- What occupies two lists of slots in turn occupies both. -/
theorem append (h : c.Occupied m free ps xs) (h' : c.Occupied m free qs ys) :
    c.Occupied m free (ps ++ qs) (xs ++ ys) :=
  List.rel_append h h'

/-- What is in the slots of a child is in slots of the junction. -/
theorem within (h : c.Occupied m free ps xs) (hc : children[i]? = some c)
    (hfree : ∀ p ∈ ps, free' (i :: p) ↔ free p) (j : Junction) :
    (join j children).Occupied m free' (ps.map (i :: ·)) xs := by
  rw [Occupied, List.forall₂_map_left_iff]
  refine ((List.forall₂_and_left _ _).mpr ⟨hfree, h⟩).imp ?_
  rintro p x ⟨hfree, ⟨d, hd, hx⟩, htaken⟩
  exact ⟨⟨d, (at?_cons hc j p).trans hd, hx⟩, htaken.trans hfree.symm⟩

/-- Taking all of the slots leaves what is in them, and no place free. -/
theorem take (h : c.Occupied m free ps xs) (hfree : ∀ p ∈ ps, ¬ free' p) :
    c.Occupied m free' ps (xs.map Slot.take) := by
  rw [Occupied, List.forall₂_map_right_iff]
  refine ((List.forall₂_and_left _ _).mpr ⟨hfree, h⟩).imp ?_
  rintro p x ⟨hfree, hx, -⟩
  exact ⟨hx, by simp [hfree]⟩

end Occupied

/-! ## Accepted conditions

Each child fills slots of its own, and only its root is untaken. The junction takes these roots and
appends a slot for itself, which is then the only untaken one. The places of the children are found
again below the index of the child. -/

/-- The slots of accepted children, from the child with the index `i` on. -/
theorem occupied_list {free : Place → Prop} {ps : List Predicate}
    (hcs : ∀ c ∈ cs, ∀ p, c.resolve m = .ok p → c.Occupied m (· = []) c.places (c.slots m))
    (hat : ∀ k c, cs[k]? = some c → children[i + k]? = some c)
    (hfree : ∀ k < cs.length, ∀ p, free ((i + k) :: p) ↔ p = [])
    (h : resolveList m cs = .ok ps) :
    (join j children).Occupied m free (placesFrom i cs) (slotsList m cs) := by
  have heach := resolveList_eq_ok_iff.mp h
  clear h
  induction heach generalizing i with
  | nil => exact .nil
  | @cons c p rest ps hp _ ih =>
    obtain ⟨hc, hrest⟩ := List.forall_mem_cons.mp hcs
    rw [placesFrom, slotsList, hp]
    refine ((hc p hp).within (hat 0 c rfl) (fun q _ => hfree 0 (by simp) q) j).append ?_
    -- the index of a child that is `k` further on
    have hindex : ∀ k, i + 1 + k = i + (k + 1) := by omega
    refine ih hrest (fun k d hd => ?_) fun k hk q => ?_
    · rw [hindex]
      exact hat (k + 1) d hd
    · rw [hindex]
      exact hfree (k + 1) (Nat.succ_lt_succ hk) q

/-- An accepted condition occupies a slot for each of its places. Only the root's is untaken. -/
theorem occupied_of_resolve {p : Predicate} (h : c.resolve m = .ok p) :
    c.Occupied m (· = []) c.places (c.slots m) := by
  induction c generalizing p with
  | compare c =>
    have hp : c.resolve m = .ok p := h
    rw [places, slots, hp]
    exact .cons ⟨⟨_, rfl, h⟩, by simp⟩ .nil
  | join j children ih =>
    obtain ⟨ps, hps, rfl⟩ := resolve_join_eq_ok_iff.mp h
    -- of the children's slots only those of the children themselves are there to be taken
    have hchildren : (join j children).Occupied m (·.length = 1) (placesFrom 0 children)
        (slotsList m children) :=
      occupied_list (fun c hc _ hp => ih c hc hp) (fun k c hc => by rwa [Nat.zero_add])
        (fun k _ p => by simp) hps
    rw [places, slots, hps]
    refine (hchildren.take fun p hp => ?_).append (.cons ⟨⟨_, rfl, h⟩, by simp⟩ .nil)
    obtain ⟨k, d, q, -, -, rfl⟩ := mem_placesFrom_iff.mp hp
    exact List.cons_ne_nil _ _

/-- An accepted condition fills as many slots as it has comparisons and junctions. -/
theorem length_slots_of_resolve {p : Predicate} (h : c.resolve m = .ok p) :
    (c.slots m).length = c.size :=
  (List.Forall₂.length_eq (occupied_of_resolve h)).symm.trans c.length_places

/-! ## Refused conditions

The walk stops at the first comparison that is refused. The children before it have been walked to
the end, so each of them left its root untaken; the child that it is in left what the walk placed of
it. All of these are what hangs above the comparison. -/

/-- The slots of some conditions, the first of which to be refused is followed by others. -/
theorem slotsList_of_refused {before after : List Condition} {ps : List Predicate} {err : Error}
    (hps : resolveList m before = .ok ps) (hc : c.resolve m = .error err) :
    slotsList m (before ++ c :: after) = slotsList m before ++ c.slots m := by
  have heach := resolveList_eq_ok_iff.mp hps
  clear hps
  induction heach with
  | nil => simp [slotsList, hc]
  | cons hp _ ih =>
    rw [List.cons_append, slotsList, slotsList, hp]
    simp only [ih, List.append_assoc]

/-- A refused condition occupies slots for the places before the comparison that it is refused for.
Untaken are those that wait for a junction above this comparison. -/
theorem occupied_of_refused {err : Error} (h : c.resolve m = .error err) :
    ∃ before leaf after op, c.places = before ++ leaf :: after ∧ c.at? leaf = some (compare op) ∧
      op.resolve m = .error err ∧ c.Occupied m (·.HangsAbove leaf) before (c.slots m) := by
  induction c with
  | compare op =>
    have hop : op.resolve m = .error err := h
    refine ⟨[], [], [], op, rfl, rfl, hop, ?_⟩
    rw [slots, hop]
    exact .nil
  | join j children ih =>
    have hchildren := resolve_join_eq_error_iff.mp h
    obtain ⟨done, d, rest, ps, rfl, hps, hd⟩ := exists_refused_child hchildren
    obtain ⟨before, leaf, after, op, hplaces, hleaf, hop, hoccupied⟩ :=
      ih d (List.mem_append_right _ List.mem_cons_self) hd
    have hat : (done ++ d :: rest)[done.length]? = some d := by simp
    refine ⟨placesFrom 0 done ++ before.map (done.length :: ·), done.length :: leaf,
      after.map (done.length :: ·) ++ (placesFrom (done.length + 1) rest ++ [[]]), op, ?_,
      (at?_cons hat j leaf).trans hleaf, hop, ?_⟩
    · simp [places, placesFrom_append, placesFrom, hplaces]
    rw [slots, hchildren, slotsList_of_refused hps hd]
    -- the children before the refused one and the slots inside it are free for different reasons,
    -- so they are put together here
    refine .append (occupied_list (fun c _ _ hp => occupied_of_resolve hp) ?_ ?_ hps)
      (hoccupied.within hat (fun p hp => ?_) j)
    · intro k c hc
      rw [Nat.zero_add, List.getElem?_append_left (List.getElem?_eq_some_iff.mp hc).1, hc]
    · -- the children before the refused one are each complete
      intro k hk p
      rw [Nat.zero_add]
      exact Place.hangsAbove_apart_iff (Nat.ne_of_lt hk)
    · exact Place.hangsAbove_within_iff (before_of_places_eq hplaces hp).ne_nil

end Condition

/-! ## Sessions in use

A session that is in use holds slots already. Nothing that was there is looked at, since the walk
only ever names ids that it was given, and compiling the session conjoins what is left of the
condition with what was untaken before. -/

/-- A record satisfies a conjunction if it satisfies all that is conjoined. -/
theorem Predicate.holds_conjoin (ps : List Predicate) (r : Record) :
    (conjoin ps).holds r = true ↔ ∀ p ∈ ps, p.holds r = true := by
  have hall : (join .all ps).holds r = true ↔ ∀ p ∈ ps, p.holds r = true := by
    simp [holds, Junction.evaluate, Condition.holdsList_eq_map]
  rcases ps with _ | ⟨p, _ | ⟨q, rest⟩⟩
  · exact hall
  · simp [conjoin]
  · exact hall

namespace Memory

variable {m : Memory} {qb : QueryBuilder Builder} {s : Session}

/-- The walk over a condition appends slots to the session that is being built, and changes nothing
else in the store. -/
theorem run_registerIn_appends {before rest : List Session} (hm : m.sessions = before ++ s :: rest)
    (hbefore : ∀ x ∈ before, x.id ≠ qb.handle.id) (hid : s.id = qb.handle.id) {c : Condition}
    (hroom : s.slots.length + c.size ≤ 2 ^ 32) :
    let ran := (c.registerIn (QueryBuilder.registrar engine)).run (m, qb)
    ran.1 = (c.resolve s.model).map
        (fun _ => s.idAt (s.slots.length + (c.slots s.model).length - 1)) ∧
      ran.2.1 = { m with
        sessions := before ++ { s with slots := s.slots ++ c.slots s.model } :: rest } ∧
      ran.2.2.handle = qb.handle := by
  intro ran
  have hwalk := Condition.run_registerIn (s := s)
    (hid ▸ hosts_registrar m qb.handle before rest hbefore) c hroom
  rw [← hm] at hwalk
  obtain ⟨n, hran⟩ := QueryBuilder.forwards_registerIn (E := engine) c m qb
  rw [hwalk] at hran
  have hran : ran = _ := hran
  rw [hran]
  exact ⟨rfl, rfl, rfl⟩

/-- Compiling the session afterwards conjoins the condition with what the session held before. -/
theorem compile_appended {c : Condition} {p : Predicate} (hp : c.resolve s.model = .ok p)
    (hs : m.sessions.find? (·.id == qb.handle.id) =
      some { s with slots := s.slots ++ c.slots s.model }) :
    ∃ plan after, (QueryBuilder.compile engine).run (m, qb) = (.ok plan, after) ∧
      plan.predicate = .conjoin (s.untaken ++ [p]) ∧
      ∀ r, plan.predicate.holds r = true ↔ s.compiled.holds r = true ∧ c.Holds s.model r := by
  have huntaken : ({ s with slots := s.slots ++ c.slots s.model } : Session).untaken =
      s.untaken ++ [p] :=
    (Slot.roots_append _ _).trans (congrArg (s.untaken ++ ·) (Condition.roots_slots hp))
  obtain ⟨n, hran⟩ := QueryBuilder.forwards_compile (E := engine) m qb
  rw [run_compile_of_find? hs, Session.compiled, huntaken] at hran
  refine ⟨_, _, hran, rfl, fun r => ?_⟩
  show (Predicate.conjoin (s.untaken ++ [p])).holds r = true ↔ _
  rw [Session.compiled, Predicate.holds_conjoin, Predicate.holds_conjoin,
    List.forall_mem_append, List.forall_mem_singleton, Condition.holds_of_resolve hp]

/-- A condition that is registered with a session in use stays behind what the session held. If the
schema accepts it, each of its places is given a slot, in post-order, all of them taken but the
root's, whose id is the answer, and compiling the session conjoins it with what was there. If not,
only the places before the comparison that is refused are given slots, and those are untaken whose
parent is above this comparison. -/
theorem registerIn_stays_local (hs : m.sessions.find? (·.id == qb.handle.id) = some s)
    (c : Condition) (hroom : s.slots.length + c.size < 2 ^ 32) :
    let ran := (c.registerIn (QueryBuilder.registrar engine)).run (m, qb)
    ∃ before rest new, m.sessions = before ++ s :: rest ∧
      ran.2.1 = { m with sessions := before ++ { s with slots := s.slots ++ new } :: rest } ∧
      ((∃ id, ran.1 = .ok id) ↔ c.AcceptedBy s.model) ∧
      (∀ id, ran.1 = .ok id → ∃ p, ∃ earlier : List Slot, ∃ plan after,
        c.resolve s.model = .ok p ∧ new.length = c.size ∧
        c.Occupied s.model (· = []) c.places new ∧
        new = earlier.map Slot.take ++ [⟨p, false⟩] ∧
        id = s.idAt (s.slots.length + c.size - 1) ∧
        (QueryBuilder.compile engine).run ran.2 = (.ok plan, after) ∧
        plan.predicate = .conjoin (s.untaken ++ [p]) ∧
        ∀ r, plan.predicate.holds r = true ↔ s.compiled.holds r = true ∧ c.Holds s.model r) ∧
      ∀ err, ran.1 = .error err → ∃ leaf op, leaf ∈ c.places ∧
        c.at? leaf = some (.compare op) ∧ op.Refused s.model err ∧
        c.Occupied s.model (·.HangsAbove leaf) (c.placesBefore leaf) new := by
  intro ran
  obtain ⟨hown, before, rest, hm, hbefore⟩ := List.find?_eq_some_iff_append.mp hs
  have hid : s.id = qb.handle.id := by simpa using hown
  have hothers : ∀ x ∈ before, x.id ≠ qb.handle.id := by simpa using hbefore
  obtain ⟨houtcome, hstore, hhandle⟩ := run_registerIn_appends hm hothers hid (Nat.le_of_lt hroom)
  refine ⟨before, rest, c.slots s.model, hm, hstore, ?_, fun id hok => ?_, fun err herr => ?_⟩
  · rw [← Condition.exists_resolve_iff, houtcome]
    simp [map_eq_ok]
  · obtain ⟨p, hp, rfl⟩ := map_eq_ok.mp (houtcome.symm.trans hok)
    have hlength := Condition.length_slots_of_resolve hp
    obtain ⟨earlier, hearlier⟩ := Condition.slots_of_resolve hp
    -- the handle still leads to the session, which holds the new slots now
    have hfind : ran.2.1.sessions.find? (·.id == ran.2.2.handle.id) =
        some { s with slots := s.slots ++ c.slots s.model } := by
      rw [hstore, hhandle]
      exact List.find?_eq_some_iff_append.mpr ⟨hown, before, rest, rfl, hbefore⟩
    obtain ⟨plan, after, hcompiled⟩ := compile_appended hp hfind
    exact ⟨p, earlier, plan, after, hp, hlength, Condition.occupied_of_resolve hp, hearlier,
      by rw [hlength], hcompiled⟩
  · -- a refused walk leaves slots only for the places before the comparison
    have hrefused := map_eq_error.mp (houtcome.symm.trans herr)
    obtain ⟨done, leaf, todo, op, hplaces, hleaf, hop, hoccupied⟩ :=
      Condition.occupied_of_refused hrefused
    refine ⟨leaf, op, Condition.mem_places_iff.mpr ⟨_, hleaf⟩, hleaf,
      Comparison.refused_of_resolve hop, ?_⟩
    rwa [Condition.placesBefore_eq hplaces]

/-- A session holds a junction already, and what the junction took. One condition goes through. Of
another one a comparison is refused while a junction and a comparison wait before it. -/
theorem registerIn_stays_local_people :
    let people : EntityModel := (EntityModel.new ⟨7⟩ "Person").declare ⟨3⟩ "age" (.integer .uint8)
    let calls : Action Memory ConditionId := do
      let b ← engine.newBuilder ⟨7⟩
      let id ← (engine.registrar b).register (.notNull ⟨3⟩)
      (engine.registrar b).combine .any [id]
    let m := (calls.run ((Memory.new none).register people)).2
    let qb : QueryBuilder Builder := ⟨⟨7⟩, ⟨1, ⟨7⟩⟩, 2⟩
    let known : Predicate := .compare ⟨3⟩ "age" (.null true)
    let s : Session := ⟨1, people, [⟨known, true⟩, ⟨.join .any [known], false⟩]⟩
    let old : Condition := .any [.compare ⟨⟨3⟩, .intGreater 40⟩]
    let refused : Condition := .all [old, .any [.compare ⟨⟨3⟩, .isNull⟩, .compare ⟨⟨9⟩, .isNull⟩]]
    let ran := (old.registerIn (QueryBuilder.registrar engine)).run (m, qb)
    let stopped := (refused.registerIn (QueryBuilder.registrar engine)).run (m, qb)
    (∃ p plan after, old.resolve people = .ok p ∧
      (QueryBuilder.compile engine).run ran.2 = (.ok plan, after) ∧
      plan.predicate = .conjoin [.join .any [known], p]) ∧
    ∃ before rest new leaf op, stopped.2.1 = { m with
        sessions := before ++ { s with slots := s.slots ++ new } :: rest } ∧
      refused.at? leaf = some (.compare op) ∧ op.Refused people (.unknownProperty ⟨7⟩ ⟨9⟩) ∧
      refused.Occupied people (·.HangsAbove leaf) (refused.placesBefore leaf) new := by
  intro people calls m qb known s old refused ran stopped
  have hs : m.sessions.find? (·.id == qb.handle.id) = some s := rfl
  obtain ⟨_, _, _, -, -, -, hfine, -⟩ := registerIn_stays_local hs old (by decide)
  obtain ⟨before, rest, new, -, hstore, -, -, hstops⟩ :=
    registerIn_stays_local hs refused (by decide)
  obtain ⟨p, _, plan, after, hp, -, -, -, -, hcompile, hplan, -⟩ := hfine _ rfl
  obtain ⟨leaf, op, -, hleaf, hop, hoccupied⟩ := hstops _ rfl
  exact ⟨⟨p, plan, after, hp, hcompile, hplan⟩,
    before, rest, new, leaf, op, hstore, hleaf, hop, hoccupied⟩

end Memory

end EntityQuery
