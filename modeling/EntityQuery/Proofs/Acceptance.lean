import EntityQuery.Proofs.Hosting
import EntityQuery.Proofs.Walk

/-!
# Which conditions can be built

A plan is made of exactly the conditions that the schema accepts, and any other condition is refused
with the error of its first comparison that the schema does not accept, from left to right
(`Memory.acquirePlan_decides`). Junctions are never to blame: a walk over a condition combines only
ids that it was just given.

* `Comparison.Refused` says which error a comparison gives.
* `Condition.exists_refused` finds the first comparison that is refused.
* `Spied.Shadows` relates an observed action to the action of the engine itself.
* `Memory.combines_succeed` says that no combination of a walk fails unless it is made to fail.
-/

namespace EntityQuery

/-! ## Refused comparisons

A comparison is checked in a fixed order: its operand first, then whether its property is declared,
and the kind last. Each error belongs to one of these checks, so what a comparison is refused for
says how far it got. -/

namespace Comparison

variable {m : EntityModel} {c : Comparison} {err : Error}

/-- Why a schema refuses a comparison. An operand that is no number is refused whatever its property
is, and only the kind of a declared property can be wrong. -/
inductive Refused (m : EntityModel) (c : Comparison) : Error → Prop where
  | noNumber (hnan : c.op.hasNaN = true) :
    Refused m c (.unsupported ("NaN operand for property " ++ c.property.text))
  | undeclared (hnan : c.op.hasNaN = false) (hp : m.property? c.property = none) :
    Refused m c (.unknownProperty m.id c.property)
  | mismatched {p : Property} {d : Demand} (hnan : c.op.hasNaN = false)
    (hp : m.property? c.property = some p) (hfits : ¬ c.op.Fits p.kind)
    (hd : c.op.demand? = some d) :
    Refused m c (.typeMismatch c.property d.expected p.kind.name)

/-- A comparison that is not resolved is refused for one of the three reasons. -/
theorem refused_of_resolve (h : c.resolve m = .error err) : c.Refused m err := by
  rw [resolve] at h
  cases hnan : c.op.hasNaN with
  | true =>
    rw [hnan, if_pos rfl] at h
    cases h
    exact .noNumber hnan
  | false =>
    rw [hnan, if_neg Bool.false_ne_true] at h
    cases hp : m.property? c.property with
    | none =>
      rw [hp] at h
      cases h
      exact .undeclared hnan hp
    | some p =>
      simp only [hp] at h
      split at h
      · cases h
      · -- a demand that the kind does not meet is left
        rename_i d hd
        cases h
        obtain ⟨hd, hrefuses⟩ := Option.filter_eq_some_iff.mp hd
        refine .mismatched hnan hp (fun hfits => ?_) hd
        have haccepts := ((Operator.fits_iff c.op p.kind).mp hfits).2 d hd
        rw [haccepts] at hrefuses
        cases hrefuses

/-- What is refused is not accepted. -/
theorem Refused.not_acceptedBy (h : c.Refused m err) : ¬ c.AcceptedBy m := by
  rintro ⟨p, hp, hfits⟩
  cases h with
  | noNumber hnan =>
    rw [((Operator.fits_iff c.op p.kind).mp hfits).1] at hnan
    cases hnan
  | undeclared _ hnone =>
    rw [hnone] at hp
    cases hp
  | mismatched _ hp' hmisfits =>
    -- the property is declared once, so the kind that is wrong is the one that fits
    obtain rfl := Option.some.inj (hp'.symm.trans hp)
    exact hmisfits hfits

/-- Nothing that is wrong with a comparison is reported as a failure of the session. -/
theorem Refused.ne_build (h : c.Refused m err) (reason : String) : err ≠ .build reason := by
  cases h <;> simp

end Comparison

namespace Condition

variable {m : EntityModel}

/-- A condition that becomes a predicate is accepted. -/
theorem accepted_of_resolve {c : Condition} {p : Predicate} (h : c.resolve m = .ok p) :
    c.AcceptedBy m :=
  exists_resolve_iff.mp ⟨p, h⟩

/-- A condition that a schema refuses is refused for its first comparison that is not accepted. -/
theorem exists_refused {c : Condition} {err : Error} (h : c.resolve m = .error err) :
    ∃ before leaf after, c.leaves = before ++ leaf :: after ∧ (∀ l ∈ before, l.AcceptedBy m) ∧
      leaf.Refused m err := by
  induction c with
  | compare c =>
    exact ⟨[], c, [], rfl, List.forall_mem_nil _, Comparison.refused_of_resolve h⟩
  | join j children ih =>
    -- the junction is refused for one of its children, the first that is
    obtain ⟨done, c, rest, ps, rfl, hps, hc⟩ :=
      exists_refused_child (resolve_join_eq_error_iff.mp h)
    obtain ⟨before, leaf, after, heq, hbefore, hleaf⟩ :=
      ih c (List.mem_append_right _ List.mem_cons_self) hc
    refine ⟨leavesList done ++ before, leaf, after ++ leavesList rest, ?_, ?_, hleaf⟩
    · simp [leaves, leavesList_append, leavesList, heq]
    · -- the children before the refused one are accepted as a whole
      refine List.forall_mem_append.mpr ⟨fun l hl => ?_, hbefore⟩
      obtain ⟨d, hd, hl⟩ := mem_leavesList.mp hl
      exact exists_resolve_iff.mp (exists_resolveList_iff.mp ⟨ps, hps⟩ d hd) l hl

end Condition

/-! ## Actions past a spy

The errors are known of the engine itself, and the combinations are seen through a spy. The two are
brought together by running an action past the spy and beside it: unless a call that is made to fail
ends it, the observed run does to the engine what the plain run does. -/

namespace Spied

variable {σ α β : Type} {E : Engine σ}

/-- The last call that was made is one that is made to fail. -/
def Injected (faults : List String) (s : Spied E) : Prop :=
  ∃ ev, s.events.getLast? = some ev ∧ ev.call.name ∈ faults

/-- What an observed action does to the engine is what another action does to it, unless a call that
is made to fail ends it. -/
def Shadows (act : Action (Spied E) α) (plain : Action σ α) : Prop :=
  ∀ s, (act.run s).2.faults = s.faults ∧
    ((act.run s).1 = (plain.run s.inner).1 ∧ (act.run s).2.inner = (plain.run s.inner).2 ∨
      (∃ err, (act.run s).1 = .error err) ∧ (act.run s).2.Injected s.faults)

theorem shadows_pure (a : α) : Shadows (E := E) (pure a) (pure a) :=
  fun _ => ⟨rfl, .inl ⟨rfl, rfl⟩⟩

theorem Shadows.bind {act : Action (Spied E) α} {plain : Action σ α}
    {next : α → Action (Spied E) β} {next' : α → Action σ β} (h : Shadows act plain)
    (hnext : ∀ a, Shadows (next a) (next' a)) : Shadows (act >>= next) (plain >>= next') := by
  intro s
  have hact := h s
  simp only [Action.run_bind]
  generalize act.run s = ran at hact ⊢
  obtain ⟨outcome, s'⟩ := ran
  obtain ⟨hfaults, ⟨rfl, hinner⟩ | ⟨⟨err, rfl⟩, hinjected⟩⟩ := hact
  · simp only at hfaults hinner ⊢
    -- the first action ended alike in both runs, so both stop there or both go on
    generalize plain.run s.inner = ran at hinner ⊢
    obtain ⟨_ | a, inner⟩ := ran
    · exact ⟨hfaults, .inl ⟨rfl, hinner⟩⟩
    · obtain rfl : s'.inner = inner := hinner
      exact hfaults ▸ hnext a s'
  · -- a call that is made to fail ended the first action, and with it the observed run
    exact ⟨hfaults, .inr ⟨⟨err, rfl⟩, hinjected⟩⟩

/-- A call that gives nothing back is made by the engine unless it is made to fail. -/
theorem shadows_call {c : Call E} (hc : c.released? = none) : Shadows (call c) c.perform := by
  intro s
  rw [run_call, outcomeOf_use hc]
  refine ⟨rfl, ?_⟩
  by_cases hfault : c.name ∈ s.faults
  · refine .inr ⟨⟨c.injected, by simp [hfault]⟩, _, List.getLast?_concat, hfault⟩
  · exact .inl (by simp [hfault])

/-- Registering some conditions shadows registering them with the engine. -/
theorem shadows_registerList {b : E.Builder} {cs : List Condition}
    (h : ∀ c ∈ cs, Shadows (c.registerIn (E.spied.registrar b)) (c.registerIn (E.registrar b))) :
    Shadows (Condition.registerList (E.spied.registrar b) cs)
      (Condition.registerList (E.registrar b) cs) := by
  induction cs with
  | nil => exact shadows_pure []
  | cons c rest ih =>
    obtain ⟨hc, hrest⟩ := List.forall_mem_cons.mp h
    exact hc.bind fun id => (ih hrest).bind fun ids => shadows_pure (id :: ids)

/-- Registering a condition shadows registering it with the engine. -/
theorem shadows_registerIn (b : E.Builder) (c : Condition) :
    Shadows (c.registerIn (E.spied.registrar b)) (c.registerIn (E.registrar b)) := by
  induction c with
  | compare c => exact shadows_call (c := .register b c.primitive) rfl
  | join j children ih =>
    exact (shadows_registerList ih).bind fun ids => shadows_call (c := .combine b j ids) rfl

end Spied

/-- What a call answered that is not made to fail is what the engine answered in some state. -/
theorem Follows.answered {σ : Type} {E : Engine σ} {s s' : Spied E} {evs : List (Event E)}
    (h : Follows s evs s') {ev : Event E} (hev : ev ∈ evs) (hfault : ev.call.name ∉ s.faults) :
    ∃ t, ev.outcome = (ev.call.perform.run t).1 := by
  induction h with
  | refl => cases hev
  | @call c s _ _ _ ih =>
    rcases List.mem_cons.mp hev with rfl | hev
    · refine ⟨s.inner, ?_⟩
      simp only [Spied.run_call, Spied.outcomeOf]
      rw [if_neg (by simpa using hfault)]
    · exact ih hev hfault

namespace Memory

/-! ## Combinations of a walk

That no combination fails is seen from its error. What a session refuses a combination for, it
refuses no comparison for; and if the last call of a walk failed, the walk ends with its error. So a
walk that ended with a combination would end with an error that the same walk does not end with on
the engine itself. -/

/-- If a call of any session fails for a reason of the session's own, so does the call in the store,
which has another such reason when there is no session. -/
theorem build_of_callFirst {α : Type} {id : UInt64} {act : Action Session α}
    (hact : ∀ s err, (act.run s).1 = .error err → ∃ reason, err = .build reason)
    {sessions : List Session} {err : Error} (h : (callFirst id act sessions).1 = .error err) :
    ∃ reason, err = .build reason := by
  induction sessions with
  | nil =>
    cases h
    exact ⟨_, rfl⟩
  | cons s rest ih =>
    rw [callFirst] at h
    split at h
    · exact hact s err h
    · exact ih h

/-- A combination that fails is reported as a failure of the session. -/
theorem build_of_combine {m : Memory} {b : Builder} {j : Junction} {ids : List ConditionId}
    {err : Error} (h : (((engine.registrar b).combine j ids).run m).1 = .error err) :
    ∃ reason, err = .build reason := by
  refine build_of_callFirst (fun s e he => ?_) h
  obtain ⟨r, rfl⟩ := Session.exists_refusal he
  exact ⟨r.message, rfl⟩

theorem opened_of_spied {s s' : Spied engine} {e : EntityId} {model : EntityModel} {b : Builder}
    (hmodel : s.inner.model e = .ok model)
    (hopen : (engine.spied.newBuilder e).run s = (.ok b, s')) :
    b = ⟨s.inner.nextBuilder, model.id⟩ ∧
      s'.inner = s.inner.opened (.new s.inner.nextBuilder model) ∧ s'.faults = s.faults := by
  have hshadows := Spied.shadows_call (c := .newBuilder e) rfl s
  rw [show (Spied.call (.newBuilder e)).run s = (.ok b, s') from hopen,
    show (Call.newBuilder e : Call engine).perform.run s.inner = _ from run_newBuilder hmodel]
    at hshadows
  obtain ⟨hfaults, ⟨hb, hinner⟩ | ⟨⟨err, herr⟩, -⟩⟩ := hshadows
  · exact ⟨Except.ok.inj hb, hinner, hfaults⟩
  · cases herr

/-- No combination of a walk in a fresh session fails unless it is made to fail. The session refuses
a combination with an error that the schema gives for no comparison, and the walk would end with
it. -/
theorem combines_succeed {s s' : Spied engine} {e : EntityId} {model : EntityModel} {b : Builder}
    {c : Condition} (hmodel : s.inner.model e = .ok model) (hsize : c.size ≤ 2 ^ 32)
    (hopen : (engine.spied.newBuilder e).run s = (.ok b, s')) :
    ∃ evs, Follows s' evs ((c.registerIn (engine.spied.registrar b)).run s').2 ∧
      ∀ ev ∈ evs, ∀ j ids, ev.call = .combine b j ids →
        ev.succeeded = true ∨ ev.call.name ∈ s.faults := by
  obtain ⟨rfl, hinner, hfaults⟩ := opened_of_spied hmodel hopen
  obtain ⟨evs, hfollows, hwalked⟩ := (notes_spied (E := engine) _).walked c s'
  refine ⟨evs, hfollows, fun ev hev j ids hcall => ?_⟩
  -- only the last call of a walk can have failed
  obtain ⟨before, last, rfl, hbefore, hasks⟩ := hwalked.last
  rcases List.mem_append.mp hev with hev | hlast
  · exact .inl (hbefore ev hev)
  obtain rfl := List.mem_singleton.mp hlast
  by_cases hfault : ev.call.name ∈ s.faults
  · exact .inr hfault
  refine .inl ?_
  rw [← hfaults] at hfault
  obtain ⟨t, hanswer⟩ := hfollows.answered hev hfault
  cases hasks with
  | register => cases hcall
  | combine j ids =>
    cases hran : ((c.registerIn (engine.spied.registrar _)).run s').1 with
    | ok id => rfl
    | error err =>
      exfalso
      obtain ⟨reason, rfl⟩ := build_of_combine (hanswer.symm.trans hran)
      have hshadows := Spied.shadows_registerIn (E := engine) ⟨s.inner.nextBuilder, model.id⟩ c s'
      obtain ⟨-, ⟨hsame, -⟩ | ⟨-, latest, hlatest, hinjected⟩⟩ := hshadows
      · -- the walk ends as it does with the engine itself, with what a comparison was refused for
        rw [hran, hinner, run_registerIn_opened s.inner model hsize] at hsame
        cases hp : c.resolve model with
        | ok p =>
          rw [hp] at hsame
          cases hsame
        | error err =>
          rw [hp] at hsame
          obtain rfl := Except.error.inj hsame
          obtain ⟨_, _, _, -, -, hrefused⟩ := Condition.exists_refused hp
          exact hrefused.ne_build reason rfl
      · -- the combination is the last call, which was not made to fail
        rw [hfollows.events_eq, ← List.append_assoc, List.getLast?_concat] at hlatest
        obtain rfl := Option.some.inj hlatest
        exact hfault hinjected

/-- A plan can be made of a condition exactly if the schema accepts every comparison of it.
Otherwise making the plan fails with what the first comparison from the left is refused for that is
not accepted. No combination fails that is not made to fail. -/
theorem acquirePlan_decides {m : Memory} {e : EntityId} {model : EntityModel} {c : Condition}
    (hmodel : m.model e = .ok model) (hsize : c.size < 2 ^ 32) :
    let outcome := ((Query.acquirePlan engine).run (m, ⟨e, c, none⟩)).1
    ((∃ plan, outcome = .ok plan) ↔ c.AcceptedBy model) ∧
      (¬ c.AcceptedBy model → ∃ before leaf after err, c.leaves = before ++ leaf :: after ∧
        (∀ l ∈ before, l.AcceptedBy model) ∧ ¬ leaf.AcceptedBy model ∧ leaf.Refused model err ∧
        outcome = .error err) ∧
      ∀ (s s' : Spied engine) (b : Builder), s.inner = m →
        (engine.spied.newBuilder e).run s = (.ok b, s') →
        ∃ evs, Follows s' evs ((c.registerIn (engine.spied.registrar b)).run s').2 ∧
          ∀ ev ∈ evs, ∀ j ids, ev.call = .combine b j ids →
            ev.succeeded = true ∨ ev.call.name ∈ s.faults := by
  intro outcome
  have houtcome : outcome = (c.resolve model).map (m.planOf model) := by
    show ((Query.acquirePlan engine).run (m, ⟨e, c, none⟩)).1 = _
    rw [Query.run_acquirePlan, run_makePlan hmodel (Nat.le_of_lt hsize)]
    cases c.resolve model <;> rfl
  refine ⟨?_, fun hrefused => ?_, ?_⟩
  · rw [houtcome, ← Condition.exists_resolve_iff]
    cases c.resolve model <;> simp [Except.map]
  · cases hp : c.resolve model with
    | ok p => exact absurd (Condition.accepted_of_resolve hp) hrefused
    | error err =>
      obtain ⟨before, leaf, after, heq, hbefore, hleaf⟩ := Condition.exists_refused hp
      rw [hp] at houtcome
      exact ⟨before, leaf, after, err, heq, hbefore, hleaf.not_acceptedBy, hleaf, houtcome⟩
  · rintro s s' b rfl hopen
    exact combines_succeed hmodel (Nat.le_of_lt hsize) hopen

/-- Two comparisons are refused for different reasons; the first one stands in a junction, and its
error is the outcome. -/
theorem acquirePlan_decides_people :
    let people : EntityModel := (EntityModel.new ⟨7⟩ "Person").declare ⟨3⟩ "age" (.integer .uint8)
    let m := (Memory.new none).register people
    let c : Condition := .all [.compare ⟨⟨3⟩, .notNull⟩,
      .any [.compare ⟨⟨3⟩, .stringEqual "old" true⟩, .all []], .compare ⟨⟨9⟩, .isNull⟩]
    let outcome := ((Query.acquirePlan engine).run (m, ⟨⟨7⟩, c, none⟩)).1
    outcome = .error (.typeMismatch ⟨3⟩ "Text" "UInt8") ∧ ¬ c.AcceptedBy people ∧
      ∀ (s s' : Spied engine) (b : Builder), s.inner = m →
        (engine.spied.newBuilder ⟨7⟩).run s = (.ok b, s') →
        ∃ evs, Follows s' evs ((c.registerIn (engine.spied.registrar b)).run s').2 ∧
          ∀ ev ∈ evs, ∀ j ids, ev.call = .combine b j ids →
            ev.succeeded = true ∨ ev.call.name ∈ s.faults := by
  intro people m c outcome
  have houtcome : outcome = .error (.typeMismatch ⟨3⟩ "Text" "UInt8") := rfl
  have hmodel : m.model ⟨7⟩ = .ok people := rfl
  have hsize : c.size < 2 ^ 32 := by decide
  obtain ⟨hiff, -, hcombine⟩ := acquirePlan_decides hmodel hsize
  refine ⟨houtcome, fun haccepted => ?_, hcombine⟩
  obtain ⟨plan, hplan⟩ := hiff.mpr haccepted
  cases houtcome.symm.trans hplan

end Memory

end EntityQuery
