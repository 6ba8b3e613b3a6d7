import EntityQuery.Proofs.Registration
import EntityQuery.Proofs.TwinRuns

/-!
# The id of a session decides nothing

Two builder sessions with the same slots differ in their ids only. They accept and refuse the same
calls, and give out ids of the same slots (`Session.Uniform`). So registering a condition goes the
same way in both (`Condition.twin_registerIn`). An id can show in one place only, which is the text
of a refused combination. Registering a condition combines nothing that is refused unless there are
more slots than ids.
-/

namespace EntityQuery

/-- The id that a session gives to a slot. -/
def ConditionId.of (session : UInt64) (i : Nat) : ConditionId :=
  ⟨session, .ofNat i⟩

/-- The same refusal by two sessions, each of which names the slot by an id of its own. -/
inductive Refusal.Twin : Refusal → Refusal → Prop where
  | unknown (b b' : UInt64) (i : UInt32) : Twin (.unknown ⟨b, i⟩) (.unknown ⟨b', i⟩)
  | alreadyCombined (b b' : UInt64) (i : UInt32) :
    Twin (.alreadyCombined ⟨b, i⟩) (.alreadyCombined ⟨b', i⟩)

/-- The same error in two runs. If the sessions may be crowded, it can be a refusal that names ids
of its own in each run. -/
inductive Error.Alike (crowded : Prop) : Error → Error → Prop where
  | same (e : Error) : Alike crowded e e
  | refused (h : crowded) {r r' : Refusal} (hr : r.Twin r') : Alike crowded r.toError r'.toError

namespace Session

variable {alike : Error → Error → Prop} {crowded : Prop} {model : EntityModel} {slots : List Slot}

/-- What a call gives and leaves in the session of each id, all of which have the same model and
slots. It goes the same way in all of them: it gives out the id of one slot, or refuses and keeps
the slots. -/
inductive Uniform (alike : Error → Error → Prop) (model : EntityModel) (slots : List Slot)
    (Q : Nat → List Slot → Prop) (ran : UInt64 → Except Error ConditionId × Session) : Prop where
  | ok (i : Nat) (slots' : List Slot) (h : Q i slots')
    (hran : ∀ id, ran id = (.ok (.of id i), ⟨id, model, slots'⟩))
  | error {fail : UInt64 → Error} (hfail : ∀ id id', alike (fail id) (fail id'))
    (hran : ∀ id, ran id = (.error (fail id), ⟨id, model, slots⟩))

/-- A primitive is resolved against the model alone, so the id has no say in it. -/
theorem uniform_register (halike : ∀ e, alike e e) (p : Primitive) :
    Uniform alike model slots
      (fun i slots' => i = slots.length ∧ ∃ q, slots' = slots ++ [⟨q, false⟩])
      fun id => (register p).run ⟨id, model, slots⟩ := by
  cases hq : p.comparison.resolve model with
  | error e =>
    refine .error (fun _ _ => halike e) fun id => ?_
    rw [run_register, hq]
    rfl
  | ok q =>
    refine .ok slots.length (slots ++ [⟨q, false⟩]) ⟨rfl, q, rfl⟩ fun id => ?_
    rw [run_register, hq]
    rfl

/-- The same slot is claimed in all sessions, or refused for the same reason in all of them. -/
theorem uniform_claim (model : EntityModel) (slots : List Slot) (claimed : List Nat) (i : Nat) :
    (∃ index, ∀ id, claim ⟨id, model, slots⟩ claimed (.of id i) = .ok index) ∨
      ∃ r : UInt64 → Refusal, (∀ id id', (r id).Twin (r id')) ∧
        ∀ id, claim ⟨id, model, slots⟩ claimed (.of id i) = .error (r id) := by
  simp only [claim, ConditionId.of, ne_eq, not_true_eq_false, if_false]
  cases slots[(UInt32.ofNat i).toNat]? with
  | none => exact .inr ⟨fun id => .unknown (.of id i), fun _ _ => .unknown .., fun _ => rfl⟩
  | some slot =>
    cases htaken : slot.taken || claimed.contains (UInt32.ofNat i).toNat with
    | false => exact .inl ⟨_, fun _ => by simp only [htaken]; rfl⟩
    | true =>
      exact .inr ⟨fun id => .alreadyCombined (.of id i), fun _ _ => .alreadyCombined ..,
        fun _ => by simp only [htaken]; rfl⟩

/-- Some slots are claimed in all sessions, or refused for the same reason in all of them. -/
theorem uniform_claimAll (model : EntityModel) (slots : List Slot) (claimed is : List Nat) :
    (∃ indexes, ∀ id,
      claimAll ⟨id, model, slots⟩ claimed (is.map (.of id)) = .ok indexes) ∨
      ∃ r : UInt64 → Refusal, (∀ id id', (r id).Twin (r id')) ∧
        ∀ id, claimAll ⟨id, model, slots⟩ claimed (is.map (.of id)) = .error (r id) := by
  -- the claims of the rest depend on the slots claimed so far, which are the same in all sessions
  induction is generalizing claimed with
  | nil => exact .inl ⟨[], fun _ => rfl⟩
  | cons i is ih =>
    simp only [List.map_cons, claimAll]
    obtain ⟨index, hclaim⟩ | ⟨r, hr, hclaim⟩ := uniform_claim model slots claimed i
    · obtain ⟨indexes, hrest⟩ | ⟨r, hr, hrest⟩ := ih (index :: claimed)
      · exact .inl ⟨index :: indexes, fun id => by
          simp [hclaim, hrest, bind, Except.bind, pure, Except.pure]⟩
      · exact .inr ⟨r, hr, fun id => by simp [hclaim, hrest, bind, Except.bind]⟩
    · exact .inr ⟨r, hr, fun id => by simp [hclaim, bind, Except.bind]⟩

/-- A combination is refused by all sessions with the same slots or by none. -/
theorem uniform_combine (h : crowded) (model : EntityModel) (slots : List Slot) (j : Junction)
    (is : List Nat) :
    Uniform (Error.Alike crowded) model slots (fun i _ => i = slots.length)
      fun id => (combine j (is.map (.of id))).run ⟨id, model, slots⟩ := by
  obtain ⟨indexes, hclaims⟩ | ⟨r, hr, hclaims⟩ := uniform_claimAll model slots [] is
  · -- what is appended does not mention the id
    let combined : Session := (append (markTaken ⟨0, model, slots⟩ indexes)
      (.join j (predicatesAt ⟨0, model, slots⟩ indexes))).2
    refine .ok slots.length combined.slots rfl fun id => ?_
    rw [run_combine, hclaims]
    simp [enter, append, markTaken, predicatesAt, combined, ConditionId.of]
  · refine .error (fun id id' => .refused h (hr id id')) fun id => ?_
    rw [run_combine, hclaims]

/-- The untaken slots of a run at the end are combined in all sessions, if there are ids for all
slots. -/
theorem uniform_combine_roots (model : EntityModel) {old new : List Slot}
    (hroom : (old ++ new).length ≤ 2 ^ 32) (j : Junction) :
    Uniform alike model (old ++ new)
      (fun i slots' => i = (old ++ new).length ∧
        ∃ p, slots' = old ++ (new.map Slot.take ++ [⟨p, false⟩]))
      fun id => (combine j ((Slot.rootsFrom old.length new).map (.of id))).run
        ⟨id, model, old ++ new⟩ := by
  refine .ok (old ++ new).length _ ⟨rfl, .join j (Slot.roots new), rfl⟩ fun id => ?_
  rw [← List.append_assoc]
  exact combine_roots (s := ⟨id, model, old ++ new⟩) rfl hroom j

end Session

/-! ## Registering in two sessions

The two registrars are those of two runs, each with a session of its own. Their answers are
different ids of the same slot, so the ids that a junction is made of name the same slots again.
Whether a junction can be refused depends on how many slots there are: while there are ids for all
of them, the walk knows which slots its ids name and that none of them is taken. -/

section

variable {τ : Type} {alike : Error → Error → Prop} {crowded : Prop} {id id' : UInt64}
  {model : EntityModel} {At : List Slot → τ → τ → Prop} {r r' : Registrar τ}

/-- Both sessions gave out their id of one slot, and hold the same slots. -/
def Given (id id' : UInt64) (At : List Slot → τ → τ → Prop) (Q : Nat → List Slot → Prop)
    (x x' : ConditionId) (t t' : τ) : Prop :=
  ∃ i slots, Q i slots ∧ x = .of id i ∧ x' = .of id' i ∧ At slots t t'

/-- The calls of two registrars do what the calls of two sessions do that differ in their ids
only. -/
structure Registrar.Twin (alike : Error → Error → Prop) (id id' : UInt64) (model : EntityModel)
    (At : List Slot → τ → τ → Prop) (r r' : Registrar τ) : Prop where
  register : ∀ slots p Q, Session.Uniform alike model slots Q
      (fun id => (Session.register p).run ⟨id, model, slots⟩) →
    Action.Twin alike (At slots) (Given id id' At Q) (At slots) (r.register p) (r'.register p)
  combine : ∀ slots j (is : List Nat) Q, Session.Uniform alike model slots Q
      (fun id => (Session.combine j (is.map (.of id))).run ⟨id, model, slots⟩) →
    Action.Twin alike (At slots) (Given id id' At Q) (At slots) (r.combine j (is.map (.of id)))
      (r'.combine j (is.map (.of id')))

/-- What a walk leaves: some new slots, of which the given ones are untaken. If the sessions are
crowded nothing is said. -/
def Leaves (crowded : Prop) (size : Nat) (slots : List Slot) (is : List Nat)
    (slots' : List Slot) : Prop :=
  ¬crowded → ∃ new, slots' = slots ++ new ∧ Slot.rootsFrom slots.length new = is ∧
    new.length ≤ size

namespace Condition

/-- The condition is registered the same way in both sessions, whatever they hold. -/
def RegistersAlike (crowded : Prop) (id id' : UInt64) (At : List Slot → τ → τ → Prop)
    (r r' : Registrar τ) (c : Condition) : Prop :=
  ∀ slots : List Slot, (¬crowded → slots.length + c.size ≤ 2 ^ 32) →
    Action.Twin (Error.Alike crowded) (At slots)
      (Given id id' At fun i slots' => Leaves crowded c.size slots [i] slots')
      (fun t t' => ∃ slots, At slots t t') (c.registerIn r) (c.registerIn r')

/-- Some conditions are registered the same way in both sessions. -/
theorem twin_registerList {cs : List Condition}
    (h : ∀ c ∈ cs, c.RegistersAlike crowded id id' At r r') (slots : List Slot)
    (hroom : ¬crowded → slots.length + sizeList cs ≤ 2 ^ 32) :
    Action.Twin (Error.Alike crowded) (At slots)
      (fun xs xs' t t' => ∃ is slots', Leaves crowded (sizeList cs) slots is slots' ∧
        xs = is.map (.of id) ∧ xs' = is.map (.of id') ∧ At slots' t t')
      (fun t t' => ∃ slots, At slots t t') (registerList r cs) (registerList r' cs) := by
  induction cs generalizing slots with
  | nil =>
    exact Action.twin_pure fun t t' ht =>
      ⟨[], slots, fun _ => ⟨[], by simp, rfl, Nat.zero_le _⟩, rfl, rfl, ht⟩
  | cons c rest ih =>
    obtain ⟨hc, hrest⟩ := List.forall_mem_cons.mp h
    simp only [sizeList] at hroom
    rw [registerList, registerList]
    refine (hc slots fun hnot => by have := hroom hnot; omega).bind fun x x' => ?_
    rintro t t' ⟨i, slots₁, hleaves, rfl, rfl, ht⟩
    -- the rest is registered in the sessions that the first condition leaves
    have hroom₁ : ¬crowded → slots₁.length + sizeList rest ≤ 2 ^ 32 := by
      intro hnot
      obtain ⟨new, rfl, -, hlength⟩ := hleaves hnot
      have := hroom hnot
      rw [List.length_append]
      omega
    refine ((ih hrest slots₁ hroom₁).bind fun xs xs' => Action.twin_pure ?_) t t' ht
    rintro t t' ⟨is, slots₂, hleaves₂, rfl, rfl, ht⟩
    refine ⟨i :: is, slots₂, fun hnot => ?_, rfl, rfl, ht⟩
    obtain ⟨new, rfl, hroots, hlength⟩ := hleaves hnot
    obtain ⟨new₂, rfl, hroots₂, hlength₂⟩ := hleaves₂ hnot
    refine ⟨new ++ new₂, List.append_assoc .., ?_, ?_⟩
    · rw [List.length_append] at hroots₂
      rw [Slot.rootsFrom_append, hroots, hroots₂]
      rfl
    · rw [List.length_append, sizeList]
      omega

/-- A condition is registered the same way in two sessions that hold the same slots. -/
theorem twin_registerIn (hr : r.Twin (Error.Alike crowded) id id' model At r') (c : Condition) :
    c.RegistersAlike crowded id id' At r r' := by
  induction c with
  | compare c =>
    intro slots hroom
    rw [registerIn, registerIn]
    refine (hr.register slots c.primitive _ (Session.uniform_register .same _)).weaken ?_
      fun t t' ht => ⟨slots, ht⟩
    rintro x x' t t' ⟨i, slots', ⟨rfl, p, rfl⟩, hx, hx', ht⟩
    refine ⟨_, _, fun _ => ⟨[⟨p, false⟩], rfl, ?_, ?_⟩, hx, hx', ht⟩
    · simp [Slot.rootsFrom]
    · simp [size]
  | join j children ih =>
    intro slots hroom
    simp only [size] at hroom
    rw [registerIn, registerIn]
    have hrest : ¬crowded → slots.length + sizeList children ≤ 2 ^ 32 := by
      intro hnot
      have := hroom hnot
      omega
    refine (twin_registerList ih slots hrest).bind fun xs xs' => ?_
    rintro t t' ⟨is, slots₁, hleaves, rfl, rfl, ht⟩
    -- where ids may run out, the junction can be refused, but by both sessions alike
    by_cases hcrowded : crowded
    · have huniform := Session.uniform_combine hcrowded model slots₁ j is
      refine ((hr.combine slots₁ j is _ huniform).weaken ?_ fun t t' ht => ⟨slots₁, ht⟩) t t' ht
      rintro x x' t t' ⟨i, slots₂, -, hx, hx', ht⟩
      exact ⟨i, slots₂, fun hnot => absurd hcrowded hnot, hx, hx', ht⟩
    · -- the junction takes what its children left untaken
      obtain ⟨new, rfl, rfl, hlength⟩ := hleaves hcrowded
      have hfits : (slots ++ new).length ≤ 2 ^ 32 := by
        have := hroom hcrowded
        rw [List.length_append]
        omega
      refine ((hr.combine _ j _ _ (Session.uniform_combine_roots model hfits j)).weaken ?_
        fun t t' ht => ⟨_, ht⟩) t t' ht
      rintro x x' t t' ⟨i, slots₂, ⟨rfl, p, rfl⟩, hx, hx', ht⟩
      refine ⟨_, _, fun _ => ⟨new.map Slot.take ++ [⟨p, false⟩], rfl, ?_, ?_⟩, hx, hx', ht⟩
      · rw [Slot.rootsFrom_append, Slot.rootsFrom_map_take]
        simp [Slot.rootsFrom]
      · simp [size]
        omega

end Condition

end

end EntityQuery
