import EntityQuery.Proofs.Law
import EntityQuery.Proofs.PlanSlot

/-!
# Calls that go by the law

What happens while an action runs can be told at more than one level of detail; a `Telling` is one
of them. `Telling.Obeys` says that a run can be told as a chronicle that goes by the law. The lemmas
follow the source of the calls: single engine calls, sequences, releases, the registration of a
condition, the making of a plan and the bracket of a cursor.
-/

namespace EntityQuery

variable {σ α β : Type} {E : Engine σ}

/-- A way of telling what happens between two states. A call that finds records is left to it. -/
structure Telling (E : Engine σ) where
  Tells : Spied E → List (Happening E) → Spied E → Prop
  nil : ∀ s, Tells s [] s
  append : ∀ {s s' s'' tr tr'}, Tells s tr s' → Tells s' tr' s'' → Tells s (tr ++ tr') s''
  call : ∀ (c : Call E) (s : Spied E), c.finds = false →
    Tells s [.call ⟨c, ((Spied.call c).run s).1⟩] ((Spied.call c).run s).2

/-- Gives a handle back, past the spy. -/
def Handle.give : Handle E → Action (Spied E) Unit
  | builder b => E.spied.closeBuilder b
  | plan p => E.spied.closePlan p
  | tx t => E.spied.endTx t
  | cursor k => E.spied.closeCursor k

namespace Telling

variable (T : Telling E)

/-- The run of an action from a state can be told as a chronicle that goes by the law. -/
def Obeys (start base : List (Handle E)) (planned : List Task) (finish : α → List (Handle E))
    (act : Action (Spied E) α) (s : Spied E) : Prop :=
  ∃ tr, T.Tells s tr (act.run s).2 ∧ Law start base planned finish (act.run s).1 tr

variable {T} {start base held : List (Handle E)} {planned planned' : List Task}
  {finish : α → List (Handle E)} {finish' : β → List (Handle E)} {s : Spied E}

/-! ## Pieces

One call obeys by what it does to the handles. Two actions in a row obey with the plans of both,
since the second one starts from what the first leaves. An action under a handle obeys with its
release as the last piece of the plan. -/

theorem obeys_pure (a : α) : T.Obeys held base [] (fun _ => held) (pure a) s :=
  ⟨[], T.nil s, .fine (List.forall_mem_nil _) rfl (.nil held)⟩

/-- A call that gives nothing back obeys, where the handles that it works with are held. -/
theorem obeys_call (c : Call E) (hfind : c.finds = false) (hcall : c.released? = none)
    (huses : ∀ h ∈ c.uses, h ∈ held) :
    T.Obeys held held [c.task] (fun a => c.acquired a ++ held) (Spied.call c) s :=
  ⟨_, T.call c s hfind, .one hcall huses⟩

/-- Giving a handle back is told as one call, which fails as the release fails. -/
theorem tells_give (h : Handle E) (s : Spied E) :
    ∃ released, failure? released = failure? (h.give.run s).1 ∧
      T.Tells s [.call ⟨h.release, released⟩] (h.give.run s).2 := by
  -- each kind of handle has a call of its own, of its own type of answers
  cases h with
  | builder b => exact ⟨_, rfl, T.call (.closeBuilder b) s rfl⟩
  | plan p => exact ⟨_, rfl, T.call (.closePlan p) s rfl⟩
  | tx t => exact ⟨_, rfl, T.call (.endTx t) s rfl⟩
  | cursor k => exact ⟨_, rfl, T.call (.closeCursor k) s rfl⟩

/-- Actions in a row obey the plans in a row. -/
theorem Obeys.bind {act : Action (Spied E) α} {next : α → Action (Spied E) β}
    (h : T.Obeys start base planned finish act s)
    (hnext : ∀ a s', T.Obeys (finish a) base planned' finish' (next a) s') :
    T.Obeys start base (planned ++ planned') finish' (act >>= next) s := by
  unfold Obeys at h ⊢
  rw [Action.run_bind]
  generalize act.run s = r at h ⊢
  rcases r with ⟨e | a, s'⟩
  · -- the second action is not reached
    obtain ⟨tr, htells, hlaw⟩ := h
    exact ⟨tr, htells, hlaw.stop⟩
  · obtain ⟨tr, htells, hlaw⟩ := h
    obtain ⟨tr', htells', hlaw'⟩ := hnext a s'
    exact ⟨tr ++ tr', T.append htells htells', hlaw.andThen hlaw'⟩

/-- An action that runs under a handle, which is given back afterwards. -/
theorem Obeys.thenGive {h : Handle E} {act : Action (Spied E) α}
    (hact : T.Obeys (h :: held) (h :: held) planned (fun _ => h :: held) act s) :
    T.Obeys (h :: held) held (planned ++ [h.release.task]) (fun _ => held)
      (act.thenRelease h.give) s := by
  obtain ⟨tr, htells, hlaw⟩ := hact
  obtain ⟨released, hreleased, htells'⟩ := T.tells_give h (act.run s).2
  unfold Obeys
  rw [Action.run_thenRelease]
  exact ⟨_, T.append htells htells', hlaw.bracket hreleased⟩

end Telling

/-! ## Registering a condition

A session is only asked, so it is the same handle that is held all the way. The plan of a junction
is that of its children followed by one combination, whatever ids the children get. -/

namespace Condition

mutual

/-- The calls that register a condition: one for each comparison and junction, children first. -/
def tasks : Condition → List Task
  | compare c => [.register c]
  | join j children => tasksList children ++ [.combine j]

/-- The calls that register some conditions, one condition after the other. -/
def tasksList : List Condition → List Task
  | [] => []
  | c :: rest => c.tasks ++ tasksList rest

end

variable {T : Telling E} {held : List (Handle E)} {b : E.Builder}

/-- The children of a junction obey their plans, one after the other. -/
theorem obeys_registerList {cs : List Condition} {s : Spied E}
    (h : ∀ c ∈ cs, ∀ s, T.Obeys held held c.tasks (fun _ => held)
      (c.registerIn (E.spied.registrar b)) s) :
    T.Obeys held held (tasksList cs) (fun _ => held) (registerList (E.spied.registrar b) cs) s := by
  induction cs generalizing s with
  | nil => exact Telling.obeys_pure []
  | cons c rest ih =>
    obtain ⟨hc, hrest⟩ := List.forall_mem_cons.mp h
    rw [registerList, tasksList]
    refine (hc s).bind fun id s' => ?_
    -- collecting the ids makes no call
    have hids : T.Obeys held held (tasksList rest ++ []) (fun _ => held)
        (registerList (E.spied.registrar b) rest >>= fun ids => pure (id :: ids)) s' :=
      (ih hrest).bind fun ids _ => Telling.obeys_pure (id :: ids)
    rwa [List.append_nil] at hids

/-- Registering a condition obeys its post-order, in any session that is held. -/
theorem obeys_registerIn (hb : .builder b ∈ held) (c : Condition) (s : Spied E) :
    T.Obeys held held c.tasks (fun _ => held) (c.registerIn (E.spied.registrar b)) s := by
  induction c generalizing s with
  | compare c =>
    -- the primitive that is called is that of the comparison
    have hcall := Telling.obeys_call (T := T) (s := s) (.register b c.primitive) rfl rfl
      (List.forall_mem_singleton.mpr hb)
    rw [Call.task, c.comparison_primitive] at hcall
    exact hcall
  | join j children ih =>
    rw [registerIn, tasks]
    -- the junction is asked for last, with whatever ids were given
    refine (obeys_registerList ih).bind fun ids s' => ?_
    exact Telling.obeys_call (.combine b j ids) rfl rfl (List.forall_mem_singleton.mpr hb)

end Condition

/-! ## Plans and cursors

A plan outlives the session that it was made in, so this one release comes from under the newest
handle. If closing the session fails, the plan is closed as well. Transactions and cursors are
brackets around what is done with them. -/

namespace Query

variable {T : Telling E} {held : List (Handle E)}

/-- The calls that make a plan, from opening the session to closing it. -/
def makeTasks (e : EntityId) (c : Condition) : List Task :=
  [.newBuilder e] ++ (c.tasks ++ [.compile] ++ [.closeBuilder])

/-- Registering and compiling leave a plan above the session. -/
theorem obeys_compileIn {b : E.Builder} (c : Condition) (s : Spied E) :
    T.Obeys (.builder b :: held) (.builder b :: held) (c.tasks ++ [.compile])
      (fun p => .plan p :: .builder b :: held) (compileIn E.spied b c) s :=
  (c.obeys_registerIn List.mem_cons_self s).bind fun _ _ =>
    Telling.obeys_call (.compile b) rfl rfl (List.forall_mem_singleton.mpr List.mem_cons_self)

/-- A session that a plan is made in is closed however that ends, and the plan is kept only if
closing went through. -/
theorem obeys_makePlanIn (c : Condition) (b : E.Builder) (s : Spied E) :
    T.Obeys (.builder b :: held) held (c.tasks ++ [.compile] ++ [.closeBuilder])
      (fun p => .plan p :: held) (makePlanIn E.spied c b) s := by
  have hcompile : T.Obeys (.builder b :: held) _ _ _ (compileIn E.spied b c) s :=
    obeys_compileIn c s
  unfold Telling.Obeys at hcompile ⊢
  simp only [makePlanIn, Action.run_bind, Action.run_attempt]
  generalize (compileIn E.spied b c).run s = compiled at hcompile ⊢
  obtain ⟨outcome, s⟩ := compiled
  obtain ⟨tr, htells, hlaw⟩ := hcompile
  have hgive := T.call (.closeBuilder b) s rfl
  simp only
  generalize (Spied.call (.closeBuilder b)).run s = closed at hgive ⊢
  obtain ⟨released, s⟩ := closed
  cases outcome with
  | error err =>
    -- nothing was compiled, so closing the session is an ordinary release
    have hbody : Law _ _ _ (fun _ : E.Plan => .builder b :: held) (.error err) tr := hlaw.of_error
    exact ⟨_, T.append htells hgive, (hbody.bracket (h := .builder b) (r := released) rfl).of_error⟩
  | ok plan =>
    cases released with
    | ok done =>
      -- the session is under the plan that was made in it
      have hlast : Law (E := E) (.plan plan :: .builder b :: held) held [.closeBuilder]
          (fun p : E.Plan => .plan p :: held) (.ok plan) [.call ⟨.closeBuilder b, .ok done⟩] :=
        .giveUnder (h := .builder b) rfl rfl
      exact ⟨_, T.append htells hgive, hlaw.andThen hlast⟩
    | error err =>
      -- the plan is closed whether or not that fails as well
      have hplan := T.call (.closePlan plan) s rfl
      have hlast : Law (E := E) (.plan plan :: .builder b :: held) held [.closeBuilder]
          (fun p : E.Plan => .plan p :: held) (.error err)
          [.call ⟨.closeBuilder b, .error err⟩,
            .call ⟨.closePlan plan, ((Spied.call (E := E) (.closePlan plan)).run s).1⟩] :=
        .giveUnder_failed (h := .builder b) rfl
      exact ⟨_, T.append htells (T.append hgive hplan), hlaw.andThen hlast⟩

/-- Making a plan obeys, from opening the session on. -/
theorem obeys_makePlan (e : EntityId) (c : Condition) (s : Spied E) :
    T.Obeys held held (makeTasks e c) (fun p => .plan p :: held) (makePlan E.spied e c) s :=
  (Telling.obeys_call (.newBuilder e) rfl rfl (List.forall_mem_nil _)).bind fun b s =>
    obeys_makePlanIn c b s

/-- The calls that use a plan, from making it to closing it. -/
def planTasks (e : EntityId) (c : Condition) (use : List Task) : List Task :=
  makeTasks e c ++ (use ++ [.closePlan])

/-- Whatever is done with a plan, the plan is closed after it. -/
theorem obeys_usePlan {planned : List Task} {use : E.Plan → Action (Spied E) α} (e : EntityId)
    (c : Condition) (s : Spied E)
    (huse : ∀ p s, T.Obeys (.plan p :: held) (.plan p :: held) planned (fun _ => .plan p :: held)
      (use p) s) :
    T.Obeys held held (planTasks e c planned) (fun _ => held) (usePlan E.spied e c use) s :=
  (obeys_makePlan e c s).bind fun p s => (huse p s).thenGive

end Query

/-- The calls that use a cursor, from the begin of its transaction to the end. -/
def Engine.cursorTasks (e : EntityId) (mode : TxMode) (use : List Task) : List Task :=
  [.beginTx mode] ++ ([.openCursor e] ++ (use ++ [.closeCursor]) ++ [.endTx])

/-- Whatever is done with a cursor, the cursor is closed after it and then its transaction ended. -/
theorem Engine.obeys_withCursor {T : Telling E} {held : List (Handle E)} {planned : List Task}
    {body : E.Cursor → Action (Spied E) α} (e : EntityId) (mode : TxMode) (s : Spied E)
    (hbody : ∀ t k s, T.Obeys (.cursor k :: .tx t :: held) (.cursor k :: .tx t :: held) planned
      (fun _ => .cursor k :: .tx t :: held) (body k) s) :
    T.Obeys held held (cursorTasks e mode planned) (fun _ => held)
      (E.spied.withCursor e mode body) s := by
  refine (Telling.obeys_call (.beginTx mode) rfl rfl (List.forall_mem_nil _)).bind fun t s => ?_
  have hopen : T.Obeys (.tx t :: held) (.tx t :: held) [.openCursor e]
      (fun k => .cursor k :: .tx t :: held) (Spied.call (.openCursor t e)) s :=
    Telling.obeys_call (.openCursor t e) rfl rfl (List.forall_mem_singleton.mpr List.mem_cons_self)
  exact (hopen.bind fun k s => (hbody t k s).thenGive).thenGive

end EntityQuery
