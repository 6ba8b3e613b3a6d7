import EntityQuery.Proofs.Observed

/-!
# The first failure in time is the one reported

Whatever an engine does and whichever of its calls are made to fail, the calls of a query go by the
law: up to the first failure they make the planned calls, they report that failure unchanged, and
afterwards they only give back what they hold, the newest first (`Query.first_failure_decides`). The
same holds of work that is done with a cursor, whatever the work is.

* `narrate` tells the decodings of records where they happen, right after the call that found the
  records.
* `Telling.around` tells what is done with a cursor as a single happening.
-/

namespace EntityQuery

variable {σ α β : Type} {E : Engine σ}

/-! ## Decodings

An engine call hands over all records at once, and they are decoded one by one until one cannot be.
The journal of the spy does not show this, so it is told between the calls: after the call that
found some records come their decodings. -/

/-- What decoding some records comes to: every record that is decoded, up to the first that cannot
be. -/
def decodings (decode : Bytes → Except Error α) : List Bytes → List (Happening E)
  | [] => []
  | bytes :: rest =>
    match decode bytes with
    | .ok _ => .decoding none :: decodings decode rest
    | .error e => [.decoding (some e)]

/-- A call, and after it the decodings of the records that it found. -/
def narrateEvent (decode : Bytes → Except Error α) : Event E → List (Happening E)
  | ⟨.find p k, .ok records⟩ => .call ⟨.find p k, .ok records⟩ :: decodings decode records
  | ev => [.call ev]

/-- Some calls, and after each of them the decodings of what it found. -/
def narrate (decode : Bytes → Except Error α) (evs : List (Event E)) : List (Happening E) :=
  evs.flatMap (narrateEvent decode)

theorem calls_decodings (decode : Bytes → Except Error α) (records : List Bytes) :
    calls (decodings decode records : List (Happening E)) = [] := by
  induction records with
  | nil => rfl
  | cons bytes rest ih =>
    rw [decodings]
    split
    · exact ih
    · rfl

theorem calls_narrate (decode : Bytes → Except Error α) (evs : List (Event E)) :
    calls (narrate decode evs) = evs := by
  induction evs with
  | nil => rfl
  | cons ev rest ih =>
    -- only the call itself is one of its happenings
    have hev : calls (narrateEvent decode ev) = [ev] := by
      unfold narrateEvent
      split
      · exact congrArg (_ :: ·) (calls_decodings decode _)
      · rfl
    rw [narrate, List.flatMap_cons, calls_append, hev]
    exact congrArg (ev :: ·) ih

/-- A call that finds no records is told as itself. -/
theorem narrateEvent_of_not_find (decode : Bytes → Except Error α) {ev : Event E}
    (h : ev.call.finds = false) : narrateEvent decode ev = [.call ev] := by
  unfold narrateEvent
  split
  · cases h
  · rfl

/-- Journals are told with the decodings in their places. -/
def Telling.narrated (decode : Bytes → Except Error α) : Telling E where
  Tells s tr s' := ∃ evs, Follows s evs s' ∧ tr = narrate decode evs
  nil s := ⟨[], .refl s, rfl⟩
  append := by
    rintro _ _ _ _ _ ⟨evs, h, rfl⟩ ⟨evs', h', rfl⟩
    exact ⟨evs ++ evs', h.trans h', List.flatMap_append.symm⟩
  call c s hfind := by
    refine ⟨_, .single c s, ?_⟩
    rw [narrate, List.flatMap_singleton, narrateEvent_of_not_find decode hfind]

/-- Decoding some records goes by the law, and makes no call. -/
theorem law_decodings (decode : Bytes → Except Error α) (held : List (Handle E))
    (records : List Bytes) :
    Law held held [] (fun _ => held) (records.mapM decode) (decodings decode records) := by
  induction records with
  | nil => exact .fine (List.forall_mem_nil _) rfl (.nil held)
  | cons bytes rest ih =>
    rw [List.mapM_cons, decodings]
    cases decode bytes with
    | error e =>
      -- the records after it are not looked at
      exact .single rfl rfl (.nil held)
    | ok a =>
      have hfirst : Law held held [] (fun _ => held) (.ok a) [(.decoding none : Happening E)] :=
        .single rfl rfl (.nil held)
      have hrest : Law held held [] (fun _ => held) ((rest.mapM decode).map (a :: ·))
          (decodings decode rest) :=
        ih.map fun _ => rfl
      -- whether the rest is decoded decides how the whole ends
      cases hdecoded : rest.mapM decode <;> exact hfirst.andThen (hdecoded ▸ hrest)

/-- Decoding what was found asks nothing of the state. -/
theorem run_decodeAll {τ : Type} (decode : Bytes → Except Error α) (records : List Bytes) (s : τ) :
    (records.mapM fun bytes => (MonadExcept.ofExcept (decode bytes) : Action τ α)).run s =
      (records.mapM decode, s) := by
  induction records with
  | nil => rfl
  | cons bytes rest ih =>
    rw [List.mapM_cons, List.mapM_cons, Action.run_bind, Action.run_ofExcept]
    cases decode bytes with
    | error e => rfl
    | ok a =>
      simp only [Action.run_bind, ih]
      cases rest.mapM decode <;> rfl

/-- Finding and decoding obey one piece of the plan. -/
theorem obeys_find (decode : Bytes → Except Error α) {held : List (Handle E)} {p : E.Plan}
    {k : E.Cursor} (hp : .plan p ∈ held) (hk : .cursor k ∈ held) (s : Spied E) :
    (Telling.narrated decode).Obeys held held [.find] (fun _ => held)
      (Spied.call (.find p k) >>= fun records =>
        records.mapM fun bytes => MonadExcept.ofExcept (decode bytes)) s := by
  have huses : ∀ h ∈ (Call.find p k : Call E).uses, h ∈ held :=
    List.forall_mem_cons.mpr ⟨hp, List.forall_mem_singleton.mpr hk⟩
  have hfollows := Follows.single (.find p k) s
  unfold Telling.Obeys
  rw [Action.run_bind]
  generalize (Spied.call (.find p k)).run s = found at hfollows ⊢
  obtain ⟨outcome, s'⟩ := found
  cases outcome with
  | error e =>
    -- nothing is decoded
    exact ⟨_, ⟨_, hfollows, rfl⟩, (Law.one rfl huses).of_error⟩
  | ok records =>
    have hcall : Law held held [.find] (fun _ => held) (.ok records)
        [.call ⟨.find p k, .ok records⟩] :=
      Law.one rfl huses
    simp only [run_decodeAll]
    refine ⟨_, ⟨_, hfollows, ?_⟩, hcall.andThen (law_decodings decode held records)⟩
    simp [narrate, narrateEvent]

/-! ## Work with a cursor

The caller may do anything with a cursor, calls of the engine included. So that its work is one
happening, the state is followed past it in a single step. -/

/-- A state comes after another by calls past the spy and by work with a cursor, which is told as
one happening however much it does. -/
inductive Around (body : E.Cursor → Action (Spied E) β) :
    Spied E → List (Happening E) → Spied E → Prop where
  | nil (s : Spied E) : Around body s [] s
  | call (c : Call E) {s s' : Spied E} {tr : List (Happening E)}
    (h : Around body ((Spied.call c).run s).2 tr s') :
    Around body s (.call ⟨c, ((Spied.call c).run s).1⟩ :: tr) s'
  | body (k : E.Cursor) {s s' : Spied E} {tr : List (Happening E)}
    (h : Around body ((body k).run s).2 tr s') :
    Around body s (.body (failure? ((body k).run s).1) :: tr) s'

theorem Around.trans {body : E.Cursor → Action (Spied E) β} {s s' s'' : Spied E}
    {tr tr' : List (Happening E)} (h : Around body s tr s') (h' : Around body s' tr' s'') :
    Around body s (tr ++ tr') s'' := by
  induction h with
  | nil => exact h'
  | call c _ ih => exact .call c (ih h')
  | body k _ ih => exact .body k (ih h')

/-- The work with a cursor is told as one happening. -/
def Telling.around (body : E.Cursor → Action (Spied E) β) : Telling E where
  Tells := Around body
  nil := .nil
  append := .trans
  call c _ _ := .call c (.nil _)

/-! ## The calls of a query

Each call of a query is a call that makes and uses a plan (`KeepsQuery`). What it does with the plan
obeys, and so does the whole. The four calls differ in what they ask the engine for. -/

namespace Query

/-- A call on a query without a plan goes by the law: it reports what failed first among its engine
calls and decodings, it does what is planned until then, and then it gives back what it holds. -/
def GoesByLaw (decode : Bytes → Except Error α) (call : Action (Spied E × Query E.Plan) β)
    (e : EntityId) (c : Condition) (planned : List Task) (s : Spied E) : Prop :=
  ∃ evs, (call.run (s, ⟨e, c, none⟩)).2.1.events = s.events ++ evs ∧
    failure? (call.run (s, ⟨e, c, none⟩)).1 =
      (narrate decode evs).findSome? Happening.failure? ∧
    Law [] [] planned (fun _ => []) (call.run (s, ⟨e, c, none⟩)).1 (narrate decode evs)

/-- A call that keeps its query goes by the law if the action without a slot obeys. -/
theorem goesByLaw {decode : Bytes → Except Error α} {call : Action (Spied E × Query E.Plan) β}
    {act : Action (Spied E) β} {e : EntityId} {c : Condition} {planned : List Task} {s : Spied E}
    (hcall : KeepsQuery E.spied e c call act)
    (hact : (Telling.narrated decode).Obeys [] [] planned (fun _ => []) act s) :
    GoesByLaw decode call e c planned s := by
  obtain ⟨_, ⟨evs, hfollows, rfl⟩, hlaw⟩ := hact
  unfold GoesByLaw
  rw [hcall s]
  exact ⟨evs, hfollows.events_eq, hlaw.failure?_eq, hlaw⟩

section

variable (decode : Bytes → Except Error α) (held : List (Handle E)) (e : EntityId) (c : Condition)
  (s : Spied E)

/-- Finding and decoding under a plan and a cursor. -/
theorem obeys_useFind :
    (Telling.narrated decode).Obeys held held
      (planTasks e c (Engine.cursorTasks e .readOnly [.find]))
      (fun _ => held) (usePlan E.spied e c fun p => E.spied.withCursor e .readOnly fun k => do
        let records ← E.spied.find p k
        records.mapM fun bytes => MonadExcept.ofExcept (decode bytes)) s := by
  refine obeys_usePlan e c s fun p s => ?_
  exact Engine.obeys_withCursor e .readOnly s fun _ _ s => obeys_find decode (by simp) (by simp) s

theorem obeys_useFindIds :
    (Telling.narrated decode).Obeys held held
      (planTasks e c (Engine.cursorTasks e .readOnly [.findIds])) (fun _ => held)
      (usePlan E.spied e c fun p => E.spied.withCursor e .readOnly (E.spied.findIds p)) s := by
  refine obeys_usePlan e c s fun p s => ?_
  exact Engine.obeys_withCursor e .readOnly s fun _ k s =>
    Telling.obeys_call (.findIds p k) rfl rfl (by simp [Call.uses])

theorem obeys_useCount :
    (Telling.narrated decode).Obeys held held
      (planTasks e c (Engine.cursorTasks e .readOnly [.count]))
      (fun _ => held)
      (usePlan E.spied e c fun p => E.spied.withCursor e .readOnly (E.spied.count p)) s := by
  refine obeys_usePlan e c s fun p s => ?_
  exact Engine.obeys_withCursor e .readOnly s fun _ k s =>
    Telling.obeys_call (.count p k) rfl rfl (by simp [Call.uses])

theorem obeys_useDescribe :
    (Telling.narrated decode).Obeys held held (planTasks e c [.describe]) (fun _ => held)
      (usePlan E.spied e c E.spied.describe) s := by
  refine obeys_usePlan e c s fun p s => ?_
  exact Telling.obeys_call (.describe p) rfl rfl (by simp [Call.uses])

end

/-- Whatever the engine does and whichever calls fail, the calls of a query and the work with a
cursor report the first failure in time, and only give back what they hold after it. -/
theorem first_failure_decides (E : Engine σ) (decode : Bytes → Except Error α) (e : EntityId)
    (c : Condition) (s : Spied E) :
    GoesByLaw decode (find E.spied decode) e c
        (planTasks e c (Engine.cursorTasks e .readOnly [.find])) s ∧
      GoesByLaw decode (findIds E.spied) e c
        (planTasks e c (Engine.cursorTasks e .readOnly [.findIds])) s ∧
      GoesByLaw decode (count E.spied) e c
        (planTasks e c (Engine.cursorTasks e .readOnly [.count])) s ∧
      GoesByLaw decode (describe E.spied) e c (planTasks e c [.describe]) s ∧
      ∀ (β : Type) (mode : TxMode) (body : E.Cursor → Action (Spied E) β),
        ∃ tr, Around body s tr ((E.spied.withCursor e mode body).run s).2 ∧
          failure? ((E.spied.withCursor e mode body).run s).1 =
            tr.findSome? Happening.failure? ∧
          Law [] [] (Engine.cursorTasks e mode [.body]) (fun _ => [])
            ((E.spied.withCursor e mode body).run s).1 tr := by
  refine ⟨goesByLaw (run_find E.spied e c decode) (obeys_useFind decode [] e c s),
    goesByLaw (run_findIds E.spied e c) (obeys_useFindIds decode [] e c s),
    goesByLaw (run_count E.spied e c) (obeys_useCount decode [] e c s),
    goesByLaw (run_describe E.spied e c) (obeys_useDescribe decode [] e c s),
    fun β mode body => ?_⟩
  -- with a cursor alone the bracket is all there is, and the work inside is the one happening that
  -- is not a call
  have hobeys : (Telling.around body).Obeys [] [] (Engine.cursorTasks e mode [.body])
      (fun _ => []) (E.spied.withCursor e mode body) s :=
    Engine.obeys_withCursor e mode s fun t k s => ⟨_, .body k (.nil _), .body⟩
  obtain ⟨tr, haround, hlaw⟩ := hobeys
  exact ⟨tr, haround, hlaw.failure?_eq, hlaw⟩

end Query

end EntityQuery
