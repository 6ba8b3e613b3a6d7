import EntityQuery.Proofs.Dispatch
import EntityQuery.Proofs.Handles

/-!
# The first failure decides

A call of a query makes engine calls, and now and then something else happens in it, which may fail
as well. `Law` says how such a call has to go. As long as nothing fails it does what is planned. The
first failure is the one that is reported, and all that comes after it are the releases of what is
still held, the newest first.

* `Law.one` is the law of a single call.
* `Law.andThen` and `Law.stop` put two pieces one after the other.
* `Law.bracket` ends a piece by giving back the handle that it ran under.
-/

namespace EntityQuery

variable {σ α β : Type} {E : Engine σ}

/-- Something that happens in a call, and how it failed if it did. -/
inductive Happening (E : Engine σ) where
  | call (ev : Event E)
  | decoding (failure? : Option Error)
  | body (failure? : Option Error)

/-- A piece of a plan: a call whose handles are not known yet, or what the caller does. -/
inductive Task where
  | newBuilder (entity : EntityId)
  | register (c : Comparison)
  | combine (j : Junction)
  | compile
  | closeBuilder
  | find
  | findIds
  | count
  | describe
  | closePlan
  | beginTx (mode : TxMode)
  | endTx
  | openCursor (entity : EntityId)
  | closeCursor
  | body

/-- The piece of a plan that a call carries out. -/
def Call.task : Call E → Task
  | newBuilder e => .newBuilder e
  | register _ p => .register p.comparison
  | combine _ j _ => .combine j
  | compile _ => .compile
  | closeBuilder _ => .closeBuilder
  | find .. => .find
  | findIds .. => .findIds
  | count .. => .count
  | describe _ => .describe
  | closePlan _ => .closePlan
  | beginTx mode => .beginTx mode
  | endTx _ => .endTx
  | openCursor _ e => .openCursor e
  | closeCursor _ => .closeCursor

namespace Happening

/-- How it failed, if it did. -/
def failure? : Happening E → Option Error
  | call ev => EntityQuery.failure? ev.outcome
  | decoding f | body f => f

/-- The engine call, if this is one. -/
def event? : Happening E → Option (Event E)
  | call ev => some ev
  | _ => none

/-- The planned piece that this is. Decodings are not planned: there are as many as records. -/
def task? : Happening E → Option Task
  | call ev => some ev.call.task
  | decoding _ => none
  | body _ => some .body

end Happening

/-- The engine calls of a chronicle. -/
def calls (tr : List (Happening E)) : List (Event E) :=
  tr.filterMap Happening.event?

/-- What is done of a plan in a chronicle. -/
def tasks (tr : List (Happening E)) : List Task :=
  tr.filterMap Happening.task?

/-- The calls of two chronicles in a row are those of the one and those of the other. -/
@[simp]
theorem calls_append (tr tr' : List (Happening E)) : calls (tr ++ tr') = calls tr ++ calls tr' :=
  List.filterMap_append

/-- What two chronicles in a row do of a plan is what each of them does. -/
@[simp]
theorem tasks_append (tr tr' : List (Happening E)) : tasks (tr ++ tr') = tasks tr ++ tasks tr' :=
  List.filterMap_append

@[simp]
theorem calls_map_call (evs : List (Event E)) : calls (evs.map .call) = evs := by
  rw [calls, List.filterMap_map]
  exact List.filterMap_some

/-- How a call has to go that starts with some handles held. The handles in `base` are not its own
to give back: it leaves them as they are if it fails. -/
inductive Law (start base : List (Handle E)) (planned : List Task) (finish : α → List (Handle E)) :
    Except Error α → List (Happening E) → Prop where
  | fine {a : α} {tr : List (Happening E)} (hfine : ∀ x ∈ tr, x.failure? = none)
    (hplanned : tasks tr = planned) (haccounts : Accounts start (calls tr) (finish a)) :
    Law start base planned finish (.ok a) tr
  | failed {e : Error} {before : List (Happening E)} {x : Happening E} {after : List (Event E)}
    {own : List (Handle E)} (hfine : ∀ y ∈ before, y.failure? = none) (hfails : x.failure? = some e)
    (hplanned : tasks (before ++ [x]) <+: planned)
    (haccounts : Accounts start (calls (before ++ [x])) (own ++ base))
    (hreleases : after.map (·.call) = own.map Handle.release) :
    Law start base planned finish (.error e) (before ++ x :: after.map .call)

/-- The handles that are held after a call that goes by the law. -/
def heldAfter (base : List (Handle E)) (finish : α → List (Handle E)) :
    Except Error α → List (Handle E)
  | .ok a => finish a
  | .error _ => base

namespace Law

variable {start base held : List (Handle E)} {planned planned' : List Task}
  {finish : α → List (Handle E)} {finish' : β → List (Handle E)} {tr tr' : List (Happening E)}

/-- A call fails exactly if something fails in it, and then with the error of what failed first. -/
theorem failure?_eq {outcome : Except Error α} (h : Law start base planned finish outcome tr) :
    failure? outcome = tr.findSome? Happening.failure? := by
  cases h with
  | fine hfine => exact (List.findSome?_eq_none_iff.mpr hfine).symm
  | failed hfine hfails =>
    rw [List.findSome?_append, List.findSome?_eq_none_iff.mpr hfine, List.findSome?_cons, hfails]
    rfl

/-- However a call ends, it accounts for the handles that it moves. -/
theorem accounts {outcome : Except Error α} (h : Law start base planned finish outcome tr) :
    Accounts start (calls tr) (heldAfter base finish outcome) := by
  cases h with
  | fine _ _ haccounts => exact haccounts
  | @failed e before x after own _ _ _ haccounts hreleases =>
    -- after the failure nothing is done but to give back the handles that are the call's own
    have hsplit : calls (before ++ x :: after.map .call) = calls (before ++ [x]) ++ after := by
      rw [List.append_cons, calls_append, calls_map_call]
    rw [hsplit]
    exact haccounts.append (.releases hreleases)

/-! ## Single happenings

What a single call does is known from the handles that it moves. Giving back is the exception: it
takes its handle away even if it fails, so its law starts from one handle more than it ends with. -/

/-- A chronicle whose last happening fails, when nothing is left to give back. -/
theorem failedLast {e : Error} {before : List (Happening E)} {x : Happening E}
    (hfine : ∀ y ∈ before, y.failure? = none) (hfails : x.failure? = some e)
    (hplanned : tasks (before ++ [x]) <+: planned)
    (haccounts : Accounts start (calls (before ++ [x])) base) :
    Law start base planned finish (.error e) (before ++ [x]) := by
  have hreleases : ([] : List (Event E)).map (·.call) = ([] : List (Handle E)).map Handle.release :=
    rfl
  exact .failed hfine hfails hplanned haccounts hreleases

/-- A single happening goes by the law if it does its piece of the plan and moves the handles that
its outcome says. -/
theorem single {x : Happening E} {outcome : Except Error α} (hx : x.failure? = failure? outcome)
    (hplanned : tasks [x] = planned)
    (haccounts : Accounts start (calls [x]) (heldAfter base finish outcome)) :
    Law start base planned finish outcome [x] := by
  cases outcome with
  | ok a => exact .fine (List.forall_mem_singleton.mpr hx) hplanned haccounts
  | error e =>
    have hnone : ∀ y ∈ ([] : List (Happening E)), y.failure? = none := List.forall_mem_nil _
    have hbegins : tasks ([] ++ [x]) <+: planned := hplanned ▸ List.prefix_refl (tasks [x])
    exact failedLast hnone hx hbegins haccounts

/-- A call that gives nothing back goes by the law wherever the handles that it works with are held.
-/
theorem one {c : Call E} {outcome : Except Error c.Result} (hcall : c.released? = none)
    (huses : ∀ h ∈ c.uses, h ∈ held) :
    Law held held [c.task] (fun a => c.acquired a ++ held) outcome [.call ⟨c, outcome⟩] := by
  have hmoves : (⟨c, outcome⟩ : Event E).Moves held _ := .use hcall huses
  refine single rfl rfl (.single ?_)
  -- a call that fails acquires nothing
  cases outcome <;> exact hmoves

/-- Giving back the newest handle goes by the law, whether it fails or not. -/
theorem give {h : Handle E} {released : Except Error h.release.Result}
    {outcome : Except Error α} (houtcome : failure? released = failure? outcome) :
    Law (h :: held) held [h.release.task] (fun _ => held) outcome
      [.call ⟨h.release, released⟩] := by
  have hmoves : (⟨h.release, released⟩ : Event E).Moves ([] ++ h :: held) ([] ++ held) :=
    .release (Call.released?_release h)
  refine single houtcome rfl (.single ?_)
  cases outcome <;> exact hmoves

/-- Giving back a handle from under the newest one. -/
theorem giveUnder {h top : Handle E} {released : Except Error h.release.Result} {a : α}
    (hreleased : failure? released = none) (hfinish : finish a = top :: held) :
    Law (top :: h :: held) base [h.release.task] finish (.ok a)
      [.call ⟨h.release, released⟩] := by
  have hmoves : (⟨h.release, released⟩ : Event E).Moves ([top] ++ h :: held) ([top] ++ held) :=
    .release (Call.released?_release h)
  refine single hreleased rfl (.single ?_)
  rw [heldAfter, hfinish]
  exact hmoves

/-- If that fails, the newest one is given back as well. -/
theorem giveUnder_failed {h top : Handle E} {released : Except Error h.release.Result}
    {released' : Except Error top.release.Result} {e : Error}
    (hreleased : failure? released = some e) :
    Law (top :: h :: held) held [h.release.task] finish (.error e)
      [.call ⟨h.release, released⟩, .call ⟨top.release, released'⟩] := by
  have hmoves : (⟨h.release, released⟩ : Event E).Moves ([top] ++ h :: held) ([top] ++ held) :=
    .release (Call.released?_release h)
  have hnone : ∀ y ∈ ([] : List (Happening E)), y.failure? = none := List.forall_mem_nil _
  have hfails : (.call ⟨h.release, released⟩ : Happening E).failure? = some e := hreleased
  have hreleases : [(⟨top.release, released'⟩ : Event E)].map (·.call) = [top].map Handle.release :=
    rfl
  exact .failed hnone hfails (List.prefix_refl _) (.single hmoves) hreleases

/-- The work of a caller goes by the law. It moves none of the handles that the call holds. -/
theorem body {outcome : Except Error α} :
    Law held held [.body] (fun _ => held) outcome
      [(.body (EntityQuery.failure? outcome) : Happening E)] := by
  refine single rfl rfl ?_
  cases outcome <;> exact .nil held

/-! ## Pieces put together

Two pieces in a row have the plans of both, and the second is reached only if the first went
through. So at most one of them holds the first failure, and whatever is given back after it is
given back at the end of the two. -/

/-- What is fine goes on with what comes after it. -/
theorem andThen {other : List (Handle E)} {a : α} {outcome : Except Error β}
    (h : Law start other planned finish (.ok a) tr)
    (hnext : Law (finish a) base planned' finish' outcome tr') :
    Law start base (planned ++ planned') finish' outcome (tr ++ tr') := by
  obtain ⟨hfine, rfl, haccounts⟩ := h
  -- only the second piece can have failed
  cases hnext with
  | fine hfine' hplanned haccounts' =>
    refine .fine (List.forall_mem_append.mpr ⟨hfine, hfine'⟩) ?_ ?_
    · rw [tasks_append, hplanned]
    · rw [calls_append]
      exact haccounts.append haccounts'
  | failed hfine' hfails hplanned haccounts' hreleases =>
    rw [← List.append_assoc]
    refine .failed (List.forall_mem_append.mpr ⟨hfine, hfine'⟩) hfails ?_ ?_ hreleases
    · rw [List.append_assoc, tasks_append]
      exact (List.prefix_append_right_inj _).mpr hplanned
    · rw [List.append_assoc, calls_append]
      exact haccounts.append haccounts'

/-- What failed is the end of whatever was planned after it. -/
theorem stop {e : Error} (h : Law start base planned finish (.error e) tr) :
    Law start base (planned ++ planned') finish' (.error e) tr := by
  obtain _ | ⟨hfine, hfails, hbegins, haccounts, hreleases⟩ := h
  exact .failed hfine hfails (hbegins.trans (List.prefix_append _ _)) haccounts hreleases

/-- What is made of an answer afterwards makes no difference to the law. -/
theorem map {outcome : Except Error α} {f : α → β}
    (h : Law start base planned finish outcome tr) (hfinish : ∀ a, finish' (f a) = finish a) :
    Law start base planned finish' (outcome.map f) tr := by
  cases h with
  | @fine a _ hfine hplanned haccounts => exact .fine hfine hplanned (hfinish a ▸ haccounts)
  | failed hfine hfails hplanned haccounts hreleases =>
    exact .failed hfine hfails hplanned haccounts hreleases

/-- A call that failed acquired nothing, so what it would have left does not matter. -/
theorem of_error {e : Error} (h : Law start base planned finish (.error e) tr) :
    Law start base planned finish' (.error e) tr := by
  obtain _ | ⟨hfine, hfails, hplanned, haccounts, hreleases⟩ := h
  exact .failed hfine hfails hplanned haccounts hreleases

/-- Giving back the handle that a piece ran under comes last, and fails the whole only if nothing
failed before. -/
theorem bracket {h : Handle E} {outcome : Except Error α} {released : Except Error h.release.Result}
    {r : Except Error Unit} (hr : failure? released = failure? r)
    (hbody : Law (h :: held) (h :: held) planned (fun _ => h :: held) outcome tr) :
    Law (h :: held) held (planned ++ [h.release.task]) (fun _ => held) (Action.settle outcome r)
      (tr ++ [.call ⟨h.release, released⟩]) := by
  -- whether the piece failed decides what giving the handle back is: one more planned call, or the
  -- last of the releases
  cases hbody with
  | @fine a _ hfine hplanned haccounts =>
    have hgive : failure? released = failure? (Action.settle (.ok a : Except Error α) r) := by
      rw [hr]
      cases r <;> rfl
    -- nothing failed, so giving the handle back is one more task
    have hlaw : Law (h :: held) held planned (fun _ : α => h :: held) (.ok a) tr :=
      .fine hfine hplanned haccounts
    exact hlaw.andThen (give hgive)
  | @failed e before x after own hfine hfails hplanned haccounts hreleases =>
    -- the handle is the oldest of those that are given back
    have haccounts' : Accounts (h :: held) (calls (before ++ [x])) ((own ++ [h]) ++ held) := by
      rw [List.append_assoc]
      exact haccounts
    have hreleases' : (after ++ [(⟨h.release, released⟩ : Event E)]).map (·.call) =
        (own ++ [h]).map Handle.release := by
      rw [List.map_append, List.map_append, hreleases]
      rfl
    have hlaw : Law (h :: held) held (planned ++ [h.release.task]) (fun _ : α => held)
        (.error e) _ :=
      .failed hfine hfails (hplanned.trans (List.prefix_append _ _)) haccounts' hreleases'
    rw [List.map_append, ← List.cons_append, ← List.append_assoc] at hlaw
    exact hlaw

end Law

end EntityQuery
