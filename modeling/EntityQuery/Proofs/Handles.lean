import EntityQuery.Spied

/-!
# Handles and the calls that move them

Every handle is acquired by one call and given back by another. `Event.Moves` says what one call
does to the handles that are held, and `Accounts` follows a whole list of calls. A call is made only
with handles that are held, and a release takes its handle away whether it fails or not, so a list
of calls that accounts for its handles gives none back twice.

`Follows` says that one state under observation comes after another by calls past the spy, and
which.
-/

namespace EntityQuery

variable {σ : Type} {E : Engine σ}

/-- Something that an engine gave out and wants back. -/
inductive Handle (E : Engine σ) where
  | builder (b : E.Builder)
  | plan (p : E.Plan)
  | tx (t : E.Tx)
  | cursor (k : E.Cursor)

namespace Handle

/-- The call that gives a handle back. -/
def release : Handle E → Call E
  | builder b => .closeBuilder b
  | plan p => .closePlan p
  | tx t => .endTx t
  | cursor k => .closeCursor k

end Handle

namespace Call

/-- The handle that a call gives back, if it gives one back. -/
def released? : Call E → Option (Handle E)
  | closeBuilder b => some (.builder b)
  | closePlan p => some (.plan p)
  | endTx t => some (.tx t)
  | closeCursor k => some (.cursor k)
  | _ => none

/-- The handles that the call works with and leaves with its caller. -/
def uses : Call E → List (Handle E)
  | register b _ | combine b _ _ | compile b => [.builder b]
  | find p k | findIds p k | count p k => [.plan p, .cursor k]
  | describe p => [.plan p]
  | openCursor t _ => [.tx t]
  | _ => []

/-- The handles that a call gives to its caller when it is answered. -/
def acquired : (c : Call E) → c.Result → List (Handle E)
  | newBuilder _, b => [.builder b]
  | compile _, p => [.plan p]
  | beginTx _, t => [.tx t]
  | openCursor .., k => [.cursor k]
  | _, _ => []

/-- The call finds records, which are then decoded. -/
def finds : Call E → Bool
  | find .. => true
  | _ => false

/-- The call that gives a handle back gives that handle back. -/
@[simp]
theorem released?_release (h : Handle E) : h.release.released? = some h := by
  cases h <;> rfl

/-- No other call gives the handle back. -/
theorem eq_release_of_released? {c : Call E} {h : Handle E} (hc : c.released? = some h) :
    c = h.release := by
  cases c <;> cases hc <;> rfl

/-- The calls that are made in spite of a fault are those that give a handle back. -/
theorem isRelease_eq (c : Call E) : c.isRelease = c.released?.isSome := by
  cases c <;> rfl

end Call

/-- The error of an outcome. -/
def failure? {α : Type} : Except Error α → Option Error
  | .ok _ => none
  | .error e => some e

namespace Event

/-- The handles that a call gave. A call that failed gave none. -/
def acquired (ev : Event E) : List (Handle E) :=
  match ev.outcome with
  | .ok a => ev.call.acquired a
  | .error _ => []

/-- What a call does to the handles that are held, the newest first. -/
inductive Moves (ev : Event E) : List (Handle E) → List (Handle E) → Prop where
  | release {h : Handle E} {newer older : List (Handle E)} (hcall : ev.call.released? = some h) :
    Moves ev (newer ++ h :: older) (newer ++ older)
  | use {held : List (Handle E)} (hcall : ev.call.released? = none)
    (huses : ∀ h ∈ ev.call.uses, h ∈ held) : Moves ev held (ev.acquired ++ held)

end Event

/-- Some calls account for the handles that they start from and the handles that they leave. -/
inductive Accounts : List (Handle E) → List (Event E) → List (Handle E) → Prop where
  | nil (held : List (Handle E)) : Accounts held [] held
  | cons {ev : Event E} {evs : List (Event E)} {held held' held'' : List (Handle E)}
    (hmoves : ev.Moves held held') (hrest : Accounts held' evs held'') :
    Accounts held (ev :: evs) held''

namespace Accounts

variable {held held' held'' : List (Handle E)} {evs evs' : List (Event E)}

theorem single {ev : Event E} (h : ev.Moves held held') : Accounts held [ev] held' :=
  .cons h (.nil _)

/-- Calls that start from what other calls leave account for the two together. -/
theorem append (h : Accounts held evs held') (h' : Accounts held' evs' held'') :
    Accounts held (evs ++ evs') held'' := by
  induction h with
  | nil => exact h'
  | cons hmoves _ ih => exact .cons hmoves (ih h')

/-- Giving back the newest handles one by one leaves the older ones. -/
theorem releases {newer older : List (Handle E)}
    (h : evs.map (·.call) = newer.map Handle.release) : Accounts (newer ++ older) evs older := by
  -- the newest handle is given back first
  induction newer generalizing evs with
  | nil =>
    rw [List.map_nil, List.map_eq_nil_iff] at h
    exact h ▸ .nil _
  | cons x newer ih =>
    obtain ⟨ev, rest, rfl, hev, hrest⟩ := List.map_eq_cons_iff.mp h
    have hcall : ev.call.released? = some x := by
      rw [hev, Call.released?_release]
    -- the handle that is given back next is the newest, so none is held above it
    have hmoves : ev.Moves ([] ++ x :: (newer ++ older)) ([] ++ (newer ++ older)) :=
      .release hcall
    exact .cons hmoves (ih hrest)

end Accounts

/-! ## Observed runs

A spy passes calls on to an engine and writes them down. It can be told to let some fail: a call
that acquires or asks is then not made at all, while a release is made and its answer is replaced.
-/

namespace Spied

/-- A call that gives nothing back does not happen if it is made to fail. -/
theorem outcomeOf_use {c : Call E} (hc : c.released? = none) (faults : List String) (s : σ) :
    outcomeOf faults c s =
      if faults.contains c.name then (.error c.injected, s) else c.perform.run s := by
  simp [outcomeOf, Call.isRelease_eq, hc]

/-- A release happens whether it is made to fail or not. -/
theorem outcomeOf_release (h : Handle E) (faults : List String) (s : σ) :
    outcomeOf faults h.release s =
      (if faults.contains h.release.name then .error h.release.injected
        else (h.release.perform.run s).1, (h.release.perform.run s).2) := by
  unfold outcomeOf
  split <;> simp [Call.isRelease_eq]

/-- A call past the spy does its work, if it does any, and is written down with its answer. -/
theorem run_call (c : Call E) (s : Spied E) :
    (call c).run s = ((outcomeOf s.faults c s.inner).1,
      { s with
        inner := (outcomeOf s.faults c s.inner).2
        events := s.events ++ [⟨c, (outcomeOf s.faults c s.inner).1⟩] }) :=
  rfl

end Spied

/-- The second state comes after the first one by some calls past the spy, and nothing else. -/
inductive Follows : Spied E → List (Event E) → Spied E → Prop where
  | refl (s : Spied E) : Follows s [] s
  | call (c : Call E) {s s' : Spied E} {evs : List (Event E)}
    (h : Follows ((Spied.call c).run s).2 evs s') :
    Follows s (⟨c, ((Spied.call c).run s).1⟩ :: evs) s'

namespace Follows

variable {s s' s'' : Spied E} {evs evs' : List (Event E)}

theorem single (c : Call E) (s : Spied E) :
    Follows s [⟨c, ((Spied.call c).run s).1⟩] ((Spied.call c).run s).2 :=
  .call c (.refl _)

theorem trans (h : Follows s evs s') (h' : Follows s' evs' s'') : Follows s (evs ++ evs') s'' := by
  induction h with
  | refl => exact h'
  | call c _ ih => exact .call c (ih h')

/-- The journal of the spy grows by exactly the calls that were made. -/
theorem events_eq (h : Follows s evs s') : s'.events = s.events ++ evs := by
  induction h with
  | refl => rw [List.append_nil]
  | call c _ ih =>
    rw [ih, Spied.run_call]
    simp

end Follows

end EntityQuery
