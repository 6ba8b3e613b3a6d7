import EntityQuery.Error

/-!
# Actions that may fail

An action changes a state and either gives a result or fails with an error. A failed action keeps
the changes it made before it failed.

* `Action.ofQuestion` makes an action of a question that changes nothing, `modifyGet` of a change
  that always goes through. What an action is to check, it asks before it changes anything.
* `Action.thenRelease` runs a release after an action however the action ends. A failure of the
  action itself is the one that is reported.
* The `run_…` lemmas say what running each of them gives.
* `Action.Leads` and `Action.Acquires` are pre- and postconditions of an action.
* `Action.Atomic` says that a failure changes nothing, which holds of what asks first and changes
  afterwards.
-/

namespace EntityQuery

/-- A step on a state that may fail. -/
abbrev Action (σ α : Type) : Type :=
  ExceptT Error (StateM σ) α

namespace Action

variable {σ τ α β : Type}

/-- The action that a function from states is. -/
def ofFun (f : σ → Except Error α × σ) : Action σ α :=
  f

def run (act : Action σ α) (s : σ) : Except Error α × σ :=
  act s

/-- A question about the state that does not change it. -/
def ofQuestion (question : σ → Except Error α) : Action σ α :=
  ofFun fun s => (question s, s)

/-- Runs an action and hands over its outcome instead of failing. -/
def attempt (act : Action σ α) : Action σ (Except Error α) :=
  ofFun fun s =>
    let (outcome, s) := act.run s
    (.ok outcome, s)

/-- Runs a release after an action, whether it failed or not. The action's own error is reported
before an error of the release. -/
def thenRelease (act : Action σ α) (release : Action σ Unit) : Action σ α := do
  let outcome ← act.attempt
  let released ← release.attempt
  match outcome, released with
  | .ok a, .ok () => return a
  | .ok _, .error e => throw e
  | .error e, _ => throw e

def onFirst (act : Action σ α) : Action (σ × τ) α :=
  ofFun fun (s, t) =>
    let (outcome, s) := act.run s
    (outcome, (s, t))

/-! ## Runs -/

@[simp]
theorem run_pure (a : α) (s : σ) : (pure a : Action σ α).run s = (.ok a, s) :=
  rfl

@[simp]
theorem run_throw (e : Error) (s : σ) : (throw e : Action σ α).run s = (.error e, s) :=
  rfl

@[simp]
theorem run_get (s : σ) : (get : Action σ σ).run s = (.ok s, s) :=
  rfl

@[simp]
theorem run_modify (f : σ → σ) (s : σ) : (modify f : Action σ PUnit).run s = (.ok ⟨⟩, f s) :=
  rfl

@[simp]
theorem run_modifyGet (f : σ → α × σ) (s : σ) :
    (modifyGet f : Action σ α).run s = (.ok (f s).1, (f s).2) :=
  rfl

@[simp]
theorem run_ofExcept (r : Except Error α) (s : σ) :
    (MonadExcept.ofExcept r : Action σ α).run s = (r, s) := by
  cases r <;> rfl

@[simp]
theorem run_ofFun (f : σ → Except Error α × σ) (s : σ) : (ofFun f).run s = f s :=
  rfl

@[simp]
theorem run_ofQuestion (question : σ → Except Error α) (s : σ) :
    (ofQuestion question).run s = (question s, s) :=
  rfl

/-- The second action runs only if the first one succeeds, and goes on from where it ended. -/
theorem run_bind (act : Action σ α) (next : α → Action σ β) (s : σ) :
    (act >>= next).run s =
      match act.run s with
      | (.ok a, s') => (next a).run s'
      | (.error e, s') => (.error e, s') := by
  show (ExceptT.bindCont next (act s).1) (act s).2 = match act s with
      | (.ok a, s') => (next a).run s'
      | (.error e, s') => (.error e, s')
  rcases act s with ⟨_ | _, s'⟩ <;> rfl

@[simp]
theorem run_attempt (act : Action σ α) (s : σ) :
    act.attempt.run s = (.ok (act.run s).1, (act.run s).2) :=
  rfl

@[simp]
theorem run_onFirst (act : Action σ α) (s : σ) (t : τ) :
    (act.onFirst : Action (σ × τ) α).run (s, t) = ((act.run s).1, (act.run s).2, t) :=
  rfl

/-- The outcome of an action that a release followed: of two errors the earlier one. -/
def settle : Except Error α → Except Error Unit → Except Error α
  | .ok a, .ok () => .ok a
  | .ok _, .error e => .error e
  | .error e, _ => .error e

theorem run_thenRelease (act : Action σ α) (release : Action σ Unit) (s : σ) :
    (act.thenRelease release).run s =
      (settle (act.run s).1 (release.run (act.run s).2).1, (release.run (act.run s).2).2) := by
  simp only [thenRelease, run_bind, run_attempt]
  rcases act.run s with ⟨_ | _, s'⟩ <;> simp only <;>
    rcases release.run s' with ⟨_ | _, s''⟩ <;> rfl

/-! ## Pre- and postconditions -/

section

variable {P Q R : σ → Prop} {act : Action σ α}

/-- From a state of `P` the action ends in a state of `Q`, whether it fails or not. -/
def Leads (act : Action σ α) (P Q : σ → Prop) : Prop :=
  ∀ s, P s → Q (act.run s).2

/-- From a state of `P` the action gives something to go on with, or fails and stays in `P`. -/
def Acquires (act : Action σ α) (P : σ → Prop) (Q : α → σ → Prop) : Prop :=
  ∀ s, P s → match act.run s with
    | (.ok a, s') => Q a s'
    | (.error _, s') => P s'

theorem Leads.thenRelease {release : Action σ Unit} (h : act.Leads P Q)
    (hrelease : release.Leads Q R) : (act.thenRelease release).Leads P R := by
  intro s hs
  rw [run_thenRelease]
  exact hrelease _ (h s hs)

theorem Acquires.bind {Q : α → σ → Prop} {next : α → Action σ β} (h : act.Acquires P Q)
    (hnext : ∀ a, (next a).Leads (Q a) P) : (act >>= next).Leads P P := by
  intro s hs
  have hact := h s hs
  rw [run_bind]
  generalize act.run s = r at hact ⊢
  rcases r with ⟨e | a, s'⟩
  · exact hact
  · exact hnext a s' hact

theorem Acquires.map {Q : β → σ → Prop} {f : α → β} (h : act.Acquires P fun a => Q (f a)) :
    (act >>= fun a => pure (f a)).Acquires P Q := by
  intro s hs
  have hact := h s hs
  rw [run_bind]
  generalize act.run s = r at hact ⊢
  rcases r with ⟨e | a, s'⟩ <;> exact hact

theorem Leads.acquires (h : act.Leads P P) : act.Acquires P fun _ => P := by
  intro s hs
  have hleads := h s hs
  split <;> rename_i hrun <;> rwa [hrun] at hleads

theorem Leads.bind {next : α → Action σ β} (h : act.Leads P P)
    (hnext : ∀ a, (next a).Leads P P) : (act >>= next).Leads P P :=
  h.acquires.bind hnext

theorem leads_modifyGet {f : σ → α × σ} (h : ∀ s, P s → Q (f s).2) :
    (modifyGet f : Action σ α).Leads P Q :=
  h

/-- A question may come before anything that stays in `P`. -/
theorem Leads.question_bind {question : σ → Except Error α} {next : α → Action σ β}
    (hnext : ∀ a, (next a).Leads P P) : (ofQuestion question >>= next).Leads P P :=
  Leads.bind (fun _ hs => hs) hnext

end

/-! ## Failures that change nothing

An action that asks all its questions before its first change leaves the state alone when one of
them is answered with an error. The two `bind` lemmas take such an action apart: questions at the
front (`Atomic.question_bind`), a change that cannot fail at the end (`Atomic.bind_modifyGet`). -/

/-- If the action fails, the state is as it was before. -/
def Atomic (act : Action σ α) : Prop :=
  ∀ s err, (act.run s).1 = .error err → (act.run s).2 = s

theorem atomic_of_ok {act : Action σ α} (h : ∀ s, ∃ a, (act.run s).1 = .ok a) : act.Atomic := by
  intro s err herr
  obtain ⟨a, ha⟩ := h s
  rw [ha] at herr
  cases herr

theorem atomic_ofQuestion (question : σ → Except Error α) : (ofQuestion question).Atomic :=
  fun _ _ _ => rfl

theorem atomic_modifyGet (f : σ → α × σ) : (modifyGet f : Action σ α).Atomic :=
  atomic_of_ok fun s => ⟨(f s).1, rfl⟩

theorem atomic_modify (f : σ → σ) : (modify f : Action σ PUnit).Atomic :=
  atomic_of_ok fun _ => ⟨⟨⟩, rfl⟩

/-- A question may come before anything that is atomic. -/
theorem Atomic.question_bind {question : σ → Except Error α} {next : α → Action σ β}
    (h : ∀ a, (next a).Atomic) : (ofQuestion question >>= next).Atomic := by
  intro s err
  rw [run_bind, run_ofQuestion]
  cases question s with
  | error e => exact fun _ => rfl
  | ok a => exact h a s err

/-- A change that cannot fail may come after anything that is atomic. -/
theorem Atomic.bind_modifyGet {act : Action σ α} {f : α → σ → β × σ} (h : act.Atomic) :
    (act >>= fun a => modifyGet (f a)).Atomic := by
  intro s err
  have hact := h s
  rw [run_bind]
  generalize act.run s = ran at hact ⊢
  obtain ⟨e | a, s'⟩ := ran
  · exact fun _ => hact e rfl
  · exact fun herr => by cases herr

end Action

end EntityQuery
