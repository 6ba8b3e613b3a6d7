import EntityQuery.Proofs.Handles

/-!
# Two runs at once

Two actions are twins if they end alike from states that are related: both succeed or both fail,
with results, errors and states that are related again (`Action.Twin`). The relation may say more of
the two states while handles are held, which are not the same in both runs.

* `Action.Twin.bind` and `Action.Twin.thenRelease` go through sequences and releases.
* `Spied.twin_use` and `Spied.twin_release` take twins past the spy, where calls of one name are
  made to fail in both runs.
-/

namespace EntityQuery

variable {σ α α' β β' : Type} {alike : Error → Error → Prop}

/-- Both runs succeed, or both fail. -/
inductive EndAlike (alike : Error → Error → Prop) (Q : α → α' → σ → σ → Prop) (F : σ → σ → Prop) :
    Except Error α × σ → Except Error α' × σ → Prop where
  | ok {a : α} {a' : α'} {s s' : σ} (h : Q a a' s s') : EndAlike alike Q F (.ok a, s) (.ok a', s')
  | error {e e' : Error} {s s' : σ} (he : alike e e') (h : F s s') :
    EndAlike alike Q F (.error e, s) (.error e', s')

/-- Both runs gave the same, and the states are related. -/
def Same (R : σ → σ → Prop) (a a' : α) (s s' : σ) : Prop :=
  a = a' ∧ R s s'

theorem EndAlike.same (halike : ∀ e, alike e e) (outcome : Except Error α) {R : σ → σ → Prop}
    {s s' : σ} (h : R s s') : EndAlike alike (Same R) R (outcome, s) (outcome, s') := by
  cases outcome with
  | error e => exact .error (halike e) h
  | ok a => exact .ok ⟨rfl, h⟩

namespace Action

/-- From states of `P` both actions succeed and end in states of `Q`, or both fail and end in states
of `F`. -/
def Twin (alike : Error → Error → Prop) (P : σ → σ → Prop) (Q : α → α' → σ → σ → Prop)
    (F : σ → σ → Prop) (act : Action σ α) (act' : Action σ α') : Prop :=
  ∀ s s', P s s' → EndAlike alike Q F (act.run s) (act'.run s')

variable {P F H : σ → σ → Prop} {Q : α → α' → σ → σ → Prop} {R : β → β' → σ → σ → Prop}
  {act : Action σ α} {act' : Action σ α'}

/-- Two answers without a call are twins if they are what is asked for. -/
theorem twin_pure {a : α} {a' : α'} (h : ∀ s s', P s s' → Q a a' s s') :
    Twin alike P Q F (pure a) (pure a') :=
  fun s s' hs => .ok (h s s' hs)

/-- Twins are twins for whatever follows from how they end. -/
theorem Twin.weaken {Q' : α → α' → σ → σ → Prop} {F' : σ → σ → Prop}
    (h : Twin alike P Q F act act') (hQ : ∀ a a' s s', Q a a' s s' → Q' a a' s s')
    (hF : ∀ s s', F s s' → F' s s') : Twin alike P Q' F' act act' := by
  intro s s' hs
  have hends := h s s' hs
  generalize act.run s = r at hends ⊢
  generalize act'.run s' = r' at hends ⊢
  cases hends with
  | ok h => exact .ok (hQ _ _ _ _ h)
  | error he h => exact .error he (hF _ _ h)

/-- Two pairs of twins, one after the other, are twins. -/
theorem Twin.bind {next : α → Action σ β} {next' : α' → Action σ β'} (h : Twin alike P Q F act act')
    (hnext : ∀ a a', Twin alike (Q a a') R F (next a) (next' a')) :
    Twin alike P R F (act >>= next) (act' >>= next') := by
  intro s s' hs
  have hends := h s s' hs
  rw [run_bind, run_bind]
  generalize act.run s = r at hends ⊢
  generalize act'.run s' = r' at hends ⊢
  -- either both runs go on with the second action or both have ended
  cases hends with
  | ok hQ => exact hnext _ _ _ _ hQ
  | error he hF => exact .error he hF

/-- Outcomes that are handed over are alike, as the ends of the actions were. -/
theorem Twin.attempt (h : Twin alike P Q F act act') :
    Twin alike P (fun outcome outcome' s s' => EndAlike alike Q F (outcome, s) (outcome', s')) H
      act.attempt act'.attempt := by
  intro s s' hs
  rw [run_attempt, run_attempt]
  exact .ok (h s s' hs)

/-- What is thrown afterwards is thrown however the actions ended. -/
theorem Twin.thenThrow {e e' : Error} (h : Twin alike P (fun _ _ => F) F act act')
    (he : alike e e') : Twin alike P R F (act.attempt >>= fun _ => throw e)
      (act'.attempt >>= fun _ => throw e') := by
  refine h.attempt.bind fun outcome outcome' => ?_
  intro s s' hends
  cases hends with
  | ok hF => exact .error he hF
  | error _ hF => exact .error he hF

/-- What is reported is what the actions gave, and else how the releases failed. -/
theorem Twin.thenRelease {act act' : Action σ α} {release release' : Action σ Unit}
    (h : Twin alike P (Same H) H act act')
    (hrelease : Twin alike H (fun _ _ => F) F release release') :
    Twin alike P (Same F) F (act.thenRelease release) (act'.thenRelease release') := by
  refine h.attempt.bind fun outcome outcome' => ?_
  intro s s' hends
  cases hends with
  | ok hQ =>
    -- the answers are the same, so only how the releases end is still open
    refine (hrelease.attempt.bind fun released released' => ?_) s s' hQ.2
    intro t t' hreleased
    cases hreleased with
    | ok hF => exact .ok ⟨hQ.1, hF⟩
    | error he hF => exact .error he hF
  | error he hH =>
    -- how the release ends is not reported
    exact hrelease.thenThrow he s s' hH

end Action

/-! ## Past the spy

The spy looks at the name of a call to see whether it is made to fail, and at nothing else. So two
calls of one name, with handles of their own, fail together, if the same calls are made to fail in
both runs. -/

namespace Spied

open EntityQuery.Action

variable {E : Engine σ} {P F : σ → σ → Prop}

/-- Two observed states in which the same calls are made to fail. -/
def Over (R : σ → σ → Prop) (s s' : Spied E) : Prop :=
  (∀ name, name ∈ s'.faults ↔ name ∈ s.faults) ∧ R s.inner s'.inner

/-- Answers that are the same, in stores that are related, past the spy. -/
theorem Over.same {R : σ → σ → Prop} {a a' : α} {s s' : Spied E} (h : Over (Same R a a') s s') :
    Same (Over R) a a' s s' :=
  ⟨h.2.1, h.1, h.2.2⟩

variable (c c' : Call E) {Q : c.Result → c'.Result → σ → σ → Prop} (hname : c'.name = c.name)
  (hinjected : c'.injected = c.injected)

include hname hinjected

/-- A call that gives nothing back is made to fail in both runs or in none, and has no effect if it
is. -/
theorem twin_use (hc : c.isRelease = false) (hc' : c'.isRelease = false) (halike : ∀ e, alike e e)
    (h : Twin alike P Q P c.perform c'.perform) :
    Twin alike (Over P) (fun a a' => Over (Q a a')) (Over P) (call c) (call c') := by
  rintro s s' ⟨hfaults, hP⟩
  rw [run_call, run_call, outcomeOf, outcomeOf, hc, hc', hname, hinjected]
  -- a call that is made to fail does not reach the store
  by_cases hfault : c.name ∈ s.faults
  · have hfault' : c.name ∈ s'.faults := (hfaults _).mpr hfault
    simp only [List.contains_iff_mem, hfault, hfault', if_true]
    exact .error (halike _) ⟨hfaults, hP⟩
  · have hfault' : c.name ∉ s'.faults := mt (hfaults _).mp hfault
    simp only [List.contains_iff_mem, hfault, hfault', if_false]
    have hends := h _ _ hP
    generalize c.perform.run s.inner = r at hends ⊢
    generalize c'.perform.run s'.inner = r' at hends ⊢
    cases hends with
    | ok hQ => exact .ok ⟨hfaults, hQ⟩
    | error he hP => exact .error he ⟨hfaults, hP⟩

/-- A release that is made to fail gives its handle back all the same. -/
theorem twin_release (hc : c.isRelease = true) (hc' : c'.isRelease = true)
    (halike : ∀ e, alike e e) (h : Twin alike P (fun _ _ => F) F c.perform c'.perform) :
    Twin alike (Over P) (fun _ _ => Over F) (Over F) (call c) (call c') := by
  rintro s s' ⟨hfaults, hP⟩
  rw [run_call, run_call, outcomeOf, outcomeOf, hc, hc', hname, hinjected]
  have hends := h _ _ hP
  generalize c.perform.run s.inner = r at hends ⊢
  generalize c'.perform.run s'.inner = r' at hends ⊢
  -- the release was done before, so the stores are related in both cases
  by_cases hfault : c.name ∈ s.faults
  · have hfault' : c.name ∈ s'.faults := (hfaults _).mpr hfault
    simp only [List.contains_iff_mem, hfault, hfault', if_true]
    cases hends with
    | ok hF => exact .error (halike _) ⟨hfaults, hF⟩
    | error _ hF => exact .error (halike _) ⟨hfaults, hF⟩
  · have hfault' : c.name ∉ s'.faults := mt (hfaults _).mp hfault
    simp only [List.contains_iff_mem, hfault, hfault', if_false]
    cases hends with
    | ok hF => exact .ok ⟨hfaults, hF⟩
    | error he hF => exact .error he ⟨hfaults, hF⟩

end Spied

end EntityQuery
