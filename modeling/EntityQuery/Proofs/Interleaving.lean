import EntityQuery.Proofs.Journals

/-!
# Builder sessions side by side

Whatever order the calls of several sessions come in, no id is given out twice, and a combination is
decided by its own session alone: it goes through for ids that this session gave out, that no
combination has taken and that are listed once each. What is refused changes nothing
(`Course.combinations_decided`).

* `Session.Mirrors.claimable_iff` says this of a session and the registrations that went through in
  it.
* `Session.Mirrors.takes_combine` says which slots a combination marks.
* `Course.Sound.combine_ok_iff` and `Course.Sound.takes_of_combine_ok` say the same of a store and
  its journal.
-/

namespace EntityQuery

open EntityQuery.Memory

/-! ## Combinations of a session

A session decides by its slots, and the log says the same: an id was given out if it is in the log,
and its slot is marked if a combination in the log has it. -/

namespace Session

variable {s s' : Session} {log : Log} {c : ConditionId} {ids : List ConditionId}

/-- Whether the session has marked the slot of an id as taken. -/
def Takes (s : Session) (c : ConditionId) : Prop :=
  ∃ x, s.slots[c.slot]? = some x ∧ x.taken = true

namespace Mirrors

/-- The ids that can be combined can be told from the log. -/
theorem claimable_iff (h : s.Mirrors log) (hroom : s.slots.length ≤ 2 ^ 32) :
    s.Claimable ids ↔ ids.Nodup ∧ (∀ c ∈ ids, c ∈ log.map (·.id)) ∧ ∀ c ∈ ids, ¬ log.Taken c := by
  constructor
  · intro hids
    refine ⟨hids.distinct.of_map, fun c hc => ?_, fun c hc htaken => ?_⟩
    · exact h.mem_ids_iff.mpr ⟨c.slot, hids.lt_length hc, eq_idAt_slot (hids.own c hc)⟩
    · obtain ⟨x, hx, hfree⟩ := hids.untaken c hc
      rw [eq_idAt_slot (hids.own c hc), ← h.taken hx, hfree] at htaken
      cases htaken
  · rintro ⟨hdistinct, hissued, huntaken⟩
    -- an id in the log is that of a slot, since the log has an entry for each slot
    have hslot : ∀ c ∈ ids, c.slot < s.slots.length ∧ c = s.idAt c.slot := by
      intro c hc
      obtain ⟨i, hi, rfl⟩ := h.mem_ids_iff.mp (hissued c hc)
      rw [slot_idAt s (by omega)]
      exact ⟨hi, rfl⟩
    -- the three checks of a session: its own ids, no slot taken, none listed twice
    refine ⟨fun c hc => ?_, fun c hc => ?_, ?_⟩
    · rw [(hslot c hc).2]
      rfl
    · refine ⟨_, List.getElem?_eq_getElem (hslot c hc).1, Bool.eq_false_iff.mpr fun htaken => ?_⟩
      rw [h.taken (List.getElem?_eq_getElem (hslot c hc).1), ← (hslot c hc).2] at htaken
      exact huntaken c hc htaken
    · refine hdistinct.map_on fun c hc d hd heq => ?_
      rw [(hslot c hc).2, (hslot d hd).2, heq]

/-- A slot is marked exactly if its id was taken by a combination in the log. -/
theorem takes_iff (h : s.Mirrors log) (hroom : s.slots.length ≤ 2 ^ 32) (hc : c.builder = s.id) :
    s.Takes c ↔ log.Taken c := by
  constructor
  · rintro ⟨x, hx, htaken⟩
    rw [eq_idAt_slot hc]
    exact (h.taken hx).mp htaken
  · intro htaken
    obtain ⟨i, hi, rfl⟩ := h.known htaken
    refine ⟨s.slots[i], ?_, (h.taken (List.getElem?_eq_getElem hi)).mpr htaken⟩
    -- an id names the slot that it was given for
    rw [slot_idAt s (by omega), List.getElem?_eq_getElem hi]

/-- A combination takes the listed ids, and no others. -/
theorem takes_combine {j : Junction} (h : s.Mirrors log) (hroom : s.slots.length < 2 ^ 32)
    (hs : (Session.combine j ids).run s = (.ok c, s')) {d : ConditionId} (hd : d.builder = s.id) :
    s'.Takes d ↔ s.Takes d ∨ d ∈ ids := by
  have hafter := h.combine hroom hs
  have hlength : s'.slots.length ≤ 2 ^ 32 := by
    rw [← hafter.length_eq, List.length_append, h.length_eq]
    exact hroom
  have hid : s'.id = s.id := by simpa [hs] using (framed_combine j ids s).1
  rw [hafter.takes_iff hlength (hd.trans hid.symm),
    h.takes_iff (Nat.le_of_lt hroom) hd, Log.taken_append]
  rfl

end Mirrors

end Session

/-! ## Combinations of a store

The handle says which session is called, and the ids say which session gave them out. Only where the
two are the same can a combination go through, and it marks slots of this session alone. -/

namespace Memory

/-- Whether some session of the store has marked the slot of an id as taken. -/
def Takes (m : Memory) (c : ConditionId) : Prop :=
  ∃ s ∈ m.sessions, s.id = c.builder ∧ s.Takes c

/-- What a store has marked is marked in the session at hand or in another. -/
theorem takes_iff {m : Memory} {before rest : List Session} {s : Session} {c : ConditionId}
    (hm : m.sessions = before ++ s :: rest) :
    m.Takes c ↔ (∃ x ∈ before ++ rest, x.id = c.builder ∧ x.Takes c) ∨
      s.id = c.builder ∧ s.Takes c := by
  have hmem : ∀ x, x ∈ m.sessions ↔ x ∈ before ++ rest ∨ x = s := by
    intro x
    rw [hm, List.perm_middle.mem_iff, List.mem_cons, or_comm]
  simp only [Takes, hmem, or_and_right, exists_or, exists_eq_left]

end Memory

namespace Course

namespace Sound

variable {t : Journal} {m : Memory} {b : Builder} {j : Junction} {ids : List ConditionId}

/-- An open session has marked the slots of the ids that its own combinations took. -/
theorem takes_iff_taken (h : Sound t m) (hroom : t.Roomy) (hb : b.id ∈ m.sessions.map (·.id))
    {c : ConditionId} (hc : c.builder = b.id) : m.Takes c ↔ (t.log b.id).Taken c := by
  obtain ⟨s, hs, hid⟩ := List.mem_map.mp hb
  have hid : s.id = b.id := hid
  have hsame : ∀ x ∈ m.sessions, x.id = c.builder → x = s := fun x hx hxid =>
    List.inj_on_of_nodup_map h.distinct hx hs (hxid.trans (hc.trans hid.symm))
  have htakes : s.Takes c ↔ (t.log b.id).Taken c :=
    hid ▸ (h.mirrors s hs).takes_iff (Nat.le_of_lt (h.room hroom hs)) (hc.trans hid.symm)
  rw [← htakes]
  constructor
  · rintro ⟨x, hx, hxid, htaken⟩
    exact hsame x hx hxid ▸ htaken
  · exact fun htaken => ⟨s, hs, hid.trans hc.symm, htaken⟩

/-- An open session combines the ids that it gave out, each listed once, that none of its
combinations has taken. -/
theorem combine_ok_iff (h : Sound t m) (hroom : t.Roomy) (hb : b.id ∈ m.sessions.map (·.id)) :
    (∃ new, (((engine.registrar b).combine j ids).run m).1 = .ok new) ↔
      ids.Nodup ∧ (∀ c ∈ ids, c ∈ (t.log b.id).map (·.id)) ∧ ∀ c ∈ ids, ¬ (t.log b.id).Taken c := by
  obtain ⟨before, s, rest, hm, hid, hanswer⟩ := h.answered hb
  have hs : s ∈ m.sessions := hm ▸ List.mem_append_right _ List.mem_cons_self
  have hmirrors : s.Mirrors (t.log b.id) := hid ▸ h.mirrors s hs
  have hrun : ((engine.registrar b).combine j ids).run m = _ := hanswer (Session.combine j ids)
  rw [← hmirrors.claimable_iff (Nat.le_of_lt (h.room hroom hs)), hrun]
  constructor
  · rintro ⟨new, hnew⟩
    exact (Session.combine_eq_ok_iff.mp (Prod.ext hnew rfl)).1
  · intro hids
    have hmade := (Session.combine_eq_ok_iff (j := j)).mpr ⟨hids, rfl⟩
    exact ⟨_, congrArg Prod.fst hmade⟩

/-- A combination that goes through gives out a new id and takes the listed ones, and no others. -/
theorem takes_of_combine_ok (h : Sound t m) (hroom : t.Roomy)
    (hb : b.id ∈ m.sessions.map (·.id)) {new : ConditionId}
    (hnew : (((engine.registrar b).combine j ids).run m).1 = .ok new) :
    new ∉ t.issued ∧
      ∀ c, (((engine.registrar b).combine j ids).run m).2.Takes c ↔ m.Takes c ∨ c ∈ ids := by
  obtain ⟨before, s, rest, hm, hid, hanswer⟩ := h.answered hb
  have hs : s ∈ m.sessions := hm ▸ List.mem_append_right _ List.mem_cons_self
  have hrun : ((engine.registrar b).combine j ids).run m = _ := hanswer (Session.combine j ids)
  let s' : Session := ((Session.combine j ids).run s).2
  have hmade : (Session.combine j ids).run s = (.ok new, s') :=
    Prod.ext ((congrArg Prod.fst hrun).symm.trans hnew) rfl
  have hnext : new = s.idAt s.slots.length := (Session.enters_combine j ids).next hmade
  have hid' : s'.id = s.id := (Session.framed_combine j ids s).1
  have hown : ∀ c ∈ ids, c.builder = s.id := (Session.combine_eq_ok_iff.mp hmade).1.own
  have hsessions : (((engine.registrar b).combine j ids).run m).2.sessions = before ++ s' :: rest :=
    congrArg (·.2.sessions) hrun
  refine ⟨hnext ▸ h.idAt_not_mem hs (h.room hroom hs), fun c => ?_⟩
  rw [takes_iff hm, takes_iff hsessions, or_assoc, hid']
  refine or_congr_right ?_
  by_cases hc : c.builder = s.id
  · rw [(h.mirrors s hs).takes_combine (h.room hroom hs) hmade hc]
    simp [hc]
  · -- an id of another session is not listed
    have hnot : c ∉ ids := fun hmem => hc (hown c hmem)
    simp [Ne.symm hc, hnot]

end Sound

/-- Whatever happened to a store and in whichever order its sessions were called, no id was given
out twice. An open session combines the ids that it gave out itself, that are listed once each and
that none of its combinations has taken, and no others. The listed ids are then taken, and only
they. A call that fails changes nothing. -/
theorem combinations_decided (limit : Option Nat) (moves : List Move)
    (hsessions : (run limit moves).calls.opened.length < 2 ^ 64)
    (hslots : ∀ id, ((run limit moves).calls.log id).length < 2 ^ 32) :
    let t := (run limit moves).calls
    let m := (run limit moves).store
    t.issued.Nodup ∧ ∀ b, t.Open b →
      (∀ c, c.builder = b.id → (m.Takes c ↔ (t.log b.id).Taken c)) ∧
      (∀ j ids, let ran := ((engine.registrar b).combine j ids).run m
        ((∃ new, ran.1 = .ok new) ↔ ids.Nodup ∧ (∀ c ∈ ids, c ∈ (t.log b.id).map (·.id)) ∧
          ∀ c ∈ ids, ¬ (t.log b.id).Taken c) ∧
        (∀ new, ran.1 = .ok new → new ∉ t.issued ∧ ∀ c, ran.2.Takes c ↔ m.Takes c ∨ c ∈ ids) ∧
        ∀ err, ran.1 = .error err → ran.2 = m) ∧
      ∀ p, let ran := ((engine.registrar b).register p).run m
        ∀ err, ran.1 = .error err → ran.2 = m := by
  intro t m
  have hroom : t.Roomy := ⟨hsessions, hslots⟩
  have hsound : Sound t m := sound limit moves hroom
  refine ⟨hsound.issued, fun b hb => ?_⟩
  have hlive := hsound.live b hb
  refine ⟨fun c => hsound.takes_iff_taken hroom hlive, fun j ids => ?_, fun p err => ?_⟩
  · refine ⟨hsound.combine_ok_iff hroom hlive, fun new => ?_, fun err => ?_⟩
    · exact hsound.takes_of_combine_ok hroom hlive
    · exact atomic_perform (.combine b j ids) m err
  · exact atomic_perform (.register b p) m err

/-- Two sessions take turns. An id of the second one cannot be combined in the first, and the ids of
the first can still be combined after that was tried. -/
theorem combinations_decided_people :
    let people : EntityModel := (EntityModel.new ⟨7⟩ "Person").declare ⟨3⟩ "age" (.integer .uint8)
    let first : Builder := ⟨1, ⟨7⟩⟩
    let moves : List Move := [.write (.register people), .call (.newBuilder ⟨7⟩),
      .call (.newBuilder ⟨7⟩), .call (.register first (.notNull ⟨3⟩)),
      .call (.register ⟨2, ⟨7⟩⟩ (.isNull ⟨3⟩)), .call (.register first (.isNull ⟨9⟩)),
      .call (.register first (.isNull ⟨3⟩)), .call (.combine first .any [⟨1, 0⟩])]
    let t := (run none moves).calls
    let m := (run none moves).store
    let refused := ((engine.registrar first).combine .all [⟨1, 1⟩, ⟨2, 0⟩]).run m
    t.issued.Nodup ∧ t.Open first ∧ (¬ ∃ new, refused.1 = .ok new) ∧
      ∃ new, (((engine.registrar first).combine .all [⟨1, 1⟩, ⟨1, 2⟩]).run refused.2).1 =
        .ok new := by
  intro people first moves t m refused
  have hlength : t.length < 2 ^ 32 := by decide +kernel
  obtain ⟨hissued, hsessions⟩ := combinations_decided none moves (by decide +kernel)
    fun id => Nat.lt_of_le_of_lt (t.length_log_le id) hlength
  have hopen : t.Open first := ⟨[], ⟨7⟩, _, rfl, by decide +kernel⟩
  obtain ⟨-, hcombine, -⟩ := hsessions first hopen
  obtain ⟨hiff, -, hfails⟩ := hcombine .all [⟨1, 1⟩, ⟨2, 0⟩]
  have hrefused : ¬ ∃ new, refused.1 = .ok new := hiff.not.mpr (by decide +kernel)
  have hsame : refused.2 = m := by
    cases h : refused.1 with
    | ok new => exact absurd ⟨new, h⟩ hrefused
    | error err => exact hfails err h
  rw [hsame]
  exact ⟨hissued, hopen, hrefused, (hcombine .all [⟨1, 1⟩, ⟨1, 2⟩]).1.mpr (by decide +kernel)⟩

end Course

end EntityQuery
