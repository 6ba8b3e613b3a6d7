import EntityQuery.Proofs.Custody
import EntityQuery.Proofs.History
import EntityQuery.Proofs.Hosting
import EntityQuery.Proofs.StoredRecords

/-!
# Sessions and the calls that made them

A store is written to and called in any order, and any number of builder sessions may be open on it.
The calls with their answers are a journal. The journal alone tells which sessions are open and what
went through in each of them, whatever was called in between.

* `Journal.Open` and `Journal.log` read this off a journal.
* `Course.Sound` ties a store to its journal. `Course.Sound.call` says that one more call keeps the
  tie, and `Course.sound` that any number of calls and writes do.
-/

namespace EntityQuery

open EntityQuery.Memory

/-! ## Registrations of a session

A session gives its slots ids in order, so the id that it gives out next is one that it has not
given out. The two calls that register something have this in common, and `Session.Enters` is all
that is used of them later on. -/

namespace Session

namespace Mirrors

variable {s : Session} {log : Log} {c : ConditionId}

/-- The ids that were given out are those of the slots. -/
theorem mem_ids_iff (h : s.Mirrors log) :
    c ∈ log.map (·.id) ↔ ∃ i < s.slots.length, c = s.idAt i := by
  simp only [h.ids, List.mem_map, List.mem_range, @eq_comm _ c]

/-- The id of the slot that comes next was not given out before. -/
theorem next_not_mem (h : s.Mirrors log) (hroom : s.slots.length < 2 ^ 32) :
    s.idAt s.slots.length ∉ log.map (·.id) := by
  intro hmem
  obtain ⟨i, hi, heq⟩ := h.mem_ids_iff.mp hmem
  have hslot := slot_of_idAt (by omega) heq
  rw [slot_idAt s hroom] at hslot
  omega

end Mirrors

/-- A call that registers something, which is given the id of the next slot, or else leaves the
session as it was. -/
structure Enters (act : Action Session ConditionId) (entry : ConditionId → Registered) : Prop where
  atomic : act.Atomic
  framed : Framed act
  next : ∀ {s c s'}, act.run s = (.ok c, s') → (entry c).id = s.idAt s.slots.length
  mirrors : ∀ {s log c s'}, s.Mirrors log → s.slots.length < 2 ^ 32 → act.run s = (.ok c, s') →
    s'.Mirrors (log ++ [entry c])

theorem enters_register (p : Primitive) : Enters (register p) (.leaf · p.comparison) where
  atomic := atomic_register p
  framed := framed_register p
  next hs := by
    rw [run_register] at hs
    obtain ⟨q, -, happend⟩ := enter_eq_ok_iff.mp hs
    exact (Prod.mk.inj happend).1
  mirrors h hroom hs := h.register hroom hs

theorem enters_combine (j : Junction) (ids : List ConditionId) :
    Enters (combine j ids) (.node · j ids) where
  atomic := atomic_combine j ids
  framed := framed_combine j ids
  next hs := by
    obtain ⟨-, heq⟩ := combine_eq_ok_iff.mp hs
    rw [Registered.id, (Prod.mk.inj heq).1]
    simp [markTaken, idAt]
  mirrors h hroom hs := h.combine hroom hs

end Session

/-! ## Journals

Everything is read off the journal from its front, so each definition has one lemma about a journal
that is one call longer. Those for calls that open nothing, or register nothing, are what most calls
need. -/

namespace Event

/-- The handle of the session that the call opened, if it did. -/
def opened? : Event engine → Option Builder
  | ⟨.newBuilder _, .ok b⟩ => some b
  | _ => none

/-- The registration that went through with this call, and the id of its session. -/
def registered? : Event engine → Option (UInt64 × Registered)
  | ⟨.register b p, .ok id⟩ => some (b.id, .leaf id p.comparison)
  | ⟨.combine b j ids, .ok id⟩ => some (b.id, .node id j ids)
  | _ => none

/-- The id of the session that the call closes, if it is open. -/
def closed? : Event engine → Option UInt64
  | ⟨.closeBuilder b, _⟩ => some b.id
  | _ => none

end Event

/-- The calls that the memory store was asked, with their answers, in the order in which they were
made. -/
abbrev Journal := List (Event engine)

namespace Journal

/-- The handles of the sessions that were opened, in order. -/
def opened (t : Journal) : List Builder :=
  t.filterMap Event.opened?

/-- The registrations that went through, each with the id of its session. -/
def entries (t : Journal) : List (UInt64 × Registered) :=
  t.filterMap Event.registered?

/-- The ids that were given out, over all sessions. -/
def issued (t : Journal) : List ConditionId :=
  t.entries.map (·.2.id)

/-- What went through in the session of an id. -/
def log (t : Journal) (id : UInt64) : Log :=
  (t.entries.filter (·.1 = id)).map (·.2)

/-- Whether a session was opened with the handle and not closed since. -/
def Open (t : Journal) (b : Builder) : Prop :=
  ∃ before e after, t = before ++ ⟨.newBuilder e, .ok b⟩ :: after ∧
    ∀ ev ∈ after, ev.closed? ≠ some b.id

variable {t : Journal} {ev : Event engine} {b : Builder} {id : UInt64}

theorem opened_concat (t : Journal) (ev : Event engine) :
    opened (t ++ [ev]) = t.opened ++ ev.opened?.toList := by
  rw [opened, List.filterMap_append]
  cases h : ev.opened? <;> simp [h, opened]

theorem entries_concat (t : Journal) (ev : Event engine) :
    entries (t ++ [ev]) = t.entries ++ ev.registered?.toList := by
  rw [entries, List.filterMap_append]
  cases h : ev.registered? <;> simp [h, entries]

/-- One more call registers what it registers, if it is a call of that session. -/
theorem log_concat (t : Journal) (ev : Event engine) (id : UInt64) :
    log (t ++ [ev]) id = t.log id ++ (ev.registered?.toList.filter (·.1 = id)).map (·.2) := by
  rw [log, entries_concat, List.filter_append, List.map_append, log]

theorem opened_concat_of_none (h : ev.opened? = none) : opened (t ++ [ev]) = t.opened := by
  rw [opened_concat, h]
  exact List.append_nil _

theorem entries_concat_of_none (h : ev.registered? = none) : entries (t ++ [ev]) = t.entries := by
  rw [entries_concat, h]
  exact List.append_nil _

theorem log_concat_of_none (h : ev.registered? = none) (id : UInt64) :
    log (t ++ [ev]) id = t.log id := by
  rw [log, entries_concat_of_none h, log]

/-- The sessions that were opened have numbers of their own, and in each there is a number for every
slot. -/
structure Roomy (t : Journal) : Prop where
  sessions : t.opened.length < 2 ^ 64
  slots : ∀ id, (t.log id).length < 2 ^ 32

/-- A journal that is shorter has room if the longer one has. -/
theorem Roomy.of_concat (h : Roomy (t ++ [ev])) : t.Roomy where
  sessions := by
    have := h.sessions
    rw [opened_concat, List.length_append] at this
    omega
  slots id := by
    have := h.slots id
    rw [log_concat, List.length_append] at this
    omega

theorem length_log_le (t : Journal) (id : UInt64) : (t.log id).length ≤ t.length := by
  rw [log, List.length_map]
  exact (List.length_filter_le _ _).trans (List.length_filterMap_le _ _)

/-- A session is open after one more call if the call opened it, or it was open and the call does
not close it. -/
theorem open_concat_iff :
    Open (t ++ [ev]) b ↔
      (∃ e, ev = ⟨.newBuilder e, .ok b⟩) ∨ t.Open b ∧ ev.closed? ≠ some b.id := by
  constructor
  · rintro ⟨before, e, after, heq, hkept⟩
    -- the session was opened by the last call or before it
    rcases List.eq_nil_or_concat' after with rfl | ⟨after, x, rfl⟩
    · obtain ⟨-, hx⟩ := List.append_inj' heq rfl
      exact .inl ⟨e, List.singleton_inj.mp hx⟩
    · rw [← List.cons_append, ← List.append_assoc] at heq
      obtain ⟨ht, hx⟩ := List.append_inj' heq rfl
      obtain rfl := List.singleton_inj.mp hx
      obtain ⟨hafter, hlast⟩ := List.forall_mem_append.mp hkept
      exact .inr ⟨⟨before, e, after, ht, hafter⟩, hlast _ List.mem_cons_self⟩
  · rintro (⟨e, rfl⟩ | ⟨⟨before, e, after, rfl, hkept⟩, hlast⟩)
    · exact ⟨t, e, [], rfl, List.forall_mem_nil _⟩
    · refine ⟨before, e, after ++ [ev], by simp, ?_⟩
      exact List.forall_mem_append.mpr ⟨hkept, List.forall_mem_singleton.mpr hlast⟩

end Journal

/-! ## Courses of a store

A store and the journal of its calls, side by side. The tie between them is kept by every call and
every write. Most calls open and register nothing (`Sound.idle`); the rest open a session, enter
something in one, or close one. -/

/-- Something that happens to a store. -/
inductive Move where
  | call (c : Call engine)
  | write (w : Write)

/-- A store, and the calls that it was asked so far. -/
structure Course where
  calls : Journal
  store : Memory

namespace Course

/-- The store and its journal after one more move. -/
def step (t : Course) : Move → Course
  | .call c => ⟨t.calls ++ [⟨c, (c.perform.run t.store).1⟩], (c.perform.run t.store).2⟩
  | .write w => ⟨t.calls, t.store.write w⟩

/-- The store and its journal after some moves. -/
def run (limit : Option Nat) (moves : List Move) : Course :=
  moves.foldl step ⟨[], .new limit⟩

/-- The sessions of the store are those that the calls opened and did not close, and each holds what
went through in it. -/
structure Sound (t : Journal) (m : Memory) : Prop where
  /-- Sessions are numbered from one. -/
  numbers : t.opened.map (·.id) = (List.range t.opened.length).map fun i => UInt64.ofNat (i + 1)
  next : m.nextBuilder = UInt64.ofNat (t.opened.length + 1)
  /-- Nothing goes through in a session that was never opened. -/
  entered : ∀ entry ∈ t.entries, entry.1 ∈ t.opened.map (·.id)
  known : ∀ s ∈ m.sessions, s.id ∈ t.opened.map (·.id)
  distinct : (m.sessions.map (·.id)).Nodup
  mirrors : ∀ s ∈ m.sessions, s.Mirrors (t.log s.id)
  live : ∀ b, t.Open b → b.id ∈ m.sessions.map (·.id)
  /-- An id names the session that gave it out. -/
  own : ∀ entry ∈ t.entries, entry.2.id.builder = entry.1
  issued : t.issued.Nodup

namespace Sound

variable {t : Journal} {m m' : Memory} {ev : Event engine}

theorem start (limit : Option Nat) : Sound [] (.new limit) where
  numbers := rfl
  next := rfl
  entered := List.forall_mem_nil _
  known := List.forall_mem_nil _
  distinct := .nil
  mirrors := List.forall_mem_nil _
  live := by
    rintro b ⟨before, e, after, heq, -⟩
    simp at heq
  own := List.forall_mem_nil _
  issued := .nil

/-- A call that opens no session and registers nothing keeps the tie, if no session is gone but the
one that the call closes. -/
theorem narrow (h : Sound t m) (hopened : ev.opened? = none) (hentry : ev.registered? = none)
    (hsub : m'.sessions.Sublist m.sessions)
    (hkept : ∀ s ∈ m.sessions, ev.closed? ≠ some s.id → s ∈ m'.sessions)
    (hnext : m'.nextBuilder = m.nextBuilder) : Sound (t ++ [ev]) m' := by
  have hsame : Journal.opened (t ++ [ev]) = t.opened := Journal.opened_concat_of_none hopened
  have hentries : Journal.entries (t ++ [ev]) = t.entries := Journal.entries_concat_of_none hentry
  constructor
  · rw [hsame]
    exact h.numbers
  · rw [hsame, hnext]
    exact h.next
  · rw [hsame, hentries]
    exact h.entered
  · rw [hsame]
    exact fun s hs => h.known s (hsub.subset hs)
  · exact (hsub.map _).nodup h.distinct
  · intro s hs
    rw [Journal.log_concat_of_none hentry]
    exact h.mirrors s (hsub.subset hs)
  · intro b hb
    rcases Journal.open_concat_iff.mp hb with ⟨e, rfl⟩ | ⟨hb, hclosed⟩
    · cases hopened
    · obtain ⟨s, hs, heq⟩ := List.mem_map.mp (h.live b hb)
      exact List.mem_map.mpr ⟨s, hkept s hs (heq ▸ hclosed), heq⟩
  · rw [hentries]
    exact h.own
  · rw [Journal.issued, hentries]
    exact h.issued

/-- A call that leaves the sessions and their numbers keeps the tie. -/
theorem idle (h : Sound t m) (hopened : ev.opened? = none) (hentry : ev.registered? = none)
    (hsessions : m'.sessions = m.sessions) (hnext : m'.nextBuilder = m.nextBuilder) :
    Sound (t ++ [ev]) m' :=
  h.narrow hopened hentry (hsessions ▸ List.Sublist.refl _) (fun _ hs _ => hsessions ▸ hs) hnext

/-- The number of the next session is not that of an earlier one. -/
theorem next_not_mem (h : Sound t m) (hroom : t.opened.length + 1 < 2 ^ 64) :
    m.nextBuilder ∉ t.opened.map (·.id) := by
  rw [h.numbers, h.next]
  intro hmem
  obtain ⟨i, hi, heq⟩ := List.mem_map.mp hmem
  have hi : i < t.opened.length := List.mem_range.mp hi
  have hnat := congrArg UInt64.toNat heq
  rw [UInt64.toNat_ofNat', UInt64.toNat_ofNat', Nat.mod_eq_of_lt (by omega),
    Nat.mod_eq_of_lt hroom] at hnat
  omega

/-- Nothing went through in a session that was not opened. -/
theorem log_eq_nil (h : Sound t m) {id : UInt64} (hid : id ∉ t.opened.map (·.id)) :
    t.log id = [] := by
  rw [Journal.log, List.map_eq_nil_iff, List.filter_eq_nil_iff]
  intro entry hentry heq
  exact hid (of_decide_eq_true heq ▸ h.entered entry hentry)

/-- A new session has a number of its own, so nothing went through in it. -/
theorem opening (h : Sound t m) (e : EntityId) (model : EntityModel)
    (hroom : t.opened.length + 1 < 2 ^ 64) :
    Sound (t ++ [⟨.newBuilder e, .ok ⟨m.nextBuilder, model.id⟩⟩])
      (m.opened (.new m.nextBuilder model)) := by
  let b : Builder := ⟨m.nextBuilder, model.id⟩
  let ev : Event engine := ⟨.newBuilder e, .ok b⟩
  have hopened : Journal.opened (t ++ [ev]) = t.opened ++ [b] := Journal.opened_concat t ev
  have hentries : Journal.entries (t ++ [ev]) = t.entries := Journal.entries_concat_of_none rfl
  have hlog : ∀ id, Journal.log (t ++ [ev]) id = t.log id := Journal.log_concat_of_none rfl
  have hids : ∀ id, id ∈ (Journal.opened (t ++ [ev])).map (·.id) ↔
      id ∈ t.opened.map (·.id) ∨ id = m.nextBuilder := by
    intro id
    rw [hopened, List.map_append, List.mem_append]
    exact or_congr_right List.mem_singleton
  -- the log of the new number is empty, so the new session mirrors it
  have hfresh := h.next_not_mem hroom
  constructor
  · rw [hopened, List.map_append, List.length_append, List.length_singleton, List.range_succ,
      List.map_append, h.numbers]
    exact congrArg (_ ++ [·]) h.next
  · rw [hopened, List.length_append, List.length_singleton, UInt64.ofNat_add, ← h.next]
    rfl
  · intro entry hentry
    exact (hids _).mpr (.inl (h.entered entry (hentries ▸ hentry)))
  · refine List.forall_mem_cons.mpr ⟨(hids _).mpr (.inr rfl), fun s hs => ?_⟩
    exact (hids _).mpr (.inl (h.known s hs))
  · refine List.nodup_cons.mpr ⟨fun hmem => hfresh ?_, h.distinct⟩
    obtain ⟨s, hs, heq⟩ := List.mem_map.mp hmem
    have hid : s.id = m.nextBuilder := heq
    exact hid ▸ h.known s hs
  · refine List.forall_mem_cons.mpr ⟨?_, fun s hs => ?_⟩
    · rw [hlog, Session.new, h.log_eq_nil hfresh]
      exact .new _ _
    · rw [hlog]
      exact h.mirrors s hs
  · intro b' hb'
    rcases Journal.open_concat_iff.mp hb' with ⟨_, heq⟩ | ⟨hb', -⟩
    · cases heq
      exact List.mem_cons_self
    · exact List.mem_cons_of_mem _ (h.live b' hb')
  · rw [hentries]
    exact h.own
  · rw [Journal.issued, hentries]
    exact h.issued

/-- An id that was given out is in the log of the session that it names. -/
theorem mem_log (h : Sound t m) {c : ConditionId} (hc : c ∈ t.issued) :
    c ∈ (t.log c.builder).map (·.id) := by
  obtain ⟨entry, hentry, rfl⟩ := List.mem_map.mp hc
  refine List.mem_map.mpr ⟨entry.2, List.mem_map.mpr ⟨entry, ?_, rfl⟩, rfl⟩
  exact List.mem_filter.mpr ⟨hentry, decide_eq_true (h.own entry hentry).symm⟩

/-- The id that a session gives out next is new among the ids of all sessions. -/
theorem idAt_not_mem (h : Sound t m) {s : Session} (hs : s ∈ m.sessions)
    (hroom : s.slots.length < 2 ^ 32) : s.idAt s.slots.length ∉ t.issued :=
  fun hmem => (h.mirrors s hs).next_not_mem hroom (h.mem_log hmem)

/-- What goes through in a session is entered in the log of this session only. -/
theorem entering (h : Sound t m) {before rest : List Session} {s s' : Session}
    {x : Registered} (hm : m.sessions = before ++ s :: rest) (hopened : ev.opened? = none)
    (hentry : ev.registered? = some (s.id, x)) (hid : s'.id = s.id)
    (hmirrors : s'.Mirrors (t.log s.id ++ [x])) (hx : x.id = s.idAt s.slots.length)
    (hroom : s.slots.length < 2 ^ 32) :
    Sound (t ++ [ev]) { m with sessions := before ++ s' :: rest } := by
  have hs : s ∈ m.sessions := hm ▸ List.mem_append_right _ List.mem_cons_self
  have hsame : Journal.opened (t ++ [ev]) = t.opened := Journal.opened_concat_of_none hopened
  have hentries : Journal.entries (t ++ [ev]) = t.entries ++ [(s.id, x)] := by
    rw [Journal.entries_concat, hentry]
    rfl
  have hids : (before ++ s' :: rest).map (·.id) = m.sessions.map (·.id) := by
    rw [hm, List.map_append, List.map_append, List.map_cons, List.map_cons, hid]
  -- sessions have numbers of their own, so the log that grows is not that of another session
  have hother : ∀ y ∈ before ++ rest, y ∈ m.sessions ∧ y.id ≠ s.id := by
    intro y hy
    have hperm : m.sessions.Perm (s :: (before ++ rest)) := hm ▸ List.perm_middle
    obtain ⟨hnot, -⟩ := List.nodup_cons.mp ((hperm.map (·.id)).nodup h.distinct)
    refine ⟨hperm.mem_iff.mpr (List.mem_cons_of_mem _ hy), fun heq => hnot ?_⟩
    exact List.mem_map.mpr ⟨y, hy, heq⟩
  constructor
  · rw [hsame]
    exact h.numbers
  · rw [hsame]
    exact h.next
  · rw [hsame, hentries]
    exact List.forall_mem_append.mpr
      ⟨h.entered, List.forall_mem_singleton.mpr (h.known s hs)⟩
  · intro y hy
    rw [hsame]
    obtain ⟨z, hz, heq⟩ := List.mem_map.mp (hids ▸ List.mem_map_of_mem hy)
    exact heq ▸ h.known z hz
  · exact hids ▸ h.distinct
  · intro y hy
    rw [Journal.log_concat, hentry]
    rcases List.mem_cons.mp (List.perm_middle.mem_iff.mp hy) with rfl | hy
    · simpa [hid] using hmirrors
    · -- the call was made in another session
      obtain ⟨hmem, hne⟩ := hother y hy
      simpa [hne.symm] using h.mirrors y hmem
  · intro b hb
    rw [hids]
    rcases Journal.open_concat_iff.mp hb with ⟨e, rfl⟩ | ⟨hb, -⟩
    · cases hopened
    · exact h.live b hb
  · rw [hentries]
    refine List.forall_mem_append.mpr ⟨h.own, List.forall_mem_singleton.mpr ?_⟩
    exact congrArg ConditionId.builder hx
  · rw [Journal.issued, hentries, List.map_append]
    have hfresh : x.id ∉ t.issued := hx ▸ h.idAt_not_mem hs hroom
    exact List.nodup_append'.mpr
      ⟨h.issued, List.nodup_singleton _, List.disjoint_singleton.mpr hfresh⟩

/-- The session that is closed is gone, and no other is. -/
theorem closing (h : Sound t m) (b : Builder) :
    Sound (t ++ [⟨.closeBuilder b, .ok ()⟩])
      { m with sessions := m.sessions.eraseP (·.id == b.id) } := by
  refine h.narrow rfl rfl List.eraseP_sublist (fun s hs hclosed => ?_) rfl
  have hne : s.id ≠ b.id := fun heq => hclosed (congrArg some heq.symm)
  exact (List.mem_eraseP_of_neg (by simpa using hne)).mpr hs

/-- What keeps the sessions and their numbers as they are keeps the tie. -/
theorem other (h : Sound t m) {c : Call engine} (hopened : ∀ r, Event.opened? ⟨c, r⟩ = none)
    (hentry : ∀ r, Event.registered? ⟨c, r⟩ = none)
    (hkept : c.perform.Leads (fun m' => m'.sessions = m.sessions ∧ m'.nextBuilder = m.nextBuilder)
      fun m' => m'.sessions = m.sessions ∧ m'.nextBuilder = m.nextBuilder) :
    Sound (t ++ [⟨c, (c.perform.run m).1⟩]) (c.perform.run m).2 :=
  have hsame := hkept m ⟨rfl, rfl⟩
  h.idle (hopened _) (hentry _) hsame.1 hsame.2

/-- A write keeps the tie: it touches no session. -/
theorem write (h : Sound t m) (w : Write) : Sound t (m.write w) := by
  have hkept : ∀ {m'}, m'.sessions = m.sessions → m'.nextBuilder = m.nextBuilder → Sound t m' :=
    fun hsessions hnext =>
      { h with
        next := hnext ▸ h.next
        known := hsessions ▸ h.known
        distinct := hsessions ▸ h.distinct
        mirrors := hsessions ▸ h.mirrors
        live := hsessions ▸ h.live }
  have hwrites := m.writes_write w
  generalize m.write w = m' at hwrites ⊢
  cases hwrites with
  | register | store | remove => exact hkept rfl rfl
  | refuse => exact h

/-- Every session has room for one more slot. -/
theorem room (h : Sound t m) (hroom : t.Roomy) {s : Session} (hs : s ∈ m.sessions) :
    s.slots.length < 2 ^ 32 :=
  (h.mirrors s hs).length_eq ▸ hroom.slots s.id

/-- A handle of an open session is answered by that session. -/
theorem answered (h : Sound t m) {b : Builder} (hb : b.id ∈ m.sessions.map (·.id)) :
    ∃ before s rest, m.sessions = before ++ s :: rest ∧ s.id = b.id ∧
      ∀ act : Action Session ConditionId,
        (onSession b act).run m =
          Session.hosted (fun s => { m with sessions := before ++ s :: rest }) (act.run s) := by
  obtain ⟨s, hs, hid⟩ := List.mem_map.mp hb
  obtain ⟨before, rest, hm⟩ := List.append_of_mem hs
  refine ⟨before, s, rest, hm, hid, run_onSession hm (fun x hx heq => ?_) hid⟩
  have hdistinct := h.distinct
  rw [hm, List.map_append, List.nodup_append'] at hdistinct
  refine hdistinct.2.2 (List.mem_map_of_mem hx) ?_
  rw [List.map_cons, heq, ← hid]
  exact List.mem_cons_self

/-- A handle of no open session is refused. -/
theorem unanswered {b : Builder} (hb : b.id ∉ m.sessions.map (·.id))
    (act : Action Session ConditionId) : ∃ err, (onSession b act).run m = (.error err, m) := by
  refine ⟨.build (notOpen "builder" b.id.toNat), ?_⟩
  rw [onSession, Action.run_ofFun, callFirst_of_not_mem hb]

/-- A call of a session keeps the tie, whatever session it is and however the call ends. -/
theorem session (h : Sound t m) (hroom : t.Roomy) {b : Builder} {act : Action Session ConditionId}
    {entry : ConditionId → Registered} (hact : Session.Enters act entry)
    (ev : Except Error ConditionId → Event engine)
    (hopened : ∀ r, (ev r).opened? = none) (hrefused : ∀ e, (ev (.error e)).registered? = none)
    (hentry : ∀ c, (ev (.ok c)).registered? = some (b.id, entry c)) :
    Sound (t ++ [ev ((onSession b act).run m).1]) ((onSession b act).run m).2 := by
  -- the handle may be that of a session that is closed, or of none
  by_cases hb : b.id ∈ m.sessions.map (·.id)
  · obtain ⟨before, s, rest, hm, hid, hrun⟩ := h.answered hb
    have hs : s ∈ m.sessions := hm ▸ List.mem_append_right _ List.mem_cons_self
    have hslots := h.room hroom hs
    rw [hrun]
    cases hmade : act.run s with
    | mk outcome s' =>
      cases outcome with
      | error e =>
        obtain rfl : s' = s := by simpa [hmade] using hact.atomic s e
        exact h.idle (hopened _) (hrefused e) hm.symm rfl
      | ok c =>
        have hid' : s'.id = s.id := by simpa [hmade] using (hact.framed s).1
        exact h.entering hm (hopened _) (hid ▸ hentry c) hid'
          (hact.mirrors (h.mirrors s hs) hslots hmade) (hact.next hmade) hslots
  · obtain ⟨e, hrun⟩ := unanswered hb act
    rw [hrun]
    exact h.idle (hopened _) (hrefused e) rfl rfl

/-- One more call keeps the tie, as long as there are numbers for what it opens and registers. -/
theorem call (h : Sound t m) (c : Call engine)
    (hroom : Journal.Roomy (t ++ [⟨c, (c.perform.run m).1⟩])) :
    Sound (t ++ [⟨c, (c.perform.run m).1⟩]) (c.perform.run m).2 := by
  -- each call by what it does to the sessions
  cases c with
  | newBuilder e =>
    cases hmodel : m.model e with
    | error err =>
      have hrun := run_newBuilder_refused hmodel
      simp only [Call.perform, hrun]
      exact h.idle rfl rfl rfl rfl
    | ok model =>
      have hrun := run_newBuilder hmodel
      simp only [Call.perform, hrun] at hroom ⊢
      refine h.opening e model ?_
      have hlength := hroom.sessions
      rwa [Journal.opened_concat, List.length_append] at hlength
  | register b p =>
    exact h.session hroom.of_concat (Session.enters_register p) (fun r => ⟨.register b p, r⟩)
      (fun _ => rfl) (fun _ => rfl) fun _ => rfl
  | combine b j ids =>
    exact h.session hroom.of_concat (Session.enters_combine j ids) (fun r => ⟨.combine b j ids, r⟩)
      (fun _ => rfl) (fun _ => rfl) fun _ => rfl
  | closeBuilder b =>
    have hrun := run_giveBack m "builder" b.id.toNat (·.sessions.any (·.id == b.id)) fun m =>
      { m with sessions := m.sessions.eraseP (·.id == b.id) }
    simp only [Call.perform, closeBuilder, hrun]
    split
    · exact h.closing b
    · exact h.idle rfl rfl rfl rfl
  | compile | openCursor =>
    refine h.other (fun _ => rfl) (fun _ => rfl) ?_
    exact .question_bind fun _ => Action.leads_modifyGet fun _ h => h
  | closePlan | closeCursor =>
    exact h.other (fun _ => rfl) (fun _ => rfl) (.question_bind fun _ _ h => h)
  | find | findIds | count | describe | beginTx | endTx => exact h.idle rfl rfl rfl rfl

end Sound

theorem roomy_of_step {t : Course} {move : Move} (h : (t.step move).calls.Roomy) :
    t.calls.Roomy := by
  cases move with
  | call c => exact h.of_concat
  | write w => exact h

/-- Whatever happens to a store, its sessions are what the calls made of them. -/
theorem sound (limit : Option Nat) (moves : List Move) (hroom : (run limit moves).calls.Roomy) :
    Sound (run limit moves).calls (run limit moves).store := by
  -- on the moves from the last one, since the journal grows at its end
  induction moves using List.reverseRecOn with
  | nil => exact .start limit
  | append_singleton moves move ih =>
    have hrun : run limit (moves ++ [move]) = (run limit moves).step move := List.foldl_concat ..
    rw [hrun] at hroom ⊢
    have hbefore := ih (roomy_of_step hroom)
    cases move with
    | call c => exact hbefore.call c hroom
    | write w => exact hbefore.write w

end Course

end EntityQuery
