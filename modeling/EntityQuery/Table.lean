import EntityQuery.Id

/-!
# Tables with ordered keys

A table is a finite map, kept as a list of entries in ascending key order. The order is part of the
type, so two tables that hold the same entries are equal, and whoever lists a table gets its entries
in key order.

* `get?_insert` and `get?_erase` say what each change does to every look-up, `isSome_get?_insert`
  and `isSome_get?_update` which keys show something after it.
* `mem_toList_iff` says that the listed entries are those that are looked up, and `ofList_toList`
  that filing them again gives the table back.
-/

namespace EntityQuery

/-- Keys ordered by a number that tells them apart. -/
class Key (κ : Type) where
  rank : κ → Nat
  rank_inj : ∀ {a b : κ}, rank a = rank b → a = b

instance : Key EntityId where
  rank e := e.val.toNat
  rank_inj := by
    rintro ⟨a⟩ ⟨b⟩ h
    exact congrArg EntityId.mk (UInt32.toNat_inj.mp h)

instance : Key PropertyId where
  rank p := p.val.toNat
  rank_inj := by
    rintro ⟨a⟩ ⟨b⟩ h
    exact congrArg PropertyId.mk (UInt32.toNat_inj.mp h)

instance : Key ObjectId where
  rank o := o.val.toNat
  rank_inj := by
    rintro ⟨a⟩ ⟨b⟩ h
    exact congrArg ObjectId.mk (UInt64.toNat_inj.mp h)

theorem Key.rank_eq_iff {κ : Type} [Key κ] {a b : κ} : Key.rank a = Key.rank b ↔ a = b :=
  ⟨Key.rank_inj, congrArg Key.rank⟩

/-- A map from keys to values, listed in ascending key order. -/
structure Table (κ α : Type) [Key κ] where
  entries : List (κ × α)
  ascending : entries.Pairwise fun a b => Key.rank a.1 < Key.rank b.1

namespace Table

variable {κ α : Type} [Key κ]

/-- The value filed under a key in a list of entries. -/
def lookup (k : κ) : List (κ × α) → Option α
  | [] => none
  | (k', v) :: rest => if Key.rank k = Key.rank k' then some v else lookup k rest

/-- Files a value before the first larger key, in place of an entry with the same key. -/
def place (k : κ) (v : α) : List (κ × α) → List (κ × α)
  | [] => [(k, v)]
  | (k', v') :: rest =>
    if Key.rank k < Key.rank k' then (k, v) :: (k', v') :: rest
    else if Key.rank k = Key.rank k' then (k, v) :: rest
    else (k', v') :: place k v rest

theorem mem_place {k : κ} {v : α} {entries : List (κ × α)} {e : κ × α}
    (h : e ∈ place k v entries) : e = (k, v) ∨ e ∈ entries := by
  induction entries with
  | nil => simpa [place] using h
  | cons head rest ih =>
    obtain ⟨k', v'⟩ := head
    simp only [place] at h
    split at h
    · simpa using h
    · split at h
      · rcases List.mem_cons.mp h with h | h
        · exact .inl h
        · exact .inr (List.mem_cons_of_mem _ h)
      · rcases List.mem_cons.mp h with h | h
        · exact .inr (h ▸ List.mem_cons_self)
        · exact (ih h).imp id (List.mem_cons_of_mem _)

theorem ascending_place {k : κ} {v : α} {entries : List (κ × α)}
    (h : entries.Pairwise fun a b => Key.rank a.1 < Key.rank b.1) :
    (place k v entries).Pairwise fun a b => Key.rank a.1 < Key.rank b.1 := by
  induction entries with
  | nil => simp [place]
  | cons head rest ih =>
    obtain ⟨k', v'⟩ := head
    obtain ⟨hhead, hrest⟩ := List.pairwise_cons.mp h
    simp only [place]
    split
    · -- the new entry comes first, below the head and all that follows it
      rename_i hlt
      refine List.pairwise_cons.mpr ⟨fun e he => ?_, h⟩
      rcases List.mem_cons.mp he with rfl | he
      · exact hlt
      · exact Nat.lt_trans hlt (hhead e he)
    · rename_i hge
      split
      · -- the new entry stands in for the head, which has the same rank
        rename_i heq
        exact List.pairwise_cons.mpr ⟨fun e he => heq ▸ hhead e he, hrest⟩
      · -- the head stays, below the new entry as below all others
        rename_i hne
        refine List.pairwise_cons.mpr ⟨fun e he => ?_, ih hrest⟩
        rcases mem_place he with rfl | he
        · simp only
          omega
        · exact hhead e he

def empty : Table κ α where
  entries := []
  ascending := .nil

def get? (t : Table κ α) (k : κ) : Option α :=
  lookup k t.entries

/-- Files a value under a key, in place of any earlier one. -/
def insert (t : Table κ α) (k : κ) (v : α) : Table κ α where
  entries := place k v t.entries
  ascending := ascending_place t.ascending

def erase (t : Table κ α) (k : κ) : Table κ α where
  entries := t.entries.filter fun e => Key.rank e.1 ≠ Key.rank k
  ascending := t.ascending.filter _

/-- Changes the value under a key. A key that is not there is filed with the default first. -/
def update [Inhabited α] (t : Table κ α) (k : κ) (f : α → α) : Table κ α :=
  t.insert k (f ((t.get? k).getD default))

/-- Files the pairs of a list one after the other, so that the last of equal keys stays. -/
def ofList (pairs : List (κ × α)) : Table κ α :=
  pairs.foldl (fun t e => t.insert e.1 e.2) empty

def toList (t : Table κ α) : List (κ × α) :=
  t.entries

instance [BEq κ] [BEq α] : BEq (Table κ α) where
  beq a b := a.entries == b.entries

instance : Inhabited (Table κ α) where
  default := empty

@[ext]
theorem ext {s t : Table κ α} (h : s.entries = t.entries) : s = t := by
  cases s
  cases t
  simp_all

@[simp]
theorem get?_empty (k : κ) : (empty : Table κ α).get? k = none :=
  rfl

theorem lookup_place (k k' : κ) (v : α) (entries : List (κ × α)) :
    lookup k' (place k v entries) =
      if Key.rank k' = Key.rank k then some v else lookup k' entries := by
  induction entries with
  | nil => simp [place, lookup]
  | cons head rest ih =>
    obtain ⟨k₀, v₀⟩ := head
    simp only [place]
    split
    · simp [lookup]
    · split
      · rename_i heq
        simp only [lookup, ← heq]
        split <;> rfl
      · simp only [lookup, ih]
        split
        · rename_i hne h
          rw [if_neg (by omega)]
        · rfl

/-- A changed key shows its new value and every other key what it showed before. -/
theorem get?_insert (t : Table κ α) (k k' : κ) (v : α) :
    (t.insert k v).get? k' = if Key.rank k' = Key.rank k then some v else t.get? k' :=
  lookup_place k k' v t.entries

/-- Filing a value adds its key to those that show something, and no other. -/
theorem isSome_get?_insert (t : Table κ α) (k k' : κ) (v : α) :
    ((t.insert k v).get? k').isSome =
      (decide (Key.rank k' = Key.rank k) || (t.get? k').isSome) := by
  rw [get?_insert]
  split <;> simp [*]

/-- Changing the value under a key adds the key to those that show something, and no other. -/
theorem isSome_get?_update [Inhabited α] (t : Table κ α) (k k' : κ) (f : α → α) :
    ((t.update k f).get? k').isSome = (decide (Key.rank k' = Key.rank k) || (t.get? k').isSome) :=
  t.isSome_get?_insert k k' _

theorem lookup_filter (k k' : κ) (entries : List (κ × α)) :
    lookup k' (entries.filter fun e => Key.rank e.1 ≠ Key.rank k) =
      if Key.rank k' = Key.rank k then none else lookup k' entries := by
  induction entries with
  | nil => simp [lookup]
  | cons head rest ih =>
    obtain ⟨k₀, v₀⟩ := head
    by_cases h : Key.rank k₀ = Key.rank k
    · simp only [List.filter, h, ne_eq, not_true_eq_false, decide_false, ih, lookup]
      split <;> rfl
    · simp only [List.filter, h, ne_eq, not_false_eq_true, decide_true, lookup, ih]
      split
      · rename_i h'
        rw [if_neg (by omega)]
      · rfl

/-- An erased key shows nothing and every other key what it showed before. -/
theorem get?_erase (t : Table κ α) (k k' : κ) :
    (t.erase k).get? k' = if Key.rank k' = Key.rank k then none else t.get? k' :=
  lookup_filter k k' t.entries

theorem lookup_eq_some_iff {entries : List (κ × α)}
    (h : entries.Pairwise fun a b => Key.rank a.1 < Key.rank b.1) {k : κ} {v : α} :
    lookup k entries = some v ↔ (k, v) ∈ entries := by
  induction entries with
  | nil => simp [lookup]
  | cons head rest ih =>
    obtain ⟨k₀, v₀⟩ := head
    obtain ⟨hhead, hrest⟩ := List.pairwise_cons.mp h
    rw [lookup, List.mem_cons, Prod.mk.injEq]
    split
    · -- the entries that follow have larger keys
      rename_i heq
      obtain rfl : k = k₀ := Key.rank_inj heq
      have hnot : (k, v) ∉ rest := fun hmem => Nat.lt_irrefl (Key.rank k) (hhead (k, v) hmem)
      simp [hnot, eq_comm]
    · rename_i hne
      have : k ≠ k₀ := fun heq => hne (congrArg Key.rank heq)
      simp [this, ih hrest]

/-- A key above all others goes to the end. -/
theorem place_of_forall_lt {k : κ} {v : α} {entries : List (κ × α)}
    (h : ∀ e ∈ entries, Key.rank e.1 < Key.rank k) : place k v entries = entries ++ [(k, v)] := by
  induction entries with
  | nil => rfl
  | cons head rest ih =>
    obtain ⟨hhead, hrest⟩ := List.forall_mem_cons.mp h
    rw [place, if_neg (Nat.lt_asymm hhead), if_neg (Nat.ne_of_gt hhead), ih hrest, List.cons_append]

/-- Filing entries above all others in ascending order appends them. -/
theorem entries_foldl_insert {t : Table κ α} {pairs : List (κ × α)}
    (h : (t.entries ++ pairs).Pairwise fun a b => Key.rank a.1 < Key.rank b.1) :
    (pairs.foldl (fun t e => t.insert e.1 e.2) t).entries = t.entries ++ pairs := by
  induction pairs generalizing t with
  | nil => simp
  | cons pair pairs ih =>
    have habove : ∀ e ∈ t.entries, Key.rank e.1 < Key.rank pair.1 := fun e he =>
      (List.pairwise_append.mp h).2.2 e he pair List.mem_cons_self
    have hinsert : (t.insert pair.1 pair.2).entries = t.entries ++ [pair] :=
      place_of_forall_lt habove
    rw [List.append_cons, ← hinsert] at h
    rw [List.foldl_cons, ih h, hinsert, ← List.append_cons]

/-- A table is filed again from its own list. -/
theorem ofList_toList (t : Table κ α) : ofList t.toList = t :=
  ext (entries_foldl_insert t.ascending)

/-- A table lists the entries that it shows. -/
theorem mem_toList_iff {t : Table κ α} {k : κ} {v : α} : (k, v) ∈ t.toList ↔ t.get? k = some v :=
  (lookup_eq_some_iff t.ascending).symm

end Table

end EntityQuery
