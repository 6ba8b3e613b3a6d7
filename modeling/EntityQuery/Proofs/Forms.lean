import EntityQuery.Json.Form
import EntityQuery.Proofs.Parsing

/-!
# Written members are read back

A member of a type with a JSON form can be read from its own text when it can be read from its own
form (`JsonForm.read?_write`), which `JsonForm.ReadsAs` says of one member and some room.

* Truth values, integers and texts are read as themselves in any room (`JsonForm.ReadsBack`).
* A list takes one bracket and leaves the rest to its items (`JsonForm.readsAs_list`).
* `Json.fields?_ofMembers` finds the fields of a structure in the object they are written as.
-/

namespace EntityQuery

/-- Every member of a list is taken to its partner. -/
theorem mapM_of_forall₂ {α β : Type} {f : α → Option β} {as : List α} {bs : List β}
    (h : List.Forall₂ (fun a b => f a = some b) as bs) : as.mapM f = some bs := by
  induction h with
  | nil => rfl
  | cons hab _ ih => simp [hab, ih]

/-- What holds of a member because of its partner holds of all members. -/
theorem forall_mem_of_forall₂ {α β : Type} {R : α → β → Prop} {p : α → Prop} {as : List α}
    {bs : List β} (hp : ∀ a b, R a b → p a) (h : List.Forall₂ R as bs) : ∀ a ∈ as, p a := by
  induction h with
  | nil => simp
  | cons hab _ ih => exact List.forall_mem_cons.mpr ⟨hp _ _ hab, ih⟩

/-! ## Texts

A text is written part by part: most characters as their own bytes, and a few as escapes. Every
character's parts stand for its bytes, so the parts of a text stand for the bytes of the text. -/

namespace StringPart

theorem resolve?_bytes_append (bytes : List UInt8) (parts : List StringPart) :
    resolve? (bytes.map byte ++ parts) = (resolve? parts).map (bytes ++ ·) := by
  induction bytes with
  | nil => simp
  | cons b bytes ih =>
    rw [List.map_cons, List.cons_append, resolve?, ih, Option.map_map]
    rfl

/-- A control that is written in hexadecimal is no half of a pair, and is read as itself. -/
theorem resolve?_unit_control {c : Char} (h : c.toNat < 0x20) (parts : List StringPart) :
    resolve? (unit (UInt16.ofNat c.toNat) :: parts) =
      (resolve? parts).map (String.utf8EncodeChar c ++ ·) := by
  have htoNat : (UInt16.ofNat c.toNat).toNat = c.toNat := by
    rw [UInt16.toNat_ofNat']
    omega
  -- controls are below both halves of the surrogates
  have hhigh : isHighSurrogate (UInt16.ofNat c.toNat) = false := by
    simp only [isHighSurrogate, UInt16.le_iff_toNat_le, htoNat, Bool.and_eq_false_iff,
      decide_eq_false_iff_not]
    exact .inl (Nat.not_le_of_lt (Nat.lt_trans h (by decide)))
  have hlow : isLowSurrogate (UInt16.ofNat c.toNat) = false := by
    simp only [isLowSurrogate, UInt16.le_iff_toNat_le, htoNat, Bool.and_eq_false_iff,
      decide_eq_false_iff_not]
    exact .inl (Nat.not_le_of_lt (Nat.lt_trans h (by decide)))
  rw [resolve?.eq_def]
  simp only [hhigh, hlow, Bool.false_eq_true, if_false, htoNat, Char.ofNat_toNat]

/-- A character's parts stand for its bytes. -/
theorem resolve?_ofChar_append (c : Char) (parts : List StringPart) :
    resolve? (ofChar c ++ parts) = (resolve? parts).map (String.utf8EncodeChar c ++ ·) := by
  have eq_ofNat {n : Nat} (h : c.toNat = n) : c = Char.ofNat n := by rw [← h, Char.ofNat_toNat]
  rw [ofChar]
  split_ifs with hquote hbackslash h8 h9 hA hC hD hcontrol
  · rw [hquote]; rfl
  · rw [hbackslash]; rfl
  · rw [eq_ofNat h8]; rfl
  · rw [eq_ofNat h9]; rfl
  · rw [eq_ofNat hA]; rfl
  · rw [eq_ofNat hC]; rfl
  · rw [eq_ofNat hD]; rfl
  · exact resolve?_unit_control hcontrol parts
  · exact resolve?_bytes_append _ parts

theorem resolve?_ofString (s : String) :
    resolve? (ofString s) = some (s.toList.flatMap String.utf8EncodeChar) := by
  rw [ofString]
  induction s.toList with
  | nil => rfl
  | cons c cs ih => rw [List.flatMap_cons, List.flatMap_cons, resolve?_ofChar_append, ih]; rfl

/-- The parts of a text stand for that text. -/
theorem text?_ofString (s : String) : text? (ofString s) = some s := by
  -- the bytes of the characters, one after the other, are the bytes of the text
  have hbytes :
      (⟨(s.toList.flatMap String.utf8EncodeChar).toArray⟩ : ByteArray) = s.toByteArray := by
    conv_rhs => rw [← String.ofList_toList (s := s), String.toByteArray_ofList]
    rw [List.utf8Encode]
    exact ByteArray.ext (List.data_toByteArray).symm
  rw [text?, resolve?_ofString, Option.bind_eq_bind, Option.bind_some, hbytes, String.fromUTF8?,
    dif_pos s.isValidUTF8]
  rfl

/-- Only characters of one byte have bytes below 128. -/
theorem toNat_of_mem_utf8EncodeChar {c : Char} {b : UInt8} (h : b ∈ String.utf8EncodeChar c) :
    b.toNat = c.toNat ∨ 128 ≤ b.toNat := by
  have htoNat : c.val.toNat = c.toNat := rfl
  rw [String.utf8EncodeChar, htoNat] at h
  split_ifs at h
  · obtain rfl := List.mem_singleton.mp h
    left
    rw [UInt8.toNat_ofNat']
    omega
  all_goals
    right
    simp only [List.mem_cons, List.not_mem_nil, or_false] at h
    rcases h with rfl | rfl | rfl | rfl <;> simp only [UInt8.toNat_ofNat'] <;> omega

/-- No part of a character needs an escape that it does not have. -/
theorem writable_ofChar (c : Char) : ∀ part ∈ ofChar c, part.Writable := by
  rw [ofChar]
  split_ifs with hquote hbackslash h8 h9 hA hC hD hcontrol
  -- a character without an escape has no byte that would need one
  case neg =>
    rintro part hpart
    obtain ⟨b, hb, rfl⟩ := List.mem_map.mp hpart
    have hquote : c.toNat ≠ 0x22 := fun h => hquote (Char.ext (UInt32.toNat_inj.mp h))
    have hbackslash : c.toNat ≠ 0x5C := fun h => hbackslash (Char.ext (UInt32.toNat_inj.mp h))
    have := toNat_of_mem_utf8EncodeChar hb
    simp only [Writable, ne_eq, ← UInt8.toNat_inj, UInt8.le_iff_toNat_le, UInt8.reduceToNat]
    omega
  all_goals simp [Writable]

theorem writable_ofString (s : String) : ∀ part ∈ ofString s, part.Writable := by
  intro part hpart
  obtain ⟨c, -, hc⟩ := List.mem_flatMap.mp hpart
  exact writable_ofChar c part hc

end StringPart

/-! ## Integers

An integer is written with a sign and its digits, without a zero in front, and is read if it is in
the range of the type. -/

namespace Numeral

/-- Only zero is written with a zero in front. -/
theorem eq_zero_of_head?_toDigits {n : Nat} (h : (Nat.toDigits 10 n).head? = some '0') : n = 0 := by
  -- without its last digit a number has the same first one
  induction n using Nat.strongRecOn with
  | _ n ih =>
    by_cases hn : n < 10
    · rw [Nat.toDigits_of_lt_base hn] at h
      have hdigit : ∀ n < 10, [Nat.digitChar n].head? = some '0' → n = 0 := by decide
      exact hdigit n hn h
    · have hdiv := ih (n / 10) (by omega)
      rw [Nat.toDigits_of_base_le (by decide) (by omega), List.head?_append_of_ne_nil] at h
      · have := hdiv h
        omega
      · exact Nat.toDigits_ne_nil

theorem writable_ofInt (n : Int) : (ofInt n).Writable where
  whole _ hc := Nat.isDigit_of_mem_toDigits (by decide) (by decide) hc
  whole_ne_nil := Nat.toDigits_ne_nil
  noLeadingZero h := by
    rw [ofInt, eq_zero_of_head?_toDigits h]
    rfl
  fraction _ hc := by simp [ofInt] at hc
  exponent _ he := by simp [ofInt] at he

end Numeral

namespace Json

theorem writable_number_iff (n : Numeral) : (number n).Writable ↔ n.Writable := by
  simp [Writable, tokens, Token.Writable]

theorem writable_ofInt (n : Int) : (ofInt n).Writable :=
  (writable_number_iff _).mpr (Numeral.writable_ofInt n)

theorem int?_ofInt (n : Int) : (ofInt n).int? = some n :=
  Numeral.toInt?_ofInt n

/-- An integer in range is read as itself. -/
theorem intWithin?_ofInt {low high n : Int} (hlow : low ≤ n) (hhigh : n ≤ high) :
    (ofInt n).intWithin? low high = some n := by
  simp [intWithin?, int?_ofInt, hlow, hhigh]

theorem natBelow?_ofInt {bound n : Nat} (h : n < bound) :
    (ofInt n).natBelow? bound = some n := by
  simp [natBelow?, int?_ofInt, h]

/-! ## Structures

A structure is an object with its fields as members. It is read by looking every field up, which
finds the member of that name if there is exactly one. -/

theorem writable_ofString (s : String) : (ofString s).Writable := by
  simpa [Writable, ofString, tokens, Token.Writable] using StringPart.writable_ofString s

/-- An object can be written if its members can, since their names always can. -/
theorem writable_ofMembers_iff (members : List (String × Json)) :
    (ofMembers members).Writable ↔ ∀ m ∈ members, m.2.Writable := by
  rw [ofMembers, writable_object_iff, List.forall_mem_map]
  exact forall₂_congr fun m _ => and_iff_right (StringPart.writable_ofString m.1)

theorem mapM_text?_ofString (members : List (String × Json)) :
    (members.map fun (name, value) => (StringPart.ofString name, value)).mapM
      (fun (key, value) => (StringPart.text? key).map (·, value)) = some members := by
  apply mapM_of_forall₂
  rw [List.forall₂_map_left_iff, List.forall₂_same]
  rintro ⟨name, value⟩ -
  simp [StringPart.text?_ofString]

theorem members?_ofMembers (room : Nat) (members : List (String × Json)) :
    (ofMembers members).members? (room + 1) = some (members, room) := by
  simp only [ofMembers, members?, enter?, bind, Option.bind, mapM_text?_ofString, pure]

/-- Where all names differ, a member is the only one of its name. -/
theorem only?_of_mem {named : List (String × Json)} (hnodup : (named.map (·.1)).Nodup)
    {m : String × Json} (hm : m ∈ named) : only? named m.1 = some m.2 := by
  have hfilter : named.filter (·.1 == m.1) = [m] := by
    -- the member is the first one, or none of its name comes before it
    induction named with
    | nil => cases hm
    | cons first rest ih =>
      obtain ⟨hfirst, hrest⟩ := List.nodup_cons.mp hnodup
      rcases List.mem_cons.mp hm with rfl | hm
      · have hnone : rest.filter (·.1 == m.1) = [] := by
          refine List.filter_eq_nil_iff.mpr fun m' hm' heq => hfirst ?_
          exact List.mem_map.mpr ⟨m', hm', beq_iff_eq.mp heq⟩
        rw [List.filter_cons_of_pos (by simp), hnone]
      · have hne : first.1 ≠ m.1 := fun heq =>
          hfirst (List.mem_map.mpr ⟨m, hm, heq.symm⟩)
        rw [List.filter_cons_of_neg (by simpa using hne), ih hrest hm]
  rw [only?, hfilter]

/-- The fields of a structure are found in the object they are written as. -/
theorem fields?_ofMembers (room : Nat) {members : List (String × Json)}
    (hnodup : (members.map (·.1)).Nodup) :
    (ofMembers members).fields? (room + 1) (members.map (·.1)) =
      some (members.map (·.2), room) := by
  have hfields : (members.map (·.1)).mapM (only? members) = some (members.map (·.2)) := by
    apply mapM_of_forall₂
    rw [List.forall₂_map_left_iff, List.forall₂_map_right_iff, List.forall₂_same]
    exact fun m hm => only?_of_mem hnodup hm
  have hmembers := members?_ofMembers room members
  rw [ofMembers] at hmembers ⊢
  simp only [fields?, hmembers, hfields, bind, Option.bind, pure]

end Json

/-! ## Members of a type

What a type writes and reads is compared here in any room, so that the brackets of a whole are those
of its parts and its own. -/

namespace JsonForm

variable {α : Type} [JsonForm α]

/-- Whether `a` is written so that it can be read, and is read as `b`, when `room` brackets may be
open. -/
structure ReadsAs (room : Nat) (a b : α) : Prop where
  writable : (toJson a).Writable
  ofJson? : ofJson? room (toJson a) = some b

/-- Whether `a` is written so that it can be read, and is read as itself. -/
abbrev ReadsBack (room : Nat) (a : α) : Prop :=
  ReadsAs room a a

/-- A member is read from its own text as from its own form. -/
theorem read?_write {a b : α} (h : ReadsAs Json.maxDepth a b) : read? α (write a) = some b := by
  rw [read?, write, Json.parse?_bytes h.writable]
  exact h.ofJson?

theorem readsBack_bool (room : Nat) (b : Bool) : ReadsBack room b where
  writable := by simp [toJson, Json.Writable, Json.tokens, Token.Writable]
  ofJson? := rfl

theorem readsBack_int64 (room : Nat) (n : Int64) : ReadsBack room n where
  writable := Json.writable_ofInt _
  ofJson? := by
    simp only [ofJson?, toJson, Json.intWithin?_ofInt n.minValue_le_toInt n.toInt_le,
      Option.map_some, Int64.ofInt_toInt]

theorem readsBack_uint8 (room : Nat) (n : UInt8) : ReadsBack room n where
  writable := Json.writable_ofInt _
  ofJson? := by
    simp only [ofJson?, toJson, Json.natBelow?_ofInt n.toNat_lt, Option.map_some, UInt8.ofNat_toNat]

theorem readsBack_uint64 (room : Nat) (n : UInt64) : ReadsBack room n where
  writable := Json.writable_ofInt _
  ofJson? := by
    simp only [ofJson?, toJson, Json.natBelow?_ofInt n.toNat_lt, Option.map_some,
      UInt64.ofNat_toNat]

theorem readsBack_string (room : Nat) (s : String) : ReadsBack room s where
  writable := Json.writable_ofString s
  ofJson? := StringPart.text?_ofString s

/-- A list needs a bracket more than its items. -/
theorem readsAs_list {room : Nat} {as bs : List α} (h : List.Forall₂ (ReadsAs room) as bs) :
    ReadsAs (room + 1) as bs where
  writable := by
    rw [toJson, instList, Json.writable_array_iff, List.forall_mem_map]
    exact forall_mem_of_forall₂ (fun _ _ => ReadsAs.writable) h
  ofJson? := by
    have hitems : (as.map toJson).mapM (JsonForm.ofJson? room) = some bs := by
      apply mapM_of_forall₂
      rw [List.forall₂_map_left_iff]
      exact h.imp fun _ _ => ReadsAs.ofJson?
    simp only [JsonForm.ofJson?, toJson, Json.items?, Json.enter?, Option.map_some, bind,
      Option.bind, hitems]

end JsonForm

end EntityQuery
