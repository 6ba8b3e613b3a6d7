import EntityQuery.Record
import EntityQuery.Proofs.Forms

/-!
# Stored records are read back

A record without floats is read back from its bytes as it was (`Record.decode_encode`). More
generally a record is read as the record whose values its own are read as
(`Record.decode_encode_of_forall₂`), which is what happens to records with floats.

* `Value.ofJson?_toJson` reads the tag and the content of a value apart.
* `PropertyId.ofKey?_text` reads a member name back as the property it names.
* `PropertyMap.readsAs` files the members of a map in the order they were written in.
-/

namespace EntityQuery

open JsonForm

/-! ## Values

A value is an object with a tag and, unless it is null, a content. It is read as what its content is
read as under the same tag, and only the content of a float can be read as something else. -/

namespace Value

/-- A value is found by its tag and its content, once its object is entered. -/
theorem ofJson?_toJson (room : Nat) (v : Value) :
    ofJson? (room + 1) (toJson v) = ofTagged? room v.tag v.content? := by
  have htag : (Json.ofString v.tag).bareVariant? room = some v.tag := by
    simp [Json.ofString, Json.bareVariant?, Json.variant?, StringPart.text?_ofString]
  cases hcontent : v.content? with
  | none =>
    have hmembers := Json.members?_ofMembers room [("type", .ofString v.tag)]
    simp only [Json.ofMembers, List.map_cons, List.map_nil] at hmembers
    simp [ofJson?, toJson, Json.ofMembers, hcontent, hmembers, Json.only?, htag]
  | some j =>
    have hmembers := Json.members?_ofMembers room [("type", .ofString v.tag), ("value", j)]
    simp only [Json.ofMembers, List.map_cons, List.map_nil] at hmembers
    simp [ofJson?, toJson, Json.ofMembers, hcontent, hmembers, Json.only?, htag]

theorem writable_toJson {v : Value} (h : ∀ j ∈ v.content?, j.Writable) : (toJson v).Writable := by
  refine (Json.writable_ofMembers_iff _).mpr (List.forall_mem_cons.mpr
    ⟨Json.writable_ofString _, ?_⟩)
  cases hcontent : v.content? with
  | none => simp
  | some j => simpa using h j hcontent

/-- A value with a content is read as what its content is read as. -/
theorem readsAs_of_content {α : Type} [JsonForm α] {room : Nat} {v : Value} {f : α → Value}
    {a b : α} (hcontent : v.content? = some (toJson a))
    (htag : ofTagged? room v.tag (some (toJson a)) = (ofJson? room (toJson a)).map f)
    (h : ReadsAs room a b) : ReadsAs (room + 1) v (f b) where
  writable := writable_toJson (by simpa [hcontent] using h.writable)
  ofJson? := by rw [ofJson?_toJson, hcontent, htag, h.ofJson?, Option.map_some]

/-- Every value but a float is read as itself where its two brackets may be opened. -/
theorem readsBack {v : Value} (h : ∀ x, v ≠ .float x) (room : Nat) : ReadsBack (room + 2) v := by
  -- by the tag of the value; a list of bytes takes a bracket of its own
  cases v with
  | null =>
    exact ⟨writable_toJson (by simp [content?]), ofJson?_toJson (room + 1) null⟩
  | bool b => exact readsAs_of_content rfl rfl (readsBack_bool _ b)
  | int n => exact readsAs_of_content rfl rfl (readsBack_int64 _ n)
  | uint n => exact readsAs_of_content rfl rfl (readsBack_uint64 _ n)
  | float x => exact absurd rfl (h x)
  | string s => exact readsAs_of_content rfl rfl (readsBack_string _ s)
  | bytes b =>
    have hbytes : ReadsBack (room + 1) b :=
      readsAs_list (List.forall₂_same.mpr fun n _ => readsBack_uint8 room n)
    exact readsAs_of_content rfl rfl hbytes

/-- A float is read as what its number is read as. -/
theorem readsAs_float {room : Nat} {x y : Float} (h : ReadsAs room x y) :
    ReadsAs (room + 1) (Value.float x) (.float y) :=
  readsAs_of_content rfl rfl h

end Value

/-! ## Property maps

A property map is an object whose member names are the numbers of its properties. Such a name has
only digits, so it is written as it is, and it is read as the number again. -/

namespace PropertyId

theorem ofChar_of_isDigit {c : Char} (h : c.isDigit = true) :
    StringPart.ofChar c = [.byte (UInt8.ofNat c.toNat)] := by
  have hbounds := toNat_of_isDigit h
  have hquote : c ≠ '"' := by rintro rfl; exact absurd h (by decide)
  have hbackslash : c ≠ '\\' := by rintro rfl; exact absurd h (by decide)
  have hencode : String.utf8EncodeChar c = [UInt8.ofNat c.toNat] := by
    have : c.val.toNat ≤ 127 := by
      show c.toNat ≤ 127
      omega
    rw [String.utf8EncodeChar, if_pos this]
    rfl
  rw [StringPart.ofChar, if_neg hquote, if_neg hbackslash, if_neg (by omega), if_neg (by omega),
    if_neg (by omega), if_neg (by omega), if_neg (by omega), if_neg (by omega), hencode]
  rfl

/-- A property's name in a map is read as that property. -/
theorem ofKey?_text (p : PropertyId) : ofKey? (StringPart.ofString p.text) = some p := by
  have hdigits : ∀ c ∈ Nat.toDigits 10 p.val.toNat, c.isDigit = true := fun _ hc =>
    Nat.isDigit_of_mem_toDigits (by decide) (by decide) hc
  have hparts : StringPart.ofString p.text =
      (Nat.toDigits 10 p.val.toNat).map fun c => .byte (UInt8.ofNat c.toNat) := by
    rw [StringPart.ofString, text, Nat.toList_repr, List.map_eq_flatMap]
    exact List.flatMap_congr fun c hc => ofChar_of_isDigit (hdigits c hc)
  have hread {f : StringPart → Option Char}
      (hf : ∀ b, isDigit b → f (.byte b) = some (Char.ofNat b.toNat)) :
      (StringPart.ofString p.text).mapM f = some (Nat.toDigits 10 p.val.toNat) := by
    rw [hparts]
    apply mapM_of_forall₂
    rw [List.forall₂_map_left_iff, List.forall₂_same]
    intro c hc
    rw [hf _ (isDigit_byte (hdigits c hc)), char_byte_of_isDigit (hdigits c hc)]
  have hguard := (Numeral.writable_ofInt p.val.toNat).guard
  rw [Numeral.ofInt, Int.natAbs_natCast] at hguard
  rw [ofKey?.eq_def, hread fun b hb => by simp only [hb, if_true]]
  simp only [hguard, bind, Option.bind, guard, if_true, pure, Nat.ofDigitChars_ten_toDigits,
    if_pos p.val.toNat_lt, UInt32.ofNat_toNat]

end PropertyId

namespace PropertyMap

/-- A map is written member by member, in the order of its properties. -/
theorem toJson_eq (m : PropertyMap) :
    toJson m = .object (m.toList.map fun e => (StringPart.ofString e.1.text, toJson e.2)) :=
  congrArg Json.object List.map_map

theorem ofJson?_object (room : Nat) (members : List (List StringPart × Json)) :
    (ofJson? (room + 1) (Json.object members) : Option PropertyMap) =
      (members.mapM fun (m : List StringPart × Json) => do
        return (← PropertyId.ofKey? m.1, ← ofJson? room m.2)).bind fun pairs =>
        some (Table.ofList pairs) :=
  rfl

/-- A map is read as a map with the same properties, each of whose values is read as the other. -/
theorem readsAs {room : Nat} {m m' : PropertyMap}
    (h : List.Forall₂ (fun e e' => e.1 = e'.1 ∧ ReadsAs room e.2 e'.2) m.toList m'.toList) :
    ReadsAs (room + 1) m m' where
  writable := by
    refine (Json.writable_ofMembers_iff _).mpr (List.forall_mem_map.mpr ?_)
    exact forall_mem_of_forall₂ (fun _ _ h => h.2.writable) h
  ofJson? := by
    rw [toJson_eq, ofJson?_object, mapM_of_forall₂ (List.forall₂_map_left_iff.mpr (h.imp ?_)),
      Option.bind_some, Table.ofList_toList]
    rintro ⟨p, v⟩ ⟨p', v'⟩ ⟨rfl, hv⟩
    simp only [PropertyId.ofKey?_text, hv.ofJson?, bind, Option.bind, pure]

end PropertyMap

/-! ## Records

A record is an object of two fields. Together with the map and the values inside it takes three
brackets of those that may be open, and bytes take a fourth. -/

theorem ObjectId.readsBack (room : Nat) (o : ObjectId) : ReadsBack room o where
  writable := (readsBack_uint64 room o.val).writable
  ofJson? := congrArg (Option.map ObjectId.mk) (readsBack_uint64 room o.val).ofJson?

namespace Record

theorem ofJson?_of_fields {room : Nat} {j id properties : Json}
    (h : j.fields? (room + 1) ["id", "properties"] = some ([id, properties], room)) :
    (ofJson? (room + 1) j : Option Record) = do
      return ⟨← ofJson? room id, ← ofJson? room properties⟩ := by
  show j.fields? (room + 1) ["id", "properties"] >>= _ = _
  rw [h]
  rfl

theorem readsAs {room : Nat} {r r' : Record} (hid : r.id = r'.id)
    (h : ReadsAs room r.properties r'.properties) : ReadsAs (room + 1) r r' where
  writable := by
    refine (Json.writable_ofMembers_iff _).mpr ?_
    simp only [List.forall_mem_cons, List.not_mem_nil, false_imp_iff, implies_true, and_true]
    exact ⟨(ObjectId.readsBack room r.id).writable, h.writable⟩
  ofJson? := by
    have hfields : (toJson r).fields? (room + 1) ["id", "properties"] =
        some ([toJson r.id, toJson r.properties], room) :=
      Json.fields?_ofMembers room (by simp)
    rw [ofJson?_of_fields hfields, (ObjectId.readsBack room r.id).ofJson?, h.ofJson?, hid]
    rfl

/-- A record is read back with every value as that value is read. -/
theorem decode_encode_of_forall₂ {r r' : Record} (hid : r.id = r'.id)
    (h : List.Forall₂ (fun e e' => e.1 = e'.1 ∧ ReadsAs 125 e.2 e'.2) r.properties.toList
      r'.properties.toList) : decode r.encode = .ok r' := by
  rw [decode, encode, read?_write (readsAs hid (PropertyMap.readsAs h))]

/-- A record that holds no float is read back as it was stored. -/
theorem decode_encode (r : Record) (h : ∀ p x, r.properties.get? p ≠ some (.float x)) :
    decode r.encode = .ok r := by
  refine decode_encode_of_forall₂ rfl (List.forall₂_same.mpr ?_)
  rintro ⟨p, v⟩ hmem
  refine ⟨rfl, Value.readsBack (fun x hx => h p x ?_) 123⟩
  rw [← hx]
  exact Table.mem_toList_iff.mp hmem

/-- Nulls, the ends of both integer ranges, a text that needs escapes, and bytes. -/
theorem decode_encode_notes :
    let properties : PropertyMap := Table.ofList [(⟨0⟩, .null), (⟨1⟩, .int Int64.minValue),
      (⟨10⟩, .uint 0xFFFFFFFFFFFFFFFF), (⟨11⟩, .string "\"\\\t\u0001é𝔘"),
      (⟨4294967295⟩, .bytes [0, 255])]
    let r : Record := ⟨⟨0xFFFFFFFFFFFFFFFF⟩, properties⟩
    (∀ p x, properties.get? p ≠ some (.float x)) ∧ decode r.encode = .ok r := by
  intro properties r
  have hall : (properties.toList.all fun e => e.2.asFloat?.isNone) = true := by decide
  have hnone : ∀ p x, properties.get? p ≠ some (.float x) := by
    intro p x h
    have := List.all_eq_true.mp hall _ (Table.mem_toList_iff.mpr h)
    simp [Value.asFloat?] at this
  exact ⟨hnone, decode_encode r hnone⟩

end Record

end EntityQuery
