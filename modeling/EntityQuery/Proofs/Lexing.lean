import EntityQuery.Json.Lexer
import Mathlib

/-!
# Written tokens are read back

The bytes of some tokens, one after the other, are read as those tokens (`Token.lex?_bytes`), if
each of them can be written at all and every number is followed by something that ends it.

* `StringPart.Writable`, `Numeral.Writable` and `Token.Writable` say which tokens can be written: a
  plain byte of a string is one that needs no escape, and a number has digits where digits belong.
* `Token.scan?_bytes` reads one token and leaves what follows.
* `Token.Spelled` is the condition on a whole list of tokens.
-/

namespace EntityQuery

/-! ## Digits

A number is held as characters and written as bytes. Digits are one byte each, and reading them ends
with the first byte that is no digit. -/

/-- The bytes of a part of a number, which a numeral holds as characters. -/
def spell (cs : List Char) : List UInt8 :=
  cs.map fun c => UInt8.ofNat c.toNat

@[simp]
theorem spell_nil : spell [] = [] :=
  rfl

@[simp]
theorem spell_cons (c : Char) (cs : List Char) :
    spell (c :: cs) = UInt8.ofNat c.toNat :: spell cs :=
  rfl

@[simp]
theorem spell_append (cs cs' : List Char) : spell (cs ++ cs') = spell cs ++ spell cs' :=
  List.map_append

theorem toNat_of_isDigit {c : Char} (h : c.isDigit = true) : 48 ≤ c.toNat ∧ c.toNat ≤ 57 := by
  simpa [Char.isDigit, UInt32.le_iff_toNat_le] using h

theorem toNat_byte_of_isDigit {c : Char} (h : c.isDigit = true) :
    (UInt8.ofNat c.toNat).toNat = c.toNat := by
  have := toNat_of_isDigit h
  simp only [UInt8.toNat_ofNat']
  omega

theorem isDigit_byte {c : Char} (h : c.isDigit = true) : isDigit (UInt8.ofNat c.toNat) = true := by
  simp only [isDigit, Bool.and_eq_true, decide_eq_true_eq, UInt8.le_iff_toNat_le,
    toNat_byte_of_isDigit h]
  exact toNat_of_isDigit h

theorem char_byte_of_isDigit {c : Char} (h : c.isDigit = true) :
    Char.ofNat (UInt8.ofNat c.toNat).toNat = c := by
  rw [toNat_byte_of_isDigit h, Char.ofNat_toNat]

/-- Digits are read up to the first byte that is none. -/
theorem spanDigits_append {digits : List Char} {rest : List UInt8}
    (hdigits : ∀ c ∈ digits, c.isDigit = true) (hrest : ∀ b ∈ rest.head?, isDigit b = false) :
    spanDigits (spell digits ++ rest) = (digits, rest) := by
  have hall : ∀ b ∈ spell digits, isDigit b = true := by
    simpa [spell] using fun c hc => isDigit_byte (hdigits c hc)
  -- what follows begins with no digit, so none of it is taken
  have hnone : rest.takeWhile isDigit = [] ∧ rest.dropWhile isDigit = rest := by
    cases rest with
    | nil => exact ⟨rfl, rfl⟩
    | cons b rest => simp [hrest b rfl]
  rw [spanDigits, List.takeWhile_append_of_pos hall, List.dropWhile_append_of_pos hall, hnone.1,
    hnone.2, List.append_nil, spell, List.map_map]
  congr 1
  exact (List.map_congr_left fun c hc => char_byte_of_isDigit (hdigits c hc)).trans (List.map_id _)

/-! ## Strings

The parts of a string are plain bytes, escapes of one letter and escapes in hexadecimal. Each is
read by itself, since no plain byte is a quote or a backslash. -/

namespace StringPart

/-- A plain byte must not be one that ends the string or begins an escape, nor a control. -/
def Writable : StringPart → Prop
  | byte b => b ≠ 0x22 ∧ b ≠ 0x5C ∧ 0x20 ≤ b
  | short _ | unit _ => True

theorem hexValue?_hexDigit {n : Nat} (h : n < 16) : hexValue? (hexDigit n) = some n := by
  revert n
  decide

/-- A code unit is read back from its four digits. -/
theorem codeUnit?_hexDigits (u : UInt16) :
    codeUnit? (hexDigit (u.toNat / 4096)) (hexDigit (u.toNat / 256 % 16))
      (hexDigit (u.toNat / 16 % 16)) (hexDigit (u.toNat % 16)) = some u := by
  have hbound : u.toNat < 65536 := u.toNat_lt
  simp only [codeUnit?, hexValue?_hexDigit (show u.toNat / 4096 < 16 by omega),
    hexValue?_hexDigit (Nat.mod_lt _ (show 0 < 16 by decide)), bind, Option.bind, pure]
  congr 1
  -- the digits are the number in base sixteen
  have hdigits : u.toNat / 4096 * 4096 + u.toNat / 256 % 16 * 256 + u.toNat / 16 % 16 * 16 +
      u.toNat % 16 = u.toNat := by omega
  rw [hdigits, UInt16.ofNat_toNat]

theorem scan?_quote (rest : List UInt8) : scan? (0x22 :: rest) = some ([], rest) := by
  rw [scan?.eq_def]
  rfl

theorem scan?_byte {b : UInt8} (h : (byte b).Writable) (rest : List UInt8) :
    scan? (b :: rest) = (scan? rest).map fun (parts, rest) => (byte b :: parts, rest) := by
  obtain ⟨hquote, hbackslash, hcontrol⟩ := h
  rw [scan?.eq_def]
  simp only [if_neg hquote, if_neg (UInt8.not_lt.mpr hcontrol), if_neg hbackslash]
  cases scan? rest <;> rfl

theorem scan?_short (e : ShortEscape) (rest : List UInt8) :
    scan? (0x5C :: e.letter :: rest) =
      (scan? rest).map fun (parts, rest) => (short e :: parts, rest) := by
  have hletter : e.letter ≠ 0x75 := by cases e <;> decide
  rw [scan?.eq_def]
  simp only [if_neg hletter, ShortEscape.ofLetter?_letter]
  cases scan? rest <;> rfl

theorem scan?_unit (u : UInt16) (rest : List UInt8) :
    scan? ((unit u).bytes ++ rest) =
      (scan? rest).map fun (parts, rest) => (unit u :: parts, rest) := by
  rw [scan?.eq_def]
  simp only [bytes, List.cons_append, List.nil_append, codeUnit?_hexDigits]
  cases scan? rest <;> rfl

/-- The parts of a string are read up to the quote that ends it. -/
theorem scan?_bytes {parts : List StringPart} (h : ∀ part ∈ parts, part.Writable)
    (rest : List UInt8) : scan? (parts.flatMap bytes ++ 0x22 :: rest) = some (parts, rest) := by
  induction parts with
  | nil => exact scan?_quote rest
  | cons part parts ih =>
    obtain ⟨hpart, hparts⟩ := List.forall_mem_cons.mp h
    rw [List.flatMap_cons, List.append_assoc]
    cases part with
    | byte b => rw [bytes, List.singleton_append, scan?_byte hpart, ih hparts]; rfl
    | short e =>
      rw [bytes, List.cons_append, List.singleton_append, scan?_short, ih hparts]
      rfl
    | unit u => rw [scan?_unit, ih hparts]; rfl

end StringPart

/-! ## Numbers

A number is read in three parts: the digits before the point, those behind it and the power of ten.
Each part ends where the next one begins, or with the number. -/

namespace Numeral

/-- A number has digits where digits belong, and no zero in front of other digits. -/
structure Writable (n : Numeral) : Prop where
  whole : ∀ c ∈ n.whole, c.isDigit = true
  whole_ne_nil : n.whole ≠ []
  noLeadingZero : n.whole.head? = some '0' → n.whole.length = 1
  fraction : ∀ c ∈ n.fraction, c.isDigit = true
  exponent : ∀ e ∈ n.exponent, e.digits ≠ [] ∧ ∀ c ∈ e.digits, c.isDigit = true

/-- The check of the digits before the point, as the reader makes it. -/
theorem Writable.guard {n : Numeral} (hn : n.Writable) :
    (!n.whole.isEmpty && (n.whole.head? != some '0' || n.whole.length == 1)) = true := by
  have := hn.noLeadingZero
  have := hn.whole_ne_nil
  grind

/-- Whether a number that stands before a text ends there. -/
def EndsBefore (rest : List UInt8) : Prop :=
  ∀ b ∈ rest.head?, isDigit b = false ∧ b ≠ 0x2E ∧ b ≠ 0x65 ∧ b ≠ 0x45

/-- The power of ten, if one is written. -/
def exponentChars (n : Numeral) : List Char :=
  n.exponent.elim [] Exponent.chars

/-- The point and the digits behind it, if there are any. -/
def fractionChars (n : Numeral) : List Char :=
  if n.fraction.isEmpty then [] else '.' :: n.fraction

theorem scanExponent?_spell {n : Numeral} (hn : n.Writable) {rest : List UInt8}
    (hrest : EndsBefore rest) :
    scanExponent? (spell n.exponentChars ++ rest) = some (n.exponent, rest) := by
  rw [exponentChars]
  cases he : n.exponent with
  | none =>
    cases rest with
    | nil => rfl
    | cons b rest =>
      obtain ⟨-, -, hlower, hupper⟩ := hrest b rfl
      simp [scanExponent?, hlower, hupper]
  | some e =>
    obtain ⟨hne, hdigits⟩ := hn.exponent e he
    have hspan := spanDigits_append hdigits fun b hb => (hrest b hb).1
    have hempty : e.digits.isEmpty = false := by simpa using hne
    obtain ⟨negative, digits⟩ := e
    cases negative <;>
      simp [Exponent.chars, scanExponent?, hspan, hempty]

/-- After the digits before the exponent comes neither a digit nor a point. -/
theorem head?_exponent (n : Numeral) {rest : List UInt8} (hrest : EndsBefore rest) :
    ∀ b ∈ (spell n.exponentChars ++ rest).head?, isDigit b = false ∧ b ≠ 0x2E := by
  intro b hb
  rw [exponentChars] at hb
  cases he : n.exponent with
  | none => exact ((hrest b (by simpa [he] using hb)).imp id And.left)
  | some e =>
    rw [he] at hb
    obtain rfl : 0x65 = b := Option.some.inj hb
    decide

/-- The digits behind the point are read, or none if no point is written. -/
theorem scanFraction?_spell {n : Numeral} (hn : n.Writable) {rest : List UInt8}
    (hrest : ∀ b ∈ rest.head?, isDigit b = false ∧ b ≠ 0x2E) :
    scanFraction? (spell n.fractionChars ++ rest) = some (n.fraction, rest) := by
  have hspan := spanDigits_append hn.fraction fun b hb => (hrest b hb).1
  rw [fractionChars]
  cases hf : n.fraction with
  | nil =>
    cases rest with
    | nil => rfl
    | cons b rest =>
      have hpoint : b ≠ 0x2E := (hrest b rfl).2
      simp [scanFraction?, hpoint]
  | cons c digits =>
    rw [hf] at hspan
    rw [if_neg (by simp), spell_cons, List.cons_append,
      show UInt8.ofNat '.'.toNat = 0x2E from rfl, scanFraction?, hspan]
    rfl

/-- After the digits of the whole part comes no digit. -/
theorem head?_fraction (n : Numeral) {rest : List UInt8}
    (hrest : ∀ b ∈ rest.head?, isDigit b = false ∧ b ≠ 0x2E) :
    ∀ b ∈ (spell n.fractionChars ++ rest).head?, isDigit b = false := by
  intro b hb
  rw [fractionChars] at hb
  cases hf : n.fraction with
  | nil => exact (hrest b (by simpa [hf] using hb)).1
  | cons c digits =>
    rw [hf] at hb
    obtain rfl : 0x2E = b := Option.some.inj hb
    decide

theorem chars_eq (n : Numeral) :
    n.chars = (if n.negative then ['-'] else []) ++
      (n.whole ++ (n.fractionChars ++ n.exponentChars)) := by
  simp only [chars, fractionChars, exponentChars, List.append_assoc]
  cases n.exponent <;> rfl

/-- A number is read up to the first byte that cannot go on with it. -/
theorem scan?_spell {n : Numeral} (hn : n.Writable) {rest : List UInt8} (hrest : EndsBefore rest) :
    scan? (spell n.chars ++ rest) = some (n, rest) := by
  have hexponent := head?_exponent n hrest
  have hspan := spanDigits_append hn.whole (head?_fraction n hexponent)
  -- without a sign the first byte is a digit, which is no minus
  have hunsigned : ∀ tail, spell n.whole ++ (spell n.fractionChars ++
      (spell n.exponentChars ++ rest)) ≠ 0x2D :: tail := by
    obtain ⟨c, digits, hwhole⟩ := List.exists_cons_of_ne_nil hn.whole_ne_nil
    have hdigit := isDigit_byte (hn.whole c (by simp [hwhole]))
    intro tail h
    rw [hwhole, spell_cons, List.cons_append] at h
    rw [(List.cons.inj h).1] at hdigit
    exact absurd hdigit (by decide)
  rw [chars_eq]
  -- the sign is read before the digits, and the rest is the same
  cases hsign : n.negative with
  | false =>
    rw [if_neg Bool.false_ne_true, List.nil_append, spell_append, spell_append, List.append_assoc,
      List.append_assoc, scan?.eq_2 _ hunsigned]
    simp only [hspan, hn.guard, scanFraction?_spell hn hexponent, scanExponent?_spell hn hrest,
      guard, if_true, bind, Option.bind, pure, ← hsign]
  | true =>
    rw [if_pos rfl, spell_append, spell_append, spell_append, List.append_assoc, List.append_assoc,
      List.append_assoc, spell_cons, spell_nil, List.singleton_append,
      show UInt8.ofNat '-'.toNat = 0x2D from rfl, scan?.eq_1]
    simp only [hspan, hn.guard, scanFraction?_spell hn hexponent, scanExponent?_spell hn hrest,
      guard, if_true, bind, Option.bind, pure, ← hsign]

end Numeral

/-! ## Tokens

The first byte says what kind of token begins. A token is read to its end, and the text is the
tokens with nothing between them. -/

namespace Token

/-- Strings and numbers can be written if their parts can. -/
def Writable : Token → Prop
  | number n => n.Writable
  | string parts => ∀ part ∈ parts, part.Writable
  | _ => True

/-- Whether a token stands apart from the text that follows it. Only a number can run on. -/
def EndsBefore (rest : List UInt8) : Token → Prop
  | number _ => Numeral.EndsBefore rest
  | _ => True

theorem bytes_number (n : Numeral) : (number n).bytes = spell n.chars :=
  rfl

/-- A number begins with a digit or a minus, which is no other token's beginning. -/
theorem head?_number {n : Numeral} (hn : n.Writable) :
    ∃ b rest, spell n.chars = b :: rest ∧ (isDigit b = true ∨ b = 0x2D) := by
  obtain ⟨c, digits, hwhole⟩ := List.exists_cons_of_ne_nil hn.whole_ne_nil
  rw [Numeral.chars_eq, hwhole]
  cases n.negative
  · exact ⟨_, _, rfl, .inl (isDigit_byte (hn.whole c (by simp [hwhole])))⟩
  · exact ⟨_, _, rfl, .inr rfl⟩

/-- The beginning of a number is neither punctuation nor a quote nor a blank. -/
theorem punctuation?_of_number {b : UInt8} (h : isDigit b = true ∨ b = 0x2D) :
    punctuation? b = none ∧ b ≠ 0x22 ∧ (isDigit b || b == 0x2D) = true ∧ isBlank b = false := by
  revert b
  decide +kernel

/-- A token is read, and what follows it is left. -/
theorem scan?_bytes {t : Token} (ht : t.Writable) {rest : List UInt8} (hrest : t.EndsBefore rest) :
    scan? (t.bytes ++ rest) = some (t, rest) := by
  cases t with
  | number n =>
    obtain ⟨b, digits, hspell, hfirst⟩ := head?_number ht
    obtain ⟨hpunctuation, hquote, hnumber, -⟩ := punctuation?_of_number hfirst
    have hscan := Numeral.scan?_spell ht hrest
    rw [bytes_number]
    rw [hspell, List.cons_append] at hscan ⊢
    simp only [scan?, hpunctuation, if_neg hquote, if_pos hnumber, hscan]
    rfl
  | string parts =>
    have hscan := StringPart.scan?_bytes ht rest
    rw [bytes, List.cons_append, List.cons_append, List.append_assoc, List.singleton_append]
    simp only [scan?, show punctuation? 0x22 = none from rfl, if_true, hscan]
    rfl
  | bool b => cases b <;> rfl
  | _ => rfl

/-- A token is at least one byte, and blanks are no part of its beginning. -/
theorem exists_bytes_eq_cons {t : Token} (ht : t.Writable) :
    ∃ b rest, t.bytes = b :: rest ∧ isBlank b = false := by
  cases t with
  | number n =>
    obtain ⟨b, rest, hbytes, hfirst⟩ := head?_number ht
    exact ⟨b, rest, hbytes, (punctuation?_of_number hfirst).2.2.2⟩
  | string parts => exact ⟨0x22, _, rfl, rfl⟩
  | bool b => cases b <;> exact ⟨_, _, rfl, rfl⟩
  | _ => exact ⟨_, _, rfl, rfl⟩

/-- Tokens that can be written, each of which stands apart from those that follow. -/
inductive Spelled : List Token → Prop
  | nil : Spelled []
  | cons {t : Token} {ts : List Token} (writable : t.Writable)
    (endsBefore : t.EndsBefore (ts.flatMap bytes)) (rest : Spelled ts) : Spelled (t :: ts)

/-- There are no more tokens than bytes. -/
theorem Spelled.length_le {ts : List Token} (h : Spelled ts) :
    ts.length ≤ (ts.flatMap bytes).length := by
  induction h with
  | nil => exact Nat.le_refl 0
  | cons writable _ _ ih =>
    obtain ⟨b, rest, hbytes, -⟩ := exists_bytes_eq_cons writable
    rw [List.flatMap_cons, hbytes, List.length_append, List.length_cons, List.length_cons]
    omega

/-- Tokens are read back if the limit allows for as many. -/
theorem lexWithin?_bytes {ts : List Token} (h : Spelled ts) {limit : Nat}
    (hlimit : ts.length ≤ limit) : lexWithin? limit (ts.flatMap bytes) = some ts := by
  induction h generalizing limit with
  | nil => cases limit <;> rfl
  | @cons t ts writable endsBefore _ ih =>
    obtain ⟨b, rest, hbytes, hblank⟩ := exists_bytes_eq_cons writable
    -- there is a token, so the limit is not zero
    obtain ⟨limit, rfl⟩ : ∃ n, limit = n + 1 := Nat.exists_eq_add_one.mpr (by grind)
    have hscan := scan?_bytes writable endsBefore
    rw [List.flatMap_cons]
    rw [hbytes, List.cons_append] at hscan ⊢
    rw [lexWithin?, hblank, if_neg Bool.false_ne_true, hscan]
    simp only [bind, Option.bind, ih (Nat.le_of_succ_le_succ hlimit), pure]

/-- Tokens are read back from their bytes. -/
theorem lex?_bytes {ts : List Token} (h : Spelled ts) : lex? (ts.flatMap bytes) = some ts :=
  lexWithin?_bytes h h.length_le

/-- The tokens that end what stands before them. -/
def closes : Token → Bool
  | comma | closeBracket | closeBrace => true
  | _ => false

/-- Every token stands apart from what begins with one that ends it, and from nothing. -/
theorem endsBefore_of_closes (t : Token) {ts : List Token} (h : ∀ t' ∈ ts.head?, t'.closes) :
    t.EndsBefore (ts.flatMap bytes) := by
  cases t with
  | number n =>
    cases ts with
    | nil => simp [EndsBefore, Numeral.EndsBefore]
    | cons t' ts =>
      have hcloses := h t' rfl
      cases t' with
      | comma | closeBracket | closeBrace =>
        intro b hb
        cases hb
        decide
      | _ => cases hcloses
  | _ => trivial

end Token

end EntityQuery
