import EntityQuery.Condition.View
import EntityQuery.Proofs.Registration

/-!
# Searching texts without regard to case

Text and operand are folded apart from each other, each as a whole. Whole texts that are equal stay
equal, so `equal` and `isIn` find no less when case is ignored. A piece of a text need not become a
piece of the folded text: a capital sigma folds to its final form at the end of a word, and a word
that ends with the piece can go on in the text.

* `Text.lowercaseChars_append` cuts a folded text where the text is cut.
* `Text.KeepsSigmas` says that the capital sigmas of a piece fold in their place as they do in the
  piece alone, and `Text.lowercaseWithin_eq_iff` that the whole piece then does, and only then.
* `TextCall.register_ignoring_case` says which searches find no less when case is ignored:
  `contains`, `startsWith` and `endsWith` where a piece that is found keeps its sigmas. For the two
  that look at one place only, there is no other case.
* `TextCall.startsWith_loses` is a search that finds less.
-/

namespace EntityQuery

namespace Text

/-! ## Folding a piece of a text

Folding goes character by character and looks at the surroundings only for a capital sigma, which
has two forms. So a piece folds alike in two places exactly if its sigmas do, and it always folds to
the same number of characters. -/

/-- The lower-case form that a piece has inside a text. `before` is the text before it, last
character first, and `after` the text that follows. -/
def lowercaseWithin (before after : List Char) : List Char → List Char
  | [] => []
  | c :: rest =>
    (if c = 'Σ' then [lowercaseSigma before (rest ++ after)] else lowercaseChar c)
      ++ lowercaseWithin (c :: before) after rest

/-- Without anything after it, a piece folds as the rest of a text. -/
theorem lowercaseWithin_nil (before text : List Char) :
    lowercaseWithin before [] text = lowercaseChars before text := by
  induction text generalizing before with
  | nil => rfl
  | cons c rest ih => rw [lowercaseWithin, lowercaseChars, ih, List.append_nil]

/-- A folded text is its folded pieces, each folded in its place. -/
theorem lowercaseChars_append (before xs ys : List Char) :
    lowercaseChars before (xs ++ ys) =
      lowercaseWithin before ys xs ++ lowercaseChars (xs.reverse ++ before) ys := by
  induction xs generalizing before with
  | nil => rfl
  | cons c rest ih =>
    rw [List.cons_append, lowercaseChars, ih, lowercaseWithin, List.append_assoc]
    simp

/-- A piece folds to as many characters in any place. -/
theorem length_lowercaseWithin (before after before' after' text : List Char) :
    (lowercaseWithin before after text).length = (lowercaseWithin before' after' text).length := by
  induction text generalizing before before' with
  | nil => rfl
  | cons c rest ih =>
    rw [lowercaseWithin, lowercaseWithin, List.length_append, List.length_append,
      ih (c :: before) (c :: before')]
    split <;> rfl

/-- Two places fold a piece alike exactly if they fold its capital sigmas alike. -/
theorem lowercaseWithin_congr_iff (before after before' after' text : List Char) :
    lowercaseWithin before after text = lowercaseWithin before' after' text ↔
      ∀ x y, text = x ++ 'Σ' :: y →
        lowercaseSigma (x.reverse ++ before) (y ++ after) =
          lowercaseSigma (x.reverse ++ before') (y ++ after') := by
  induction text generalizing before before' with
  | nil => simp [lowercaseWithin]
  | cons c rest ih =>
    -- the sigmas of the rest, with the head among what stands before them
    have hrest : (∀ x y, rest = x ++ 'Σ' :: y →
        lowercaseSigma (x.reverse ++ c :: before) (y ++ after) =
          lowercaseSigma (x.reverse ++ c :: before') (y ++ after')) ↔
        ∀ x y, c :: rest = (c :: x) ++ 'Σ' :: y →
          lowercaseSigma ((c :: x).reverse ++ before) (y ++ after) =
            lowercaseSigma ((c :: x).reverse ++ before') (y ++ after') := by
      simp
    rw [lowercaseWithin, lowercaseWithin]
    -- a sigma is compared in its place, and any other character folds by itself
    by_cases hc : c = 'Σ'
    · subst hc
      rw [if_pos rfl, if_pos rfl, List.singleton_append, List.singleton_append, List.cons.injEq,
        ih, hrest]
      constructor
      · -- a sigma of the piece is its head or one of the rest
        rintro ⟨hhead, htail⟩ x y hxy
        cases x with
        | nil =>
          obtain rfl : rest = y := by simpa using hxy
          exact hhead
        | cons a x =>
          obtain ⟨rfl, -⟩ := List.cons.inj hxy
          exact htail x y hxy
      · exact fun h => ⟨h [] rest rfl, fun x y hxy => h ('Σ' :: x) y hxy⟩
    · rw [if_neg hc, if_neg hc, List.append_right_inj, ih, hrest]
      constructor
      · intro htail x y hxy
        cases x with
        | nil => exact absurd (List.cons.inj hxy).1 hc
        | cons a x =>
          obtain ⟨rfl, -⟩ := List.cons.inj hxy
          exact htail x y hxy
      · exact fun h x y hxy => h (c :: x) y hxy

/-- Whether the capital sigmas of a piece fold between two texts as they do in the piece alone. -/
def KeepsSigmas (before piece after : List Char) : Prop :=
  ∀ x y, piece = x ++ 'Σ' :: y →
    lowercaseSigma (x.reverse ++ before.reverse) (y ++ after) = lowercaseSigma x.reverse y

theorem keepsSigmas_of_not_mem {piece : List Char} (h : 'Σ' ∉ piece) (before after : List Char) :
    KeepsSigmas before piece after := by
  rintro x y rfl
  simp at h

/-- A piece folds in its place as it does alone exactly if its capital sigmas do. -/
theorem lowercaseWithin_eq_iff (before piece after : List Char) :
    lowercaseWithin before.reverse after piece = lowercaseChars [] piece ↔
      KeepsSigmas before piece after := by
  rw [← lowercaseWithin_nil, lowercaseWithin_congr_iff]
  simp [KeepsSigmas]

/-! ## Folded pieces

The folded text is the folded pieces, one after the other. A piece at the beginning or at the end of
the text is compared with what stands there, which has the same length. -/

theorem toList_lowercase (s : String) : (lowercase s).toList = lowercaseChars [] s.toList := by
  simp [lowercase]

/-- What a text starts with, its folded form starts with exactly if the sigmas are kept. -/
theorem lowercase_prefix_iff {s t : String} {after : List Char} (h : s.toList = t.toList ++ after) :
    (lowercase t).toList <+: (lowercase s).toList ↔ KeepsSigmas [] t.toList after := by
  have hlength := length_lowercaseWithin [] [] [] after t.toList
  rw [toList_lowercase, toList_lowercase, h, lowercaseChars_append, ← lowercaseWithin_eq_iff,
    List.reverse_nil, ← lowercaseWithin_nil]
  constructor
  · -- the folded text begins with the piece as it folds in its place
    intro hprefix
    have := List.prefix_of_prefix_length_le hprefix (List.prefix_append _ _) hlength.le
    exact (this.eq_of_length hlength).symm
  · exact fun heq => ⟨_, congrArg (· ++ _) heq.symm⟩

/-- What a text ends with, its folded form ends with exactly if the sigmas are kept. -/
theorem lowercase_suffix_iff {s t : String} {before : List Char}
    (h : s.toList = before ++ t.toList) :
    (lowercase t).toList <:+ (lowercase s).toList ↔ KeepsSigmas before t.toList [] := by
  have hlength := length_lowercaseWithin [] [] before.reverse [] t.toList
  rw [toList_lowercase, toList_lowercase, h, lowercaseChars_append, ← lowercaseWithin_eq_iff,
    List.append_nil, ← lowercaseWithin_nil [], ← lowercaseWithin_nil before.reverse]
  constructor
  · -- the folded text ends with the piece as it folds in its place
    intro hsuffix
    have := List.suffix_of_suffix_length_le hsuffix (List.suffix_append _ _) hlength.le
    exact (this.eq_of_length hlength).symm
  · exact fun heq => ⟨_, congrArg (_ ++ ·) heq.symm⟩

/-- A piece of a text that keeps its sigmas is a piece of the folded text once it is folded. -/
theorem lowercase_infix {s t : String} {before after : List Char}
    (h : s.toList = before ++ t.toList ++ after) (hkeeps : KeepsSigmas before t.toList after) :
    (lowercase t).toList <:+: (lowercase s).toList := by
  rw [toList_lowercase, toList_lowercase, h, List.append_assoc, lowercaseChars_append,
    lowercaseChars_append, List.append_nil, (lowercaseWithin_eq_iff _ _ _).mpr hkeeps,
    ← List.append_assoc]
  exact ⟨_, _, rfl⟩

end Text

/-! ## Searches

The searches that widen when case is ignored, over the text that a record holds. Each of them
becomes an operator with the flag for case, and its test is read off the folded texts. -/

/-- A method of the text views that widens when case is ignored, with its operands. -/
inductive TextCall where
  | equal (text : String)
  | contains (text : String)
  | startsWith (text : String)
  | endsWith (text : String)
  | isIn (texts : List String)
  deriving DecidableEq, Repr

namespace TextCall

/-- The condition that the method writes. -/
def condition (v : TextView) (caseSensitive : Bool) : TextCall → Condition
  | equal t => v.equal t caseSensitive
  | contains t => v.contains t caseSensitive
  | startsWith t => v.startsWith t caseSensitive
  | endsWith t => v.endsWith t caseSensitive
  | isIn ts => v.isIn caseSensitive ts

/-- Whether the operand keeps its capital sigmas at some place where the method looks for it. Whole
texts have no surroundings. -/
def KeepsSigmas (s : String) : TextCall → Prop
  | equal _ | isIn _ => True
  | contains t => ∃ before after, s.toList = before ++ t.toList ++ after ∧
    Text.KeepsSigmas before t.toList after
  | startsWith t => ∃ after, s.toList = t.toList ++ after ∧ Text.KeepsSigmas [] t.toList after
  | endsWith t => ∃ before, s.toList = before ++ t.toList ∧ Text.KeepsSigmas before t.toList []

/-- Whether the method looks for its operand at one end of the text. -/
def IsAnchored : TextCall → Prop
  | startsWith _ | endsWith _ => True
  | equal _ | contains _ | isIn _ => False

/-- The operator that the method writes. -/
def operator (caseSensitive : Bool) : TextCall → Operator
  | equal t => .stringEqual t caseSensitive
  | contains t => .stringContains t caseSensitive
  | startsWith t => .stringStartsWith t caseSensitive
  | endsWith t => .stringEndsWith t caseSensitive
  | isIn ts => .stringIn ts caseSensitive

/-- A method writes its operator against the property of the view. -/
theorem condition_eq (v : TextView) (caseSensitive : Bool) (call : TextCall) :
    call.condition v caseSensitive = .compare ⟨v.property.id, call.operator caseSensitive⟩ := by
  cases call <;> rfl

theorem holds_operator_iff {k : Kind} {s : String} {cs : Bool} (call : TextCall) :
    (call.operator cs).Holds k (.string s) ↔
      match call with
      | equal t => Text.fold cs s = Text.fold cs t
      | contains t => (Text.fold cs t).toList <:+: (Text.fold cs s).toList
      | startsWith t => (Text.fold cs t).toList <+: (Text.fold cs s).toList
      | endsWith t => (Text.fold cs t).toList <:+ (Text.fold cs s).toList
      | isIn ts => ∃ t ∈ ts, Text.fold cs t = Text.fold cs s := by
  cases call <;> simp [operator, Operator.Holds, Value.IsText]

/-- A text that is found when case matters is found without case if the operand keeps its sigmas,
and for the methods that look at one end only then. -/
theorem holds_ignoring_case {k : Kind} {s : String} {call : TextCall}
    (h : (call.operator true).Holds k (.string s)) :
    (call.KeepsSigmas s → (call.operator false).Holds k (.string s)) ∧
      (call.IsAnchored → (call.operator false).Holds k (.string s) → call.KeepsSigmas s) := by
  rw [holds_operator_iff] at h ⊢
  -- whole texts stay equal, and pieces are cut where they were found
  cases call with
  | equal t =>
    obtain rfl : s = t := h
    exact ⟨fun _ => rfl, fun h => h.elim⟩
  | contains t =>
    refine ⟨?_, fun h => h.elim⟩
    rintro ⟨before, after, hs, hkeeps⟩
    exact Text.lowercase_infix hs hkeeps
  | startsWith t =>
    obtain ⟨after, hs⟩ := h
    refine ⟨?_, fun _ h => ⟨after, hs.symm, (Text.lowercase_prefix_iff hs.symm).mp h⟩⟩
    rintro ⟨after', hs', hkeeps⟩
    exact (Text.lowercase_prefix_iff hs').mpr hkeeps
  | endsWith t =>
    obtain ⟨before, hs⟩ := h
    refine ⟨?_, fun _ h => ⟨before, hs.symm, (Text.lowercase_suffix_iff hs.symm).mp h⟩⟩
    rintro ⟨before', hs', hkeeps⟩
    exact (Text.lowercase_suffix_iff hs').mpr hkeeps
  | isIn ts =>
    obtain ⟨t, ht, rfl⟩ := h
    exact ⟨fun _ => ⟨_, ht, rfl⟩, fun h => h.elim⟩

/-- The texts that a method looks for. -/
def operands : TextCall → List String
  | equal t | contains t | startsWith t | endsWith t => [t]
  | isIn ts => ts

/-- An operand without capital sigmas has none to lose. -/
theorem keepsSigmas_of_not_mem {k : Kind} {s : String} {call : TextCall}
    (h : (call.operator true).Holds k (.string s)) (hnone : ∀ t ∈ call.operands, 'Σ' ∉ t.toList) :
    call.KeepsSigmas s := by
  rw [holds_operator_iff] at h
  cases call with
  | equal | isIn => trivial
  | contains t =>
    obtain ⟨before, after, hs⟩ := h
    have hkeeps := Text.keepsSigmas_of_not_mem (hnone t (List.mem_singleton_self t))
    exact ⟨before, after, hs.symm, hkeeps _ _⟩
  | startsWith t =>
    obtain ⟨after, hs⟩ := h
    have hkeeps := Text.keepsSigmas_of_not_mem (hnone t (List.mem_singleton_self t))
    exact ⟨after, hs.symm, hkeeps _ _⟩
  | endsWith t =>
    obtain ⟨before, hs⟩ := h
    have hkeeps := Text.keepsSigmas_of_not_mem (hnone t (List.mem_singleton_self t))
    exact ⟨before, hs.symm, hkeeps _ _⟩

/-- Over a property that is declared as a text, every session registers what a method writes, with
either flag. A stored text that is found when case matters is also found when it does not, if the
operand keeps its capital sigmas, and so in any case if it has none. A method that looks at one end
of the text finds it only then. -/
theorem register_ignoring_case (s : Session) (v : TextView) (call : TextCall) {p : Property}
    (hp : s.model.property? v.property.id = some p) (hkind : p.kind = .text) :
    ∃ c q c' q', call.condition v true = .compare c ∧ s.Registers c q ∧
      call.condition v false = .compare c' ∧ s.Registers c' q' ∧
      ∀ (r : Record) (text : String), r.value v.property.id = .string text → q.holds r = true →
        (call.KeepsSigmas text → q'.holds r = true) ∧
        ((∀ t ∈ call.operands, 'Σ' ∉ t.toList) → call.KeepsSigmas text) ∧
        (call.IsAnchored → q'.holds r = true → call.KeepsSigmas text) := by
  have hfits : ∀ cs, (call.operator cs).Fits p.kind := by
    intro cs
    cases call <;> exact hkind
  refine ⟨_, _, _, _, call.condition_eq v true, s.registers_of_fits hp (hfits true),
    call.condition_eq v false, s.registers_of_fits hp (hfits false), fun r text htext h => ?_⟩
  simp only [Predicate.holds, htext, Operator.test_passes_iff] at h ⊢
  obtain ⟨hkeeps, honly⟩ := holds_ignoring_case h
  exact ⟨hkeeps, keepsSigmas_of_not_mem h, honly⟩

/-- The sigma ends a word in the operand and in the text. -/
theorem register_ignoring_case_final :
    let people : EntityModel := (EntityModel.new ⟨7⟩ "Person").declare ⟨1⟩ "name" .text
    let s : Session := .new 1 people
    let name : TextView := ⟨⟨⟨1⟩, ⟨7⟩, "name", .text⟩⟩
    let r : Record := ⟨⟨1⟩, .ofList [(⟨1⟩, .string "ΟΔΟΣ ΑΒ")]⟩
    ∃ c' q', name.startsWith "ΟΔΟΣ" false = .compare c' ∧ s.Registers c' q' ∧
      q'.holds r = true := by
  intro people s name r
  obtain ⟨c, q, c', q', hc, hq, hc', hq', h⟩ :=
    register_ignoring_case s name (.startsWith "ΟΔΟΣ") rfl rfl
  cases hc
  have hholds : q.holds r = true := by
    obtain rfl : q = .compare ⟨1⟩ "name" (.text .startsWith "ΟΔΟΣ" true) := hq.unique rfl
    decide +kernel
  refine ⟨c', q', hc', hq', (h r "ΟΔΟΣ ΑΒ" rfl hholds).1 ⟨[' ', 'Α', 'Β'], by decide, ?_⟩⟩
  exact (Text.lowercaseWithin_eq_iff [] _ _).mp (by decide +kernel)

/-- The sigma ends a word in the operand, but the word goes on in the text: the search finds the
text when case matters and loses it when it does not. -/
theorem startsWith_loses :
    let people : EntityModel := (EntityModel.new ⟨7⟩ "Person").declare ⟨1⟩ "name" .text
    let s : Session := .new 1 people
    let name : TextView := ⟨⟨⟨1⟩, ⟨7⟩, "name", .text⟩⟩
    let r : Record := ⟨⟨1⟩, .ofList [(⟨1⟩, .string "ΑΣΒ")]⟩
    ∃ c q c' q', name.startsWith "ΑΣ" true = .compare c ∧ s.Registers c q ∧
      name.startsWith "ΑΣ" false = .compare c' ∧ s.Registers c' q' ∧
      q.holds r = true ∧ q'.holds r = false :=
  ⟨_, _, _, _, rfl, rfl, rfl, rfl, by decide +kernel, by decide +kernel⟩

end TextCall

end EntityQuery
