import TokenGrammar.Proofs.SpanTiling

set_option autoImplicit false

/-! The context that a failure shows. Its two ends are byte offsets that are found by counting
characters, backwards and forwards from a point of the source. They are always character boundaries,
so the only offsets without a context are those inside a character, and between the two ends lie the
characters next to the point, as many on each side as the radius and the source allow. -/

namespace TokenGrammar

namespace Text

/-! ### Offsets of characters -/

private theorem length_offsets (offset : Nat) (text : List Char) :
    (offsets offset text).length = text.length := by
  induction text generalizing offset with
  | nil => rfl
  | cons character rest inductionHypothesis =>
      rw [offsets, List.length_cons, List.length_cons, inductionHypothesis]

private theorem getElem?_offsets (offset : Nat) (text : List Char) (index : Nat)
    (inside : index < text.length) :
    (offsets offset text)[index]? = some (offset + byteLength (text.take index)) := by
  induction text generalizing offset index with
  | nil => exact absurd inside (Nat.not_lt_zero index)
  | cons character rest inductionHypothesis =>
      cases index with
      | zero => rfl
      | succ index =>
          rw [offsets, List.getElem?_cons_succ,
            inductionHypothesis _ index (Nat.lt_of_succ_lt_succ inside), List.take_succ_cons,
            byteLength_cons, Nat.add_assoc]

/-! ### Offsets inside a character -/

/-- The byte offset lies inside a character of the text, behind the first of its bytes and not behind
the last. -/
def InsideCharacter (offset : Nat) (text : List Char) : Prop :=
  ∃ before character after, text = before ++ character :: after ∧
    byteLength before < offset ∧ offset < byteLength before + character.utf8Size

theorem InsideCharacter.lt_byteLength {offset : Nat} {text : List Char}
    (inside : InsideCharacter offset text) : offset < byteLength text := by
  obtain ⟨before, character, after, rfl, _, ends⟩ := inside
  rw [byteLength_append, byteLength_cons]
  omega

private theorem insideCharacter_cons_iff (offset : Nat) (character : Char) (rest : List Char)
    (fits : character.utf8Size ≤ offset) :
    InsideCharacter offset (character :: rest) ↔
      InsideCharacter (offset - character.utf8Size) rest := by
  constructor
  · rintro ⟨before, other, after, split, begins, ends⟩
    cases before with
    | nil =>
        -- the first character ends before the offset
        cases split
        rw [byteLength_nil] at ends
        omega
    | cons first before =>
        cases split
        rw [byteLength_cons] at begins ends
        exact ⟨before, other, after, rfl, by omega, by omega⟩
  · rintro ⟨before, other, after, rfl, begins, ends⟩
    refine ⟨character :: before, other, after, rfl, ?_, ?_⟩
    · rw [byteLength_cons]
      omega
    · rw [byteLength_cons]
      omega

theorem splitAtByte?_eq_none_iff (offset : Nat) (text : List Char) :
    splitAtByte? offset text = none ↔ byteLength text < offset ∨ InsideCharacter offset text := by
  fun_induction splitAtByte? offset text with
  | case1 text => simp [InsideCharacter]
  | case2 offset => simp
  | case3 offset character rest fits inductionHypothesis =>
      have behind : byteLength rest < offset + 1 - character.utf8Size ↔
          byteLength (character :: rest) < offset + 1 := by
        rw [byteLength_cons]
        omega
      rw [Option.map_eq_none_iff, inductionHypothesis, behind,
        insideCharacter_cons_iff _ character rest fits]
  | case4 offset character rest tooLong =>
      have inside : InsideCharacter (offset + 1) (character :: rest) := by
        refine ⟨[], character, rest, rfl, Nat.succ_pos offset, ?_⟩
        rw [byteLength_nil]
        omega
      simp [inside]

end Text

/-! ### The two ends of a context -/

private theorem snippetStart_eq (radius : Nat) (before : List Char) :
    snippetStart radius before =
      Text.byteLength (before.take (before.length - radius)) := by
  unfold snippetStart
  by_cases noRadius : radius = 0
  · rw [if_pos noRadius, noRadius, Nat.sub_zero, List.take_length]
  · rw [if_neg noRadius]
    by_cases enough : radius ≤ before.length
    · have inside : radius - 1 < (Text.offsets 0 before).length := by
        rw [Text.length_offsets]
        omega
      have index : before.length - 1 - (radius - 1) = before.length - radius := by omega
      rw [List.getElem?_reverse inside, Text.length_offsets, index,
        Text.getElem?_offsets 0 before _ (by omega), Option.getD_some, Nat.zero_add]
    · -- there are too few characters, so the context starts with the text
      have missing : (Text.offsets 0 before).reverse[radius - 1]? = none := by
        rw [List.getElem?_eq_none_iff, List.length_reverse, Text.length_offsets]
        omega
      have nothing : before.length - radius = 0 := by omega
      rw [missing, nothing]
      rfl

private theorem snippetStop_eq (radius point : Nat) (after : List Char) :
    snippetStop radius point after = point + Text.byteLength (after.take radius) := by
  unfold snippetStop
  by_cases enough : radius < after.length
  · rw [Text.getElem?_offsets point after radius enough, Option.getD_some]
  · have short : after.length ≤ radius := Nat.le_of_not_lt enough
    have missing : (Text.offsets point after)[radius]? = none := by
      rw [List.getElem?_eq_none_iff, Text.length_offsets]
      exact short
    rw [missing, List.take_of_length_le short, Option.getD_none]

/-- At a boundary between two characters the two ends of the context are boundaries too. -/
theorem snippetAround?_of_split (before after : List Char) (offset radius : Nat)
    (boundary : min offset (Text.byteLength (before ++ after)) = Text.byteLength before) :
    snippetAround? (before ++ after) offset radius =
      some (snippetBetween radius before after) := by
  have front : before.take (before.length - radius) ++ lastCharacters radius before = before :=
    List.take_append_drop _ before
  have stop : Text.byteLength before + Text.byteLength (after.take radius) =
      Text.byteLength (before.take (before.length - radius)) +
        Text.byteLength (snippetBetween radius before after) := by
    have lengths := congrArg Text.byteLength front
    rw [Text.byteLength_append] at lengths
    rw [snippetBetween, Text.byteLength_append, ← lengths, Nat.add_assoc]
  have source : before ++ after = before.take (before.length - radius) ++
      (snippetBetween radius before after ++ after.drop radius) := by
    rw [snippetBetween, List.append_assoc, List.take_append_drop, ← List.append_assoc, front]
  unfold snippetAround?
  simp only [boundary, Text.splitAtByte?_append, Option.bind_eq_bind, Option.bind_some]
  rw [snippetStart_eq, snippetStop_eq, stop, source, Text.slice?_append]

/-! ### What a context shows -/

/-- The text is the context of a point of the source: the last characters in front of the point and
the first ones behind it, `radius` of them or as many as there are. -/
def ShowsAround (source : List Char) (point radius : Nat) (text : List Char) : Prop :=
  ∃ before after left right, source = before ++ after ∧ Text.byteLength before = point ∧
    (left <:+ before ∧ left.length = min radius before.length) ∧
    (right <+: after ∧ right.length = min radius after.length) ∧ text = left ++ right

private theorem eq_lastCharacters_iff (radius : Nat) (before left : List Char) :
    left = lastCharacters radius before ↔
      left <:+ before ∧ left.length = min radius before.length := by
  have sameCount : before.length - min radius before.length = before.length - radius := by omega
  constructor
  · rintro rfl
    refine ⟨List.drop_suffix _ before, ?_⟩
    rw [lastCharacters, List.length_drop]
    omega
  · rintro ⟨isSuffix, count⟩
    rw [lastCharacters, ← sameCount, ← count]
    exact List.suffix_iff_eq_drop.mp isSuffix

private theorem eq_take_iff (radius : Nat) (after right : List Char) :
    right = after.take radius ↔ right <+: after ∧ right.length = min radius after.length := by
  constructor
  · rintro rfl
    exact ⟨List.take_prefix radius after, List.length_take⟩
  · rintro ⟨isPrefix, count⟩
    rw [List.take_eq_take_min, ← count]
    exact List.prefix_iff_eq_take.mp isPrefix

private theorem showsAround_iff (source : List Char) (point radius : Nat) (text : List Char) :
    ShowsAround source point radius text ↔
      ∃ before after, source = before ++ after ∧ Text.byteLength before = point ∧
        text = snippetBetween radius before after := by
  simp only [ShowsAround, ← eq_lastCharacters_iff, ← eq_take_iff]
  constructor
  · rintro ⟨before, after, _, _, split, placed, rfl, rfl, shown⟩
    exact ⟨before, after, split, placed, shown⟩
  · rintro ⟨before, after, split, placed, shown⟩
    exact ⟨before, after, _, _, split, placed, rfl, rfl, shown⟩

theorem snippetAround?_eq_some_iff (source : List Char) (offset radius : Nat)
    (text : List Char) :
    snippetAround? source offset radius = some text ↔
      ShowsAround source (min offset (Text.byteLength source)) radius text := by
  rw [showsAround_iff]
  constructor
  · intro shown
    obtain ⟨⟨before, after⟩, cut, sliced⟩ := Option.bind_eq_some_iff.mp shown
    obtain ⟨rfl, placed⟩ := (Text.splitAtByte?_eq_some_iff _ source before after).mp cut
    rw [snippetAround?_of_split before after offset radius placed.symm, Option.some.injEq] at shown
    exact ⟨before, after, rfl, placed, shown.symm⟩
  · rintro ⟨before, after, rfl, placed, rfl⟩
    exact snippetAround?_of_split before after offset radius placed.symm

theorem snippetAround?_eq_none_iff (source : List Char) (offset radius : Nat) :
    snippetAround? source offset radius = none ↔ Text.InsideCharacter offset source := by
  have clamped : Text.splitAtByte? (min offset (Text.byteLength source)) source = none ↔
      Text.InsideCharacter offset source := by
    rw [Text.splitAtByte?_eq_none_iff]
    constructor
    · rintro (tooFar | inside)
      · omega
      · -- only an offset that was not moved can lie inside a character
        have notMoved := inside.lt_byteLength
        rwa [Nat.min_eq_left (by omega)] at inside
    · intro inside
      rw [Nat.min_eq_left (Nat.le_of_lt inside.lt_byteLength)]
      exact Or.inr inside
  rw [← clamped]
  cases cut : Text.splitAtByte? (min offset (Text.byteLength source)) source with
  | none => simp [snippetAround?, cut]
  | some parts =>
      obtain ⟨before, after⟩ := parts
      obtain ⟨rfl, placed⟩ := (Text.splitAtByte?_eq_some_iff _ source before after).mp cut
      simp [snippetAround?_of_split before after offset radius placed.symm]

/-- An offset has no context exactly if it lies inside a character, and so in front of the end of the
source. Around every other offset, or around the end if the offset lies behind it, the context is
what the source shows there. A failure can be placed at these other offsets only; it shows the
context and keeps the offset as it was given. -/
theorem context_shown_unless_inside_character (source : List Char) (offset radius : Nat) :
    (snippetAround? source offset radius = none ↔
      offset < Text.byteLength source ∧ Text.InsideCharacter offset source) ∧
    (∀ text, snippetAround? source offset radius = some text ↔
      ShowsAround source (min offset (Text.byteLength source)) radius text) ∧
    ∀ detail file error, TokenizeError.around detail source offset radius file = .ok error ↔
      error.detail = detail ∧ error.offset = offset ∧ error.file = file ∧
        ShowsAround source (min offset (Text.byteLength source)) radius error.snippet.toList := by
  refine ⟨?_, snippetAround?_eq_some_iff source offset radius, ?_⟩
  · rw [snippetAround?_eq_none_iff, iff_and_self]
    exact Text.InsideCharacter.lt_byteLength
  · intro detail file error
    rw [← snippetAround?_eq_some_iff]
    cases context : snippetAround? source offset radius with
    | none => simp [TokenizeError.around, context]
    | some text =>
        unfold TokenizeError.around
        rw [context]
        cases error with
        | mk shownDetail shownOffset shownText shownFile =>
            simp only [Except.ok.injEq, TokenizeError.mk.injEq, Option.some.injEq]
            constructor
            · rintro ⟨rfl, rfl, rfl, rfl⟩
              exact ⟨rfl, rfl, rfl, String.toList_ofList.symm⟩
            · rintro ⟨rfl, rfl, rfl, rfl⟩
              exact ⟨rfl, rfl, String.ofList_toList, rfl⟩

-- a point behind a character of two bytes, and one inside of it
example : snippetAround? ['a', 'é', 'b'] 3 1 = some ['é', 'b'] ∧
    snippetAround? ['a', 'é', 'b'] 2 1 = none := by
  decide

end TokenGrammar
