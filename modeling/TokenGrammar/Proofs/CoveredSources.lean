import TokenGrammar.Expectation.Tokens
import TokenGrammar.Proofs.SpanTiling

set_option autoImplicit false

/-! Which tokens cover a source. The expectation is checked in four steps: the spans lie end to end,
the last one ends with the source, each of them can be cut out, and the pieces make up the source.
The main statement says that the first three accept exactly the spans that lie end to end over the
whole source and end between characters, that the fourth never refuses what they accept, and that
the tokens of every source pass. -/

namespace TokenGrammar

/-! ### Boundaries -/

namespace Text

theorem isValid_iff_exists_split (offset : Nat) (text : List Char) :
    (⟨offset⟩ : String.Pos.Raw).IsValid (String.ofList text) ↔
      ∃ before after, text = before ++ after ∧ byteLength before = offset := by
  constructor
  · intro valid
    obtain ⟨left, right, split, placed⟩ := String.Pos.Raw.isValid_iff_exists_append.mp valid
    refine ⟨left.toList, right.toList, ?_, ?_⟩
    · rw [← String.toList_append, ← split, String.toList_ofList]
    · rw [String.Pos.Raw.ext_iff, String.byteIdx_rawEndPos] at placed
      rw [byteLength_eq_utf8ByteSize, String.ofList_toList]
      exact placed.symm
  · rintro ⟨before, after, rfl, rfl⟩
    exact isValid_byteLength before after

theorem slice?_eq_some_iff (start stop : Nat) (text middle : List Char) :
    slice? start stop text = some middle ↔
      ∃ before after, text = before ++ (middle ++ after) ∧ byteLength before = start ∧
        start + byteLength middle = stop := by
  constructor
  · intro sliced
    unfold slice? at sliced
    split at sliced
    · rename_i ordered
      obtain ⟨⟨before, rest⟩, cutStart, inner⟩ := Option.bind_eq_some_iff.mp sliced
      obtain ⟨⟨front, after⟩, cutStop, same⟩ := Option.bind_eq_some_iff.mp inner
      cases same
      obtain ⟨rfl, placed⟩ := (splitAtByte?_eq_some_iff ..).mp cutStart
      obtain ⟨rfl, sized⟩ := (splitAtByte?_eq_some_iff ..).mp cutStop
      exact ⟨before, after, rfl, placed, by omega⟩
    · cases sliced
  · rintro ⟨before, after, rfl, rfl, rfl⟩
    exact slice?_append before middle after

theorem exists_slice?_iff (start stop : Nat) (text : List Char) (ordered : start ≤ stop) :
    (∃ middle, slice? start stop text = some middle) ↔
      (⟨start⟩ : String.Pos.Raw).IsValid (String.ofList text) ∧
        (⟨stop⟩ : String.Pos.Raw).IsValid (String.ofList text) := by
  rw [isValid_iff_exists_split, isValid_iff_exists_split]
  constructor
  · rintro ⟨middle, sliced⟩
    obtain ⟨before, after, split, placed, sized⟩ := (slice?_eq_some_iff ..).mp sliced
    refine ⟨⟨before, _, split, placed⟩, ⟨before ++ middle, after, ?_, ?_⟩⟩
    · rw [split, List.append_assoc]
    · rw [byteLength_append, placed, sized]
  · rintro ⟨⟨before, rest, split, placed⟩, ⟨front, after, sameText, ends⟩⟩
    -- of two cuts of one text the one that comes first cuts the part in front of the other
    rcases List.append_eq_append_iff.mp (split.symm.trans sameText) with
      ⟨middle, rfl, rfl⟩ | ⟨extra, rfl, rfl⟩
    · refine ⟨middle, (slice?_eq_some_iff ..).mpr ⟨before, after, split, placed, ?_⟩⟩
      rw [← placed, ← ends, byteLength_append]
    · rw [byteLength_append] at placed
      have nothing : byteLength extra = 0 := by omega
      have same : start = stop := by omega
      refine ⟨[], (slice?_eq_some_iff ..).mpr ⟨_, rest, split, ?_, ?_⟩⟩
      · rw [byteLength_append]
        omega
      · rw [byteLength_nil]
        omega

end Text

theorem Span.exists_slice_iff (span : Span) (source : List Char) :
    (∃ characters, span.slice source = .ok characters) ↔
      span.start ≤ span.stop ∧
        (⟨span.start⟩ : String.Pos.Raw).IsValid (String.ofList source) ∧
          (⟨span.stop⟩ : String.Pos.Raw).IsValid (String.ofList source) := by
  have cut : (∃ characters, span.slice source = .ok characters) ↔
      ∃ characters, Text.slice? span.start span.stop source = some characters := by
    unfold Span.slice
    cases Text.slice? span.start span.stop source with
    | none => simp
    | some characters => simp
  rw [cut]
  by_cases ordered : span.start ≤ span.stop
  · rw [Text.exists_slice?_iff _ _ _ ordered]
    exact (and_iff_right ordered).symm
  · rw [Text.slice?, if_neg ordered]
    simp [ordered]

/-! ### Spans end to end -/

/-- The spans lie end to end from one offset to another. -/
def JoinFrom : Nat → List Token → Nat → Prop
  | start, [], stop => start = stop
  | start, token :: later, stop =>
      token.span.start = start ∧ JoinFrom token.span.stop later stop

private theorem joinFrom_iff (start : Nat) (tokens : List Token) (stop : Nat) :
    JoinFrom start tokens stop ↔
      (∀ token ∈ tokens.head?, token.span.start = start) ∧
      tokens.IsChain (fun earlier later => later.span.start = earlier.span.stop) ∧
      (∀ token ∈ tokens.getLast?, token.span.stop = stop) ∧ (tokens = [] → start = stop) := by
  induction tokens generalizing start with
  | nil => simp [JoinFrom]
  | cons token later inductionHypothesis =>
      rw [JoinFrom, inductionHypothesis]
      cases later with
      | nil => simp
      | cons next others => simp [List.isChain_cons_cons, and_assoc]

/-- The spans of tokens lie end to end from the first byte of a source to its last, and each of them
starts and ends between two characters or at an end of the source. Spans may be empty, and the empty
source may have none. -/
structure EndToEnd (source : List Char) (tokens : List Token) : Prop where
  first_start : ∀ token ∈ tokens.head?, token.span.start = 0
  adjacent : tokens.IsChain (fun earlier later => later.span.start = earlier.span.stop)
  last_stop : ∀ token ∈ tokens.getLast?, token.span.stop = (String.ofList source).utf8ByteSize
  none_of_empty : tokens = [] → source = []
  boundaries : ∀ token ∈ tokens,
    (⟨token.span.start⟩ : String.Pos.Raw).IsValid (String.ofList source) ∧
      (⟨token.span.stop⟩ : String.Pos.Raw).IsValid (String.ofList source)

theorem Tiling.endToEnd {file : String} {source : List Char} {tokens : List Token}
    (tiling : Tiling file source tokens) : EndToEnd source tokens :=
  ⟨tiling.first_start, tiling.adjacent, tiling.last_stop, tiling.empty_iff.mp, tiling.boundaries⟩

private theorem ordered_and_endToEnd_iff (source : List Char) (tokens : List Token) :
    (∀ token ∈ tokens, token.span.start ≤ token.span.stop) ∧ EndToEnd source tokens ↔
      JoinFrom 0 tokens (Text.byteLength source) ∧
        ∀ token ∈ tokens, ∃ characters, token.span.slice source = .ok characters := by
  have allBytes : (0 = Text.byteLength source) ↔ source = [] := by
    constructor
    · intro noBytes
      by_contra nonempty
      exact absurd noBytes (Nat.ne_of_lt (Text.byteLength_pos source nonempty))
    · rintro rfl
      rfl
  simp only [joinFrom_iff, allBytes, Span.exists_slice_iff]
  rw [Text.byteLength_eq_utf8ByteSize]
  constructor
  · rintro ⟨ordered, first, adjacent, last, nothing, boundaries⟩
    exact ⟨⟨first, adjacent, last, nothing⟩,
      fun token member => ⟨ordered token member, boundaries token member⟩⟩
  · rintro ⟨⟨first, adjacent, last, nothing⟩, cuts⟩
    exact ⟨fun token member => (cuts token member).1, first, adjacent, last, nothing,
      fun token member => (cuts token member).2⟩

/-! ### The steps of the check -/

namespace Expectation

theorem equal_eq_ok_iff {α : Type} [DecidableEq α] (shown : α → List Char)
    (explanation : Option (List Char)) (found wanted : α) (passed : Unit) :
    equal shown explanation found wanted = .ok passed ↔ found = wanted := by
  unfold equal
  split
  · rename_i same
    exact iff_of_true rfl same
  · rename_i different
    exact iff_of_false (fun result => by cases result) different

private theorem bind_eq_ok_iff {α β : Type} (first : Except Fault α) (next : α → Except Fault β)
    (result : β) :
    first >>= next = .ok result ↔ ∃ value, first = .ok value ∧ next value = .ok result := by
  cases first with
  | error fault =>
      constructor
      · intro failed
        cases failed
      · rintro ⟨value, failed, _⟩
        cases failed
  | ok value =>
      constructor
      · intro passed
        exact ⟨value, rfl, passed⟩
      · rintro ⟨_, same, passed⟩
        cases same
        exact passed

end Expectation

namespace TokenExpectation

open Expectation

theorem adjoining_eq_ok_iff (index start : Nat) (tokens : List Token) (stop : Nat) :
    adjoining index start tokens = .ok stop ↔ JoinFrom start tokens stop := by
  induction tokens generalizing index start with
  | nil => simp [adjoining, JoinFrom]
  | cons token later inductionHypothesis =>
      rw [adjoining, bind_eq_ok_iff]
      simp only [equal_eq_ok_iff, inductionHypothesis, JoinFrom, exists_const]

theorem exists_rebuilt_iff (source : List Char) (tokens : List Token) :
    (∃ characters, rebuilt source tokens = .ok characters) ↔
      ∀ token ∈ tokens, ∃ characters, token.span.slice source = .ok characters := by
  induction tokens with
  | nil => simp [rebuilt]
  | cons token later inductionHypothesis =>
      rw [List.forall_mem_cons, ← inductionHypothesis]
      simp only [rebuilt, bind_eq_ok_iff]
      constructor
      · rintro ⟨_, characters, sliced, rest, rebuiltLater, _⟩
        exact ⟨⟨characters, sliced⟩, ⟨rest, rebuiltLater⟩⟩
      · rintro ⟨⟨characters, sliced⟩, ⟨rest, rebuiltLater⟩⟩
        exact ⟨_, characters, sliced, rest, rebuiltLater, rfl⟩

/-- What spans that lie end to end are rebuilt to is what the source has between their ends. -/
theorem rebuilt_of_joinFrom (before rest : List Char) (tokens : List Token) (stop : Nat)
    (joined : JoinFrom (Text.byteLength before) tokens stop) (characters : List Char)
    (built : rebuilt (before ++ rest) tokens = .ok characters) :
    ∃ after, rest = characters ++ after ∧
      Text.byteLength before + Text.byteLength characters = stop := by
  -- the source stays the same while the characters of a span move into the part in front
  induction tokens generalizing before rest characters with
  | nil =>
      cases built
      exact ⟨rest, rfl, joined⟩
  | cons token later inductionHypothesis =>
      obtain ⟨startsHere, joinedLater⟩ := joined
      simp only [rebuilt, bind_eq_ok_iff] at built
      obtain ⟨first, sliced, others, builtLater, joinedText⟩ := built
      cases joinedText
      obtain ⟨after, rfl, ends⟩ : ∃ after, rest = first ++ after ∧
          Text.byteLength before + Text.byteLength first = token.span.stop := by
        unfold Span.slice at sliced
        split at sliced
        · rename_i cut
          cases sliced
          obtain ⟨front, after, split, placed, sized⟩ := (Text.slice?_eq_some_iff ..).mp cut
          have sameFront := Text.splitAtByte?_append before rest
          rw [split, ← startsHere, ← placed, Text.splitAtByte?_append] at sameFront
          cases sameFront
          exact ⟨after, rfl, by omega⟩
        · cases sliced
      rw [← ends, ← Text.byteLength_append] at joinedLater
      rw [← List.append_assoc] at builtLater
      obtain ⟨final, rfl, reached⟩ :=
        inductionHypothesis (before ++ first) after joinedLater others builtLater
      refine ⟨final, (List.append_assoc ..).symm, ?_⟩
      rw [Text.byteLength_append] at reached ⊢
      omega

theorem rebuilt_eq_source (source : List Char) (tokens : List Token)
    (joined : JoinFrom 0 tokens (Text.byteLength source)) (characters : List Char)
    (built : rebuilt source tokens = .ok characters) : characters = source := by
  obtain ⟨after, split, reached⟩ :=
    rebuilt_of_joinFrom [] source tokens _ joined characters built
  cases after with
  | nil => rw [split, List.append_nil]
  | cons next others =>
      have behind := Text.byteLength_pos (next :: others) (List.cons_ne_nil _ _)
      have whole := congrArg Text.byteLength split
      rw [Text.byteLength_append] at whole
      rw [Text.byteLength_nil] at reached
      omega

theorem checkCovers_eq_ok_iff (tokens : List Token) (source : List Char) :
    checkCovers tokens source = .ok () ↔
      (∀ token ∈ tokens, token.span.start ≤ token.span.stop) ∧ EndToEnd source tokens := by
  rw [ordered_and_endToEnd_iff, ← exists_rebuilt_iff]
  unfold checkCovers
  simp only [bind_eq_ok_iff, adjoining_eq_ok_iff, equal_eq_ok_iff]
  constructor
  · rintro ⟨_, joined, _, rfl, characters, built, _⟩
    exact ⟨joined, characters, built⟩
  · rintro ⟨joined, characters, built⟩
    exact ⟨_, joined, (), rfl, characters, built, rebuilt_eq_source source tokens joined _ built⟩

/-- The expectation passes exactly on tokens whose spans are in order, lie end to end over the whole
source and end between characters. Once spans have been found to lie end to end and could be cut
out, the characters under them are the source, so the last comparison passes. The tokens of every
source that can be tokenized pass. -/
theorem covers_passes_iff_end_to_end (tokens : List Token) (source : List Char) :
    (check tokens (.covers source) = .ok () ↔
      (∀ token ∈ tokens, token.span.start ≤ token.span.stop) ∧ EndToEnd source tokens) ∧
    (∀ characters, adjoining 0 0 tokens = .ok (Text.byteLength source) →
      rebuilt source tokens = .ok characters →
      equal Text.quoted none characters source = .ok ()) ∧
    ∀ settings, tokenize settings source = .ok tokens →
      check tokens (.covers source) = .ok () := by
  refine ⟨checkCovers_eq_ok_iff tokens source, ?_, ?_⟩
  · intro characters reached built
    rw [equal_eq_ok_iff]
    exact rebuilt_eq_source source tokens ((adjoining_eq_ok_iff ..).mp reached) characters built
  · intro settings succeeded
    have tiling := tokenize_tiles settings source tokens succeeded
    exact (checkCovers_eq_ok_iff tokens source).mpr
      ⟨fun token member => Nat.le_of_lt (tiling.nonempty token member), tiling.endToEnd⟩

/-- A letter of two bytes and an operator, as they are tokenized and with an empty span between
them. -/
theorem letter_and_operator_covered :
    let letter : Token := ⟨.identifier, "é", ⟨0, 2, "."⟩⟩
    let empty : Token := ⟨.string, "", ⟨2, 2, "."⟩⟩
    let plus : Token := ⟨.operator, "+", ⟨2, 3, "."⟩⟩
    (tokenize { fileId := "." } ['é', '+'] = .ok [letter, plus] ∧
      check [letter, plus] (.covers ['é', '+']) = .ok ()) ∧
    (adjoining 0 0 [letter, empty, plus] = .ok (Text.byteLength ['é', '+']) ∧
      rebuilt ['é', '+'] [letter, empty, plus] = .ok ['é', '+'] ∧
      equal Text.quoted none ['é', '+'] ['é', '+'] = .ok ()) ∧
    (∀ token ∈ [letter, empty, plus], token.span.start ≤ token.span.stop) ∧
      EndToEnd ['é', '+'] [letter, empty, plus] := by
  intro letter empty plus
  have succeeded : tokenize { fileId := "." } ['é', '+'] = .ok [letter, plus] := by
    decide +kernel
  have reached : adjoining 0 0 [letter, empty, plus] = .ok (Text.byteLength ['é', '+']) := rfl
  have built : rebuilt ['é', '+'] [letter, empty, plus] = .ok ['é', '+'] := rfl
  obtain ⟨decided, same, _⟩ := covers_passes_iff_end_to_end [letter, empty, plus] ['é', '+']
  exact ⟨⟨succeeded, (covers_passes_iff_end_to_end _ _).2.2 _ succeeded⟩,
    ⟨reached, built, same _ reached built⟩, decided.mp rfl⟩

-- a span that ends inside the letter
example : check [⟨.identifier, "", ⟨0, 1, "."⟩⟩, ⟨.operator, "", ⟨1, 3, "."⟩⟩]
    (.covers ['é', '+']) = .error .offBoundary := by
  rfl

end TokenExpectation

end TokenGrammar
