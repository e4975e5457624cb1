import Mathlib.Data.List.Chain
import Mathlib.Data.List.Forall2
import TokenGrammar.Token.Tokenize

set_option autoImplicit false

/-! Spans tile the source. Offsets come from adding up the byte lengths of the lexemes in front;
this file shows that such sums are character boundaries of the source, that slicing by them
gives the lexemes back, and that the tokens of a successful run leave no byte out and cover none
twice. -/

namespace TokenGrammar

/-! ### Byte offsets -/

namespace Text

theorem byteLength_eq_utf8ByteSize (text : List Char) :
    byteLength text = (String.ofList text).utf8ByteSize := by
  induction text with
  | nil => simp
  | cons character rest inductionHypothesis =>
      rw [byteLength_cons, inductionHypothesis, String.ofList_cons, String.utf8ByteSize_append,
        String.utf8ByteSize_singleton]

theorem byteLength_pos (text : List Char) (nonempty : text ≠ []) : 0 < byteLength text := by
  cases text with
  | nil => exact absurd rfl nonempty
  | cons character rest =>
      have positive := character.utf8Size_pos
      rw [byteLength_cons]
      omega

theorem splitAtByte?_append (before after : List Char) :
    splitAtByte? (byteLength before) (before ++ after) = some (before, after) := by
  induction before with
  | nil => simp [splitAtByte?]
  | cons character rest inductionHypothesis =>
      have positive := character.utf8Size_pos
      obtain ⟨size, sized⟩ : ∃ size, character.utf8Size + byteLength rest = size + 1 :=
        ⟨character.utf8Size + byteLength rest - 1, by omega⟩
      rw [byteLength_cons, sized, List.cons_append, splitAtByte?, if_pos (by omega), ← sized,
        Nat.add_sub_cancel_left, inductionHypothesis]
      rfl

theorem splitAtByte?_eq_some_iff (offset : Nat) (text before after : List Char) :
    splitAtByte? offset text = some (before, after) ↔
      before ++ after = text ∧ byteLength before = offset := by
  constructor
  · intro cut
    fun_induction splitAtByte? offset text generalizing before after with
    | case1 text =>
        cases cut
        exact ⟨rfl, rfl⟩
    | case2 => cases cut
    | case3 offset character rest fits inductionHypothesis =>
        obtain ⟨⟨front, _⟩, inner, same⟩ := Option.map_eq_some_iff.mp cut
        cases same
        obtain ⟨joined, sized⟩ := inductionHypothesis front after inner
        refine ⟨congrArg (character :: ·) joined, ?_⟩
        rw [byteLength_cons]
        omega
    | case4 => cases cut
  · intro parts
    rcases parts with ⟨rfl, rfl⟩
    exact splitAtByte?_append before after

/-- The characters between two parts of a text are found by the byte offsets of their ends. -/
theorem slice?_append (before middle after : List Char) :
    slice? (byteLength before) (byteLength before + byteLength middle)
      (before ++ (middle ++ after)) = some middle := by
  unfold slice?
  rw [if_pos (Nat.le_add_right _ _), splitAtByte?_append]
  simp only [Option.bind_eq_bind, Option.bind_some, Nat.add_sub_cancel_left, splitAtByte?_append]
  rfl

theorem isValid_byteLength (before after : List Char) :
    (⟨byteLength before⟩ : String.Pos.Raw).IsValid (String.ofList (before ++ after)) := by
  apply String.Pos.Raw.isValid_iff_exists_append.mpr
  refine ⟨String.ofList before, String.ofList after, String.ofList_append, ?_⟩
  rw [String.Pos.Raw.ext_iff, String.byteIdx_rawEndPos, byteLength_eq_utf8ByteSize]

end Text

/-! ### Lexemes of a source -/

namespace Lexeme

theorem joined_cut (source : List Char) :
    (cut source).lexemes.flatMap Lexeme.raw ++ (cut source).unread = source := by
  fun_induction cut source with
  | case1 source nothing => rfl
  | case2 source lexeme rest read later inductionHypothesis =>
      calc lexeme.raw ++ later.lexemes.flatMap Lexeme.raw ++ later.unread
          = lexeme.raw ++ (later.lexemes.flatMap Lexeme.raw ++ later.unread) :=
            List.append_assoc ..
        _ = lexeme.raw ++ rest := congrArg (lexeme.raw ++ ·) inductionHypothesis
        _ = source := raw_append_of_first? source lexeme rest read

private theorem raw_ne_nil_of_mem_cut (source : List Char) (lexeme : Lexeme)
    (member : lexeme ∈ (cut source).lexemes) : lexeme.raw ≠ [] := by
  fun_induction cut source with
  | case1 source nothing => cases member
  | case2 source first rest read later inductionHypothesis =>
      rcases List.mem_cons.mp member with rfl | inLater
      · exact raw_ne_nil_of_first? source lexeme rest read
      · exact inductionHypothesis inLater

end Lexeme

theorem tokenize_eq_ok_iff_cut (settings : TokenizerSettings) (source : List Char)
    (tokens : List Token) :
    tokenize settings source = .ok tokens ↔
      (Lexeme.cut source).unread = [] ∧
        placeAll settings.fileId 0 (Lexeme.cut source).lexemes = tokens := by
  unfold tokenize
  dsimp only
  split
  · rename_i allRead
    rw [Except.ok.injEq, and_iff_right allRead]
  · rename_i someUnread
    constructor
    · intro failed
      cases failed
    · intro placed
      rcases placed with ⟨allRead, _⟩
      exact absurd allRead someUnread

/-! ### Placed lexemes -/

theorem exists_split_of_mem_placeAll (file : String) (offset : Nat) (lexemes : List Lexeme)
    (token : Token) (member : token ∈ placeAll file offset lexemes) :
    ∃ before lexeme after, lexemes = before ++ lexeme :: after ∧
      token = lexeme.place file (offset + Text.byteLength (before.flatMap Lexeme.raw)) := by
  induction lexemes generalizing offset with
  | nil => cases member
  | cons first later inductionHypothesis =>
      rcases List.mem_cons.mp member with rfl | inLater
      · exact ⟨[], first, later, rfl, rfl⟩
      · obtain ⟨before, lexeme, after, split, placed⟩ := inductionHypothesis _ inLater
        refine ⟨first :: before, lexeme, after, by rw [split]; rfl, ?_⟩
        rw [placed, List.flatMap_cons, Text.byteLength_append, Nat.add_assoc]

private theorem isChain_placeAll (file : String) (offset : Nat) (lexemes : List Lexeme) :
    (placeAll file offset lexemes).IsChain
      (fun earlier later => later.span.start = earlier.span.stop) := by
  induction lexemes generalizing offset with
  | nil => exact List.IsChain.nil
  | cons first later inductionHypothesis =>
      cases later with
      | nil => exact List.IsChain.singleton _
      | cons second others =>
          exact List.IsChain.cons_cons rfl (inductionHypothesis _)

theorem stop_of_mem_getLast?_placeAll (file : String) (offset : Nat) (lexemes : List Lexeme)
    (token : Token) (last : token ∈ (placeAll file offset lexemes).getLast?) :
    token.span.stop = offset + Text.byteLength (lexemes.flatMap Lexeme.raw) := by
  induction lexemes generalizing offset with
  | nil => cases last
  | cons first later inductionHypothesis =>
      cases later with
      | nil =>
          have only : token = first.place file offset := (Option.some.inj last).symm
          simp [only, Lexeme.place]
      | cons second others =>
          have shifted := inductionHypothesis (offset + Text.byteLength first.raw) last
          rw [shifted, Nat.add_assoc, ← Text.byteLength_append]
          rfl

/-- A token stands for a lexeme of a source: it has the kind and the text of the lexeme, and the
slice under its span is the lexeme as written. -/
structure Token.StandsFor (source : List Char) (token : Token) (lexeme : Lexeme) : Prop where
  kind : token.kind = lexeme.kind
  text : token.text.toList = lexeme.text
  slice : token.span.slice source = .ok lexeme.raw

theorem standsFor_placeAll (file : String) (before : List Char) (lexemes : List Lexeme) :
    List.Forall₂ (Token.StandsFor (before ++ lexemes.flatMap Lexeme.raw))
      (placeAll file (Text.byteLength before) lexemes) lexemes := by
  -- the source stays the same while lexemes move into the part before the offset
  induction lexemes generalizing before with
  | nil => exact List.Forall₂.nil
  | cons first later inductionHypothesis =>
      refine List.Forall₂.cons ⟨rfl, String.toList_ofList, ?_⟩ ?_
      · rw [List.flatMap_cons, Span.slice, Lexeme.place, Text.slice?_append]
      · have shifted := inductionHypothesis (before ++ first.raw)
        rwa [Text.byteLength_append, List.append_assoc, ← List.flatMap_cons] at shifted

private theorem mapM_slice_eq (source : List Char) (tokens : List Token) (lexemes : List Lexeme)
    (stand : List.Forall₂ (Token.StandsFor source) tokens lexemes) :
    tokens.mapM (fun token => token.span.slice source) = .ok (lexemes.map Lexeme.raw) := by
  induction stand with
  | nil => rfl
  | cons first _ inductionHypothesis =>
      rw [List.mapM_cons, first.slice, inductionHypothesis]
      rfl

/-! ### Tiling -/

/-- The spans of tokens tile a source text: side by side they cover every byte of it, each span
one or more whole characters, and all of them name the same file. -/
structure Tiling (file : String) (source : List Char) (tokens : List Token) : Prop where
  first_start : ∀ token ∈ tokens.head?, token.span.start = 0
  adjacent : tokens.IsChain (fun earlier later => later.span.start = earlier.span.stop)
  last_stop : ∀ token ∈ tokens.getLast?, token.span.stop = (String.ofList source).utf8ByteSize
  empty_iff : tokens = [] ↔ source = []
  nonempty : ∀ token ∈ tokens, token.span.start < token.span.stop
  boundaries : ∀ token ∈ tokens,
    (⟨token.span.start⟩ : String.Pos.Raw).IsValid (String.ofList source) ∧
      (⟨token.span.stop⟩ : String.Pos.Raw).IsValid (String.ofList source)
  slices : ∃ parts, tokens.mapM (fun token => token.span.slice source) = .ok parts ∧
    parts.flatten = source
  same_file : ∀ token ∈ tokens, token.span.file = file

theorem tiling_placeAll (file : String) (lexemes : List Lexeme)
    (nonempty : ∀ lexeme ∈ lexemes, lexeme.raw ≠ []) :
    Tiling file (lexemes.flatMap Lexeme.raw) (placeAll file 0 lexemes) where
  first_start := by
    intro token first
    cases lexemes with
    | nil => cases first
    | cons lexeme later =>
        cases first
        rfl
  adjacent := isChain_placeAll file 0 lexemes
  last_stop := by
    intro token last
    rw [stop_of_mem_getLast?_placeAll file 0 lexemes token last, Nat.zero_add,
      Text.byteLength_eq_utf8ByteSize]
  empty_iff := by
    cases lexemes with
    | nil => simp [placeAll]
    | cons lexeme later =>
        have written := nonempty lexeme List.mem_cons_self
        simp [placeAll, written]
  nonempty := by
    intro token member
    obtain ⟨before, lexeme, after, rfl, rfl⟩ :=
      exists_split_of_mem_placeAll file 0 lexemes token member
    have positive := Text.byteLength_pos lexeme.raw (nonempty lexeme (by simp))
    simp only [Lexeme.place]
    omega
  boundaries := by
    intro token member
    obtain ⟨before, lexeme, after, rfl, rfl⟩ :=
      exists_split_of_mem_placeAll file 0 lexemes token member
    have atStart := Text.isValid_byteLength (before.flatMap Lexeme.raw)
      (lexeme.raw ++ after.flatMap Lexeme.raw)
    have atStop := Text.isValid_byteLength (before.flatMap Lexeme.raw ++ lexeme.raw)
      (after.flatMap Lexeme.raw)
    rw [List.flatMap_append, List.flatMap_cons]
    rw [Text.byteLength_append, List.append_assoc] at atStop
    simp only [Lexeme.place, Nat.zero_add]
    exact ⟨atStart, atStop⟩
  slices := by
    refine ⟨lexemes.map Lexeme.raw, ?_, List.flatMap_def.symm⟩
    exact mapM_slice_eq _ _ lexemes (standsFor_placeAll file [] lexemes)
  same_file := by
    intro token member
    obtain ⟨before, lexeme, after, rfl, rfl⟩ :=
      exists_split_of_mem_placeAll file 0 lexemes token member
    rfl

/-- Whenever tokenizing succeeds, whatever the source and the settings, the spans tile the
source. -/
theorem tokenize_tiles (settings : TokenizerSettings) (source : List Char) (tokens : List Token)
    (succeeded : tokenize settings source = .ok tokens) :
    Tiling settings.fileId source tokens := by
  obtain ⟨allRead, rfl⟩ := (tokenize_eq_ok_iff_cut settings source tokens).mp succeeded
  have joined := Lexeme.joined_cut source
  rw [allRead, List.append_nil] at joined
  have tiling := tiling_placeAll settings.fileId (Lexeme.cut source).lexemes
    (Lexeme.raw_ne_nil_of_mem_cut source)
  rwa [joined] at tiling

/-- A two-byte letter followed by a string with an escape. -/
theorem tiles_letter_and_escape :
    tokenize { fileId := "a" } ['é', '\'', '\\', 'n', '\''] =
        .ok [⟨.identifier, "é", ⟨0, 2, "a"⟩⟩,
          ⟨.string, "\n", ⟨2, 6, "a"⟩⟩] ∧
      Tiling "a" ['é', '\'', '\\', 'n', '\'']
        [⟨.identifier, "é", ⟨0, 2, "a"⟩⟩,
          ⟨.string, "\n", ⟨2, 6, "a"⟩⟩] := by
  have succeeded : tokenize { fileId := "a" } ['é', '\'', '\\', 'n', '\''] =
      .ok [⟨.identifier, "é", ⟨0, 2, "a"⟩⟩,
        ⟨.string, "\n", ⟨2, 6, "a"⟩⟩] := by
    decide +kernel
  exact ⟨succeeded, tokenize_tiles _ _ _ succeeded⟩

end TokenGrammar
