import TokenGrammar.Proofs.LexicalGrammar

set_option autoImplicit false

/-! Cutting and joining sources. A lexeme depends on the one character behind it and on nothing in
front of it. So a source may be cut at any token boundary, and two sources may be joined unless the
first character of the second one would become part of the last token of the first one. -/

namespace TokenGrammar

namespace Lexeme

/-! ### Lexemes in front of other text -/

/-- Each lexeme obeys its rule with respect to the character that follows it, where the other
lexemes and then more text follow. -/
def ObeyedBefore (rest : List Char) (lexemes : List Lexeme) : Prop :=
  ∀ before lexeme after, lexemes = before ++ lexeme :: after →
    lexeme.Obeys (after.flatMap Lexeme.raw ++ rest).head?

theorem obeyedBefore_nil (rest : List Char) : ObeyedBefore rest [] := by
  intro before lexeme after split
  simp at split

theorem obeyedBefore_cons_iff (rest : List Char) (lexeme : Lexeme) (later : List Lexeme) :
    ObeyedBefore rest (lexeme :: later) ↔
      lexeme.Obeys (later.flatMap Lexeme.raw ++ rest).head? ∧ ObeyedBefore rest later := by
  constructor
  · intro obeyed
    constructor
    · exact obeyed [] lexeme later rfl
    · intro before other after split
      exact obeyed (lexeme :: before) other after (by rw [split]; rfl)
  · rintro ⟨obeys, laterObeyed⟩ before other after split
    cases before with
    | nil =>
        obtain ⟨rfl, rfl⟩ := List.cons.inj split
        exact obeys
    | cons first others =>
        obtain ⟨_, laterSplit⟩ := List.cons.inj split
        exact laterObeyed others other after laterSplit

theorem obeyedBefore_append_iff (rest : List Char) (before after : List Lexeme) :
    ObeyedBefore rest (before ++ after) ↔
      ObeyedBefore (after.flatMap Lexeme.raw ++ rest) before ∧ ObeyedBefore rest after := by
  induction before with
  | nil => simp [obeyedBefore_nil]
  | cons first later inductionHypothesis =>
      rw [List.cons_append, obeyedBefore_cons_iff, obeyedBefore_cons_iff, inductionHypothesis,
        List.flatMap_append, List.append_assoc, and_assoc]

theorem decomposition_iff_obeyedBefore (source : List Char) (lexemes : List Lexeme) :
    Decomposition source lexemes ↔
      lexemes.flatMap Lexeme.raw = source ∧ ObeyedBefore [] lexemes := by
  constructor
  · rintro ⟨joined, obeyed⟩
    refine ⟨joined, ?_⟩
    intro before lexeme after split
    rw [List.append_nil]
    exact obeyed before lexeme after split
  · rintro ⟨joined, obeyed⟩
    refine ⟨joined, ?_⟩
    intro before lexeme after split
    have obeys := obeyed before lexeme after split
    rwa [List.append_nil] at obeys

theorem Obeys.at_end {lexeme : Lexeme} {next : Option Char} (obeys : lexeme.Obeys next) :
    lexeme.Obeys none := by
  cases obeys with
  | space nonempty blanks _ => exact .space nonempty blanks (by simp)
  | whole nonempty decimal _ => exact .whole nonempty decimal (by simp)
  | fractional nonempty decimal fractional _ =>
      exact .fractional nonempty decimal fractional (by simp)
  | identifier opens continues _ => exact .identifier opens continues (by simp)
  | string quoted fit => exact .string quoted fit
  | pair paired => exact .pair paired
  | single opens _ => exact .single opens (by simp)

theorem Obeys.raw_ne_nil {lexeme : Lexeme} {next : Option Char} (obeys : lexeme.Obeys next) :
    lexeme.raw ≠ [] :=
  raw_ne_nil_of_first? _ lexeme [] (first?_of_obeys lexeme [] obeys.at_end)

/-- Lexemes that fit together by themselves fit together in front of any text that their last one
may be followed by. -/
theorem obeyedBefore_iff_last (lexemes : List Lexeme) (alone : ObeyedBefore [] lexemes)
    (rest : List Char) :
    ObeyedBefore rest lexemes ↔ ∀ last ∈ lexemes.getLast?, last.Obeys rest.head? := by
  induction lexemes with
  | nil => simp [obeyedBefore_nil]
  | cons first later inductionHypothesis =>
      obtain ⟨firstObeys, laterAlone⟩ := (obeyedBefore_cons_iff [] first later).mp alone
      rw [obeyedBefore_cons_iff, inductionHypothesis laterAlone]
      cases later with
      | nil => simp
      | cons second others =>
          -- the character behind the first lexeme belongs to the second one
          have secondObeys := ((obeyedBefore_cons_iff [] second others).mp laterAlone).1
          obtain ⟨character, more, written⟩ := List.exists_cons_of_ne_nil secondObeys.raw_ne_nil
          rw [List.flatMap_cons, written] at firstObeys ⊢
          rw [List.getLast?_cons_cons]
          exact and_iff_right firstObeys

theorem ObeyedBefore.alone {rest : List Char} {lexemes : List Lexeme}
    (obeyed : ObeyedBefore rest lexemes) : ObeyedBefore [] lexemes := by
  intro before lexeme after split
  have obeys := obeyed before lexeme after split
  rw [List.append_nil]
  -- only the last lexeme sees another character behind it than before
  cases following : after.flatMap Lexeme.raw with
  | nil => exact obeys.at_end
  | cons character later =>
      rw [following] at obeys
      exact obeys

theorem decomposition_of_obeyedBefore (rest : List Char) (lexemes : List Lexeme)
    (obeyed : ObeyedBefore rest lexemes) :
    Decomposition (lexemes.flatMap Lexeme.raw) lexemes :=
  (decomposition_iff_obeyedBefore _ lexemes).mpr ⟨rfl, obeyed.alone⟩

end Lexeme

/-! ### What extends a token -/

/-- The character would become part of the token if it stood right behind it. -/
def Token.ExtendedBy (token : Token) (following : Char) : Prop :=
  match token.kind with
  | .space => Lexeme.isBlank following = true
  | .number =>
      Text.isDecimalDigit following = true ∨ (following = '.' ∧ '.' ∉ token.text.toList)
  | .identifier =>
      Text.isLetter following = true ∨ Text.isNumeric following = true ∨ following = '_'
  | .string => False
  | .operator =>
      ∃ character, token.text.toList = [character] ∧
        (character, following) ∈ Lexeme.operatorPairs

namespace Lexeme

private theorem Obeys.not_extendedBy {lexeme : Lexeme} {following : Char}
    (obeys : lexeme.Obeys (some following)) (file : String) (offset : Nat) :
    ¬ (lexeme.place file offset).ExtendedBy following := by
  intro extended
  cases obeys with
  | space nonempty blanks ends =>
      have ended := ends following rfl
      simp [Token.ExtendedBy, place, ended] at extended
  | whole nonempty decimal ends =>
      have ended := ends following rfl
      simp [Token.ExtendedBy, place, ended] at extended
  | fractional nonempty decimal fractional ends =>
      have ended := ends following rfl
      simp [Token.ExtendedBy, place, ended] at extended
  | identifier opens continues ends =>
      have ended := ends following rfl
      simp [Token.ExtendedBy, place, ended] at extended
  | string quoted fit => exact extended
  | pair paired => simp [Token.ExtendedBy, place] at extended
  | single opens ends =>
      have ended := ends following rfl
      simp [Token.ExtendedBy, place, ended] at extended

theorem Obeys.before {lexeme : Lexeme} (obeys : lexeme.Obeys none) {following : Char}
    {file : String} {offset : Nat}
    (notExtended : ¬ (lexeme.place file offset).ExtendedBy following) :
    lexeme.Obeys (some following) := by
  cases obeys with
  | space nonempty blanks _ =>
      refine .space nonempty blanks ?_
      rintro _ ⟨⟩
      simpa [Token.ExtendedBy, place] using notExtended
  | @whole digits _ nonempty decimal _ =>
      refine .whole nonempty decimal ?_
      rintro _ ⟨⟩
      have noPoint : '.' ∉ digits := by
        intro point
        have digit := decimal '.' point
        revert digit
        decide
      simpa [Token.ExtendedBy, place, noPoint] using notExtended
  | fractional nonempty decimal fractional _ =>
      refine .fractional nonempty decimal fractional ?_
      rintro _ ⟨⟩
      simpa [Token.ExtendedBy, place] using notExtended
  | identifier opens continues _ =>
      refine .identifier opens continues ?_
      rintro _ ⟨⟩
      simpa [Token.ExtendedBy, place] using notExtended
  | string quoted fit => exact .string quoted fit
  | pair paired => exact .pair paired
  | single opens _ =>
      refine .single opens ?_
      rintro _ ⟨⟩
      simpa [Token.ExtendedBy, place] using notExtended

end Lexeme

/-! ### Tokens in another place -/

def Span.movedBy (offset : Nat) (span : Span) : Span :=
  { span with
    start := span.start + offset
    stop := span.stop + offset }

def Token.movedBy (offset : Nat) (token : Token) : Token :=
  { token with span := token.span.movedBy offset }

/-- The offset behind the last token, and the start of the source if there is no token. -/
def endOf (tokens : List Token) : Nat :=
  (tokens.getLast?.map (fun token => token.span.stop)).getD 0

theorem Lexeme.movedBy_place (file : String) (start offset : Nat) (lexeme : Lexeme) :
    (lexeme.place file start).movedBy offset = lexeme.place file (start + offset) := by
  simp only [Token.movedBy, Span.movedBy, place, Token.mk.injEq, Span.mk.injEq, true_and,
    and_true]
  omega

theorem movedBy_placeAll (file : String) (start offset : Nat) (lexemes : List Lexeme) :
    (placeAll file start lexemes).map (Token.movedBy offset) =
      placeAll file (start + offset) lexemes := by
  induction lexemes generalizing start with
  | nil => rfl
  | cons first later inductionHypothesis =>
      have ahead : start + Text.byteLength first.raw + offset =
          start + offset + Text.byteLength first.raw := by omega
      rw [placeAll, placeAll, List.map_cons, first.movedBy_place, inductionHypothesis, ahead]

theorem placeAll_append (file : String) (start : Nat) (before after : List Lexeme) :
    placeAll file start (before ++ after) = placeAll file start before ++
      placeAll file (start + Text.byteLength (before.flatMap Lexeme.raw)) after := by
  induction before generalizing start with
  | nil => rfl
  | cons first later inductionHypothesis =>
      rw [List.cons_append, placeAll, placeAll, List.cons_append, inductionHypothesis,
        List.flatMap_cons, Text.byteLength_append, Nat.add_assoc]

theorem take_placeAll (file : String) (start count : Nat) (lexemes : List Lexeme) :
    (placeAll file start lexemes).take count = placeAll file start (lexemes.take count) := by
  induction lexemes generalizing start count with
  | nil => simp [placeAll]
  | cons first later inductionHypothesis =>
      cases count with
      | zero => rfl
      | succ count =>
          rw [placeAll, List.take_succ_cons, inductionHypothesis, List.take_succ_cons, placeAll]

theorem drop_placeAll (file : String) (start count : Nat) (lexemes : List Lexeme) :
    (placeAll file start lexemes).drop count =
      placeAll file (start + Text.byteLength ((lexemes.take count).flatMap Lexeme.raw))
        (lexemes.drop count) := by
  induction lexemes generalizing start count with
  | nil => simp [placeAll]
  | cons first later inductionHypothesis =>
      cases count with
      | zero => rfl
      | succ count =>
          rw [placeAll, List.drop_succ_cons, inductionHypothesis, List.take_succ_cons,
            List.flatMap_cons, Text.byteLength_append, Nat.add_assoc, List.drop_succ_cons]

theorem endOf_placeAll (file : String) (lexemes : List Lexeme) :
    endOf (placeAll file 0 lexemes) = Text.byteLength (lexemes.flatMap Lexeme.raw) := by
  unfold endOf
  cases last : (placeAll file 0 lexemes).getLast? with
  | none =>
      have noTokens := List.getLast?_eq_none_iff.mp last
      cases lexemes with
      | nil => rfl
      | cons first later => cases noTokens
  | some token =>
      have stops := stop_of_mem_getLast?_placeAll file 0 lexemes token last
      rw [Option.map_some, Option.getD_some, stops, Nat.zero_add]

theorem getLast?_placeAll (file : String) (start : Nat) (lexemes : List Lexeme) (last : Lexeme)
    (isLast : lexemes.getLast? = some last) :
    ∃ offset, (placeAll file start lexemes).getLast? = some (last.place file offset) := by
  obtain ⟨others, rfl⟩ := List.getLast?_eq_some_iff.mp isLast
  rw [placeAll_append]
  exact ⟨_, List.getLast?_concat⟩

private theorem eq_of_placeAll_eq (file : String) (left right : List Lexeme)
    (joined : left.flatMap Lexeme.raw = right.flatMap Lexeme.raw)
    (same : placeAll file 0 left = placeAll file 0 right) : left = right := by
  have leftStands := standsFor_placeAll file [] left
  have rightStands := standsFor_placeAll file [] right
  rw [List.nil_append, Text.byteLength_nil] at leftStands rightStands
  rw [← joined, ← same] at rightStands
  exact List.right_unique_forall₂' (standsFor_rightUnique _) leftStands rightStands

/-- Tokenizing finds given lexemes in the text that they make up exactly if they fit together. -/
theorem tokenize_flatMap_raw_iff (settings : TokenizerSettings) (lexemes : List Lexeme) :
    tokenize settings (lexemes.flatMap Lexeme.raw) = .ok (placeAll settings.fileId 0 lexemes) ↔
      Lexeme.ObeyedBefore [] lexemes := by
  rw [tokenize_eq_ok_iff]
  constructor
  · rintro ⟨found, decomposition, placed⟩
    have same := eq_of_placeAll_eq settings.fileId found lexemes decomposition.joined placed
    rw [same] at decomposition
    exact ((Lexeme.decomposition_iff_obeyedBefore _ _).mp decomposition).2
  · intro obeyed
    exact ⟨lexemes, Lexeme.decomposition_of_obeyedBefore [] lexemes obeyed, rfl⟩

theorem exists_lexemes_of_tokenize (settings : TokenizerSettings) (source : List Char)
    (tokens : List Token) (succeeded : tokenize settings source = .ok tokens) :
    ∃ lexemes, lexemes.flatMap Lexeme.raw = source ∧ Lexeme.ObeyedBefore [] lexemes ∧
      placeAll settings.fileId 0 lexemes = tokens := by
  obtain ⟨lexemes, decomposition, placed⟩ := (tokenize_eq_ok_iff settings source tokens).mp succeeded
  obtain ⟨joined, obeyed⟩ := (Lexeme.decomposition_iff_obeyedBefore source lexemes).mp decomposition
  exact ⟨lexemes, joined, obeyed, placed⟩

/-! ### Cutting and joining -/

/-- Any cut between two tokens of a source gives two texts that tokenize to the tokens in front of
the cut and to those behind it, the latter counted from the cut. So the slice under a single token
tokenizes to that token. -/
theorem tokenize_at_every_cut (settings : TokenizerSettings) (source : List Char)
    (tokens : List Token) (succeeded : tokenize settings source = .ok tokens) :
    (∀ count, ∃ before after later,
      Text.splitAtByte? (endOf (tokens.take count)) source = some (before, after) ∧
        tokenize settings before = .ok (tokens.take count) ∧
        tokenize settings after = .ok later ∧
        tokens.drop count = later.map (Token.movedBy (endOf (tokens.take count)))) ∧
    (∀ token ∈ tokens, ∃ raw single, token.span.slice source = .ok raw ∧
      tokenize settings raw = .ok [single] ∧ token = single.movedBy token.span.start) := by
  obtain ⟨lexemes, rfl, obeyed, rfl⟩ := exists_lexemes_of_tokenize settings source tokens succeeded
  constructor
  · intro count
    have parts := List.take_append_drop count lexemes
    rw [← parts, Lexeme.obeyedBefore_append_iff] at obeyed
    obtain ⟨frontObeyed, backObeyed⟩ := obeyed
    rw [take_placeAll, drop_placeAll, endOf_placeAll]
    refine ⟨(lexemes.take count).flatMap Lexeme.raw, (lexemes.drop count).flatMap Lexeme.raw,
      placeAll settings.fileId 0 (lexemes.drop count), ?_, ?_, ?_, ?_⟩
    · have split := Text.splitAtByte?_append ((lexemes.take count).flatMap Lexeme.raw)
        ((lexemes.drop count).flatMap Lexeme.raw)
      rwa [← List.flatMap_append, parts] at split
    · exact (tokenize_flatMap_raw_iff settings _).mpr frontObeyed.alone
    · exact (tokenize_flatMap_raw_iff settings _).mpr backObeyed
    · rw [movedBy_placeAll]
  · intro token member
    obtain ⟨before, lexeme, after, rfl, rfl⟩ :=
      exists_split_of_mem_placeAll settings.fileId 0 lexemes token member
    have obeys := obeyed before lexeme after rfl
    have alone : Lexeme.ObeyedBefore [] [lexeme] :=
      (Lexeme.obeyedBefore_cons_iff [] lexeme []).mpr ⟨obeys.at_end, Lexeme.obeyedBefore_nil []⟩
    refine ⟨lexeme.raw, lexeme.place settings.fileId 0, ?_, ?_, ?_⟩
    · rw [List.flatMap_append, List.flatMap_cons, Span.slice, Lexeme.place, Nat.zero_add,
        Text.slice?_append]
    · have read := (tokenize_flatMap_raw_iff settings [lexeme]).mpr alone
      rwa [List.flatMap_singleton] at read
    · rw [Lexeme.movedBy_place, Nat.zero_add, Nat.zero_add]
      rfl

/-- Behind a string with an escaped quote and in front of an operator of two characters. -/
theorem cut_behind_string :
    let source := ['é', '\'', '\\', '\'', '\'', '+', '=']
    let name : Token := ⟨.identifier, "é", ⟨0, 2, "."⟩⟩
    let quoted : Token := ⟨.string, "'", ⟨2, 6, "."⟩⟩
    let sum : Token := ⟨.operator, "+=", ⟨6, 8, "."⟩⟩
    tokenize {} source = .ok [name, quoted, sum] ∧
      (∃ before after later, Text.splitAtByte? 6 source = some (before, after) ∧
        tokenize {} before = .ok [name, quoted] ∧ tokenize {} after = .ok later ∧
        [sum] = later.map (Token.movedBy 6)) ∧
      ∃ raw single, quoted.span.slice source = .ok raw ∧ tokenize {} raw = .ok [single] ∧
        quoted = single.movedBy 2 := by
  intro source name quoted sum
  have succeeded : tokenize {} source = .ok [name, quoted, sum] := by decide +kernel
  have cuts := tokenize_at_every_cut {} source [name, quoted, sum] succeeded
  exact ⟨succeeded, cuts.1 2, cuts.2 quoted (by simp)⟩

/-- Two sources that tokenize may be joined, with the tokens of the second one moved behind the
first one, exactly if the first character of the second source does not extend the last token of
the first one. -/
theorem tokenize_append_iff_not_extended (settings : TokenizerSettings) (left right : List Char)
    (leftTokens rightTokens : List Token) (leftNonempty : left ≠ []) (rightNonempty : right ≠ [])
    (leftSucceeded : tokenize settings left = .ok leftTokens)
    (rightSucceeded : tokenize settings right = .ok rightTokens) :
    tokenize settings (left ++ right) =
        .ok (leftTokens ++ rightTokens.map (Token.movedBy (Text.byteLength left))) ↔
      ∃ last following, leftTokens.getLast? = some last ∧ right.head? = some following ∧
        ¬ last.ExtendedBy following := by
  obtain ⟨front, rfl, frontObeyed, rfl⟩ :=
    exists_lexemes_of_tokenize settings left leftTokens leftSucceeded
  obtain ⟨back, rfl, backObeyed, rfl⟩ :=
    exists_lexemes_of_tokenize settings right rightTokens rightSucceeded
  have frontNonempty : front ≠ [] := by
    rintro rfl
    exact leftNonempty rfl
  obtain ⟨last, isLast⟩ : ∃ last, front.getLast? = some last :=
    ⟨_, List.getLast?_eq_some_getLast frontNonempty⟩
  obtain ⟨following, more, opens⟩ := List.exists_cons_of_ne_nil rightNonempty
  obtain ⟨offset, lastPlaced⟩ := getLast?_placeAll settings.fileId 0 front last isLast
  have lastObeys : last.Obeys none := by
    have obeys := (Lexeme.obeyedBefore_iff_last front frontObeyed []).mp frontObeyed
    exact obeys last isLast
  rw [movedBy_placeAll, ← placeAll_append, ← List.flatMap_append, tokenize_flatMap_raw_iff,
    Lexeme.obeyedBefore_append_iff, and_iff_left backObeyed, List.append_nil,
    Lexeme.obeyedBefore_iff_last front frontObeyed, opens, lastPlaced, isLast]
  constructor
  · intro obeys
    exact ⟨_, _, rfl, rfl, (obeys last rfl).not_extendedBy settings.fileId offset⟩
  · rintro ⟨_, _, ⟨⟩, ⟨⟩, notExtended⟩ _ ⟨⟩
    exact lastObeys.before notExtended

/-- A number that has its point takes no second one, but two angles become one operator. -/
theorem points_join_and_angles_merge :
    let first : Token := ⟨.number, "1.", ⟨0, 2, "."⟩⟩
    let point : Token := ⟨.operator, ".", ⟨0, 1, "."⟩⟩
    let angle : Token := ⟨.operator, "<", ⟨0, 1, "."⟩⟩
    let equals : Token := ⟨.operator, "=", ⟨1, 2, "."⟩⟩
    (tokenize {} ['1', '.'] = .ok [first] ∧ tokenize {} ['.'] = .ok [point] ∧
      tokenize {} ['1', '.', '.'] = .ok [first, point.movedBy 2]) ∧
    (tokenize {} ['<'] = .ok [angle] ∧ tokenize {} ['<', '='] = .ok [angle, equals] ∧
      tokenize {} ['<', '<', '='] ≠ .ok [angle, angle.movedBy 1, equals.movedBy 1]) := by
  intro first point angle equals
  have firstRead : tokenize {} ['1', '.'] = .ok [first] := by decide +kernel
  have pointRead : tokenize {} ['.'] = .ok [point] := by decide +kernel
  have angleRead : tokenize {} ['<'] = .ok [angle] := by decide +kernel
  have bothRead : tokenize {} ['<', '='] = .ok [angle, equals] := by decide +kernel
  refine ⟨⟨firstRead, pointRead, ?_⟩, angleRead, bothRead, ?_⟩
  · apply (tokenize_append_iff_not_extended {} ['1', '.'] ['.'] [first] [point] (by decide)
      (by decide) firstRead pointRead).mpr
    refine ⟨first, '.', rfl, rfl, ?_⟩
    rintro (digit | ⟨_, noPoint⟩)
    · revert digit
      decide
    · exact noPoint (by decide)
  · intro joined
    obtain ⟨_, _, ⟨⟩, ⟨⟩, notExtended⟩ := (tokenize_append_iff_not_extended {} ['<'] ['<', '=']
      [angle] [angle, equals] (by decide) (by decide) angleRead bothRead).mp joined
    exact notExtended ⟨'<', by decide, by decide⟩

end TokenGrammar
