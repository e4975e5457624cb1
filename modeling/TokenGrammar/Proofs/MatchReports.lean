import TokenGrammar.CommandLine.Run
import TokenGrammar.Proofs.ChainGrammars
import TokenGrammar.Proofs.Junctions

set_option autoImplicit false

/-! What matching a text reports, told from the characters of the text. No joint of an operator chain
merges with what stands next to it, so a text is an operator chain exactly if its tokens are one. -/

namespace TokenGrammar

/-! ### Operator chains as texts -/

/-- A letter, and behind it letters, numeric characters and underscores. -/
def IsName : List Char → Prop
  | [] => False
  | letter :: rest => Text.isLetter letter = true ∧
      ∀ character ∈ rest, Text.isLetter character = true ∨ Text.isNumeric character = true ∨
        character = '_'

def IsJoint (text : List Char) : Prop :=
  text = ['/', '+', '/'] ∨ text = ['+']

/-- A text of two names or more, with a joint between each of them and the next one. -/
inductive OperatorChain : List Char → Prop
  | two {first joint second : List Char} (isFirst : IsName first) (isJoint : IsJoint joint)
      (isSecond : IsName second) : OperatorChain (first ++ (joint ++ second))
  | more {first joint later : List Char} (isFirst : IsName first) (isJoint : IsJoint joint)
      (isLater : OperatorChain later) : OperatorChain (first ++ (joint ++ later))

theorem IsName.opens {name : List Char} (isName : IsName name) (rest : List Char) :
    ∃ letter ∈ (name ++ rest).head?, Text.isLetter letter = true := by
  cases name with
  | nil => exact isName.elim
  | cons letter later => exact ⟨letter, rfl, isName.1⟩

theorem IsJoint.opens {joint : List Char} (isJoint : IsJoint joint) (rest : List Char) :
    (joint ++ rest).head? = some '/' ∨ (joint ++ rest).head? = some '+' := by
  rcases isJoint with rfl | rfl
  · exact Or.inl rfl
  · exact Or.inr rfl

theorem OperatorChain.opens {text : List Char} (isChain : OperatorChain text) :
    ∃ letter ∈ text.head?, Text.isLetter letter = true := by
  cases isChain with
  | two isFirst _ _ => exact isFirst.opens _
  | more isFirst _ _ => exact isFirst.opens _

/-! ### From tokens to the text -/

private theorem isJoint_of_operatorJoint {word : List Token} {value : Value}
    (joint : OperatorJoint word value) : IsJoint (word.flatMap (fun token => token.text.toList)) := by
  cases joint with
  | slashed opens joins closes =>
      rw [Token.isOperator_iff] at opens joins closes
      simp [opens.2, joins.2, closes.2, IsJoint]
  | plus joins =>
      rw [Token.isOperator_iff] at joins
      simp [joins.2, IsJoint]

private theorem operatorChain_of_chainOf {word : List Token} {values : List Value} {last : Token}
    (chain : ChainOf OperatorJoint word values last)
    (names : ∀ token ∈ word, token.kind = .identifier → IsName token.text.toList) :
    OperatorChain (word.flatMap (fun token => token.text.toList)) := by
  induction chain with
  | @one name last joined value isName joins isLast =>
      rw [List.flatMap_cons, List.flatMap_append, List.flatMap_singleton]
      exact .two (names name (by simp) isName) (isJoint_of_operatorJoint joins)
        (names last (by simp) isLast)
  | @more name last joined rest value values isName joins later inductionHypothesis =>
      rw [List.flatMap_cons, List.flatMap_append]
      apply OperatorChain.more (names name (by simp) isName) (isJoint_of_operatorJoint joins)
      apply inductionHypothesis
      intro token member
      exact names token (by simp [member])

private theorem kind_ne_string_of_operatorJoint {word : List Token} {value : Value}
    (joint : OperatorJoint word value) : ∀ token ∈ word, token.kind ≠ .string := by
  have notString (token : Token) (text : String) (isOperator : token.isOperator text = true) :
      token.kind ≠ .string := by
    rw [Token.isOperator_iff] at isOperator
    simp [isOperator.1]
  cases joint with
  | slashed opens joins closes =>
      simp [notString _ _ opens, notString _ _ joins, notString _ _ closes]
  | plus joins => simp [notString _ _ joins]

private theorem kind_ne_string_of_chainOf {word : List Token} {values : List Value} {last : Token}
    (chain : ChainOf OperatorJoint word values last) : ∀ token ∈ word, token.kind ≠ .string := by
  induction chain with
  | one isName joins isLast =>
      simp only [List.forall_mem_cons, List.forall_mem_append]
      exact ⟨by simp [isName], kind_ne_string_of_operatorJoint joins, by simp [isLast], nofun⟩
  | more isName joins later inductionHypothesis =>
      simp only [List.forall_mem_cons, List.forall_mem_append]
      exact ⟨by simp [isName], kind_ne_string_of_operatorJoint joins, inductionHypothesis⟩

private theorem Lexeme.Obeys.text_eq_raw {lexeme : Lexeme} {next : Option Char}
    (obeys : lexeme.Obeys next) (notString : lexeme.kind ≠ .string) : lexeme.text = lexeme.raw := by
  cases obeys with
  | string quoted fit => exact absurd rfl notString
  | _ => rfl

theorem Lexeme.Obeys.isName {lexeme : Lexeme} {next : Option Char} (obeys : lexeme.Obeys next)
    (isIdentifier : lexeme.kind = .identifier) : IsName lexeme.text := by
  cases obeys with
  | identifier opens continues _ => exact ⟨opens, continues⟩
  | _ => cases isIdentifier

private theorem flatMap_text_placeAll (file : String) (start : Nat) (lexemes : List Lexeme)
    (obeyed : Lexeme.ObeyedBefore [] lexemes)
    (noStrings : ∀ token ∈ placeAll file start lexemes, token.kind ≠ .string) :
    (placeAll file start lexemes).flatMap (fun token => token.text.toList) =
      lexemes.flatMap Lexeme.raw := by
  induction lexemes generalizing start with
  | nil => rfl
  | cons first later inductionHypothesis =>
      obtain ⟨firstObeys, laterObeyed⟩ := (Lexeme.obeyedBefore_cons_iff [] first later).mp obeyed
      rw [placeAll, List.forall_mem_cons] at noStrings
      obtain ⟨firstNoString, laterNoStrings⟩ := noStrings
      rw [placeAll, List.flatMap_cons, List.flatMap_cons,
        inductionHypothesis _ laterObeyed laterNoStrings, Lexeme.place, String.toList_ofList,
        firstObeys.text_eq_raw firstNoString]

private theorem isName_of_mem_placeAll (file : String) (start : Nat) (lexemes : List Lexeme)
    (obeyed : Lexeme.ObeyedBefore [] lexemes) :
    ∀ token ∈ placeAll file start lexemes, token.kind = .identifier →
      IsName token.text.toList := by
  intro token member isIdentifier
  obtain ⟨before, lexeme, after, split, rfl⟩ :=
    exists_split_of_mem_placeAll file start lexemes token member
  have isName := (obeyed before lexeme after split).isName isIdentifier
  rwa [Lexeme.place, String.toList_ofList]

/-! ### From the text to tokens -/

namespace Lexeme

private theorem not_pair_of_letter (first second : Char) (letter : Text.isLetter second = true) :
    (first, second) ∉ operatorPairs := by
  have every : operatorPairs.all (fun pair => !Text.isLetter pair.2) = true := by decide
  intro paired
  have noLetter := List.all_eq_true.mp every (first, second) paired
  simp [letter] at noLetter

private theorem obeys_of_isName {name : List Char} (isName : IsName name) {next : Option Char}
    (ends : ∀ following ∈ next, following = '/' ∨ following = '+') :
    (verbatim .identifier name).Obeys next := by
  cases name with
  | nil => exact isName.elim
  | cons letter rest =>
      apply Obeys.identifier isName.1 isName.2
      intro following isNext
      rcases ends following isNext with rfl | rfl <;> decide

private theorem obeys_of_joining {character : Char} (joining : character = '/' ∨ character = '+')
    {next : Option Char} (apart : ∀ following ∈ next, (character, following) ∉ operatorPairs) :
    (verbatim .operator [character]).Obeys next := by
  apply Obeys.single _ apart
  rcases joining with rfl | rfl <;> decide

end Lexeme

/-- A joint in front of a letter is cut into operators of one character. -/
theorem exists_lexemes_of_isJoint {joint rest : List Char} (isJoint : IsJoint joint)
    (opens : ∃ letter ∈ rest.head?, Text.isLetter letter = true) :
    ∃ lexemes, lexemes.flatMap Lexeme.raw = joint ∧ Lexeme.ObeyedBefore rest lexemes ∧
      ∀ file start, ∃ value, OperatorJoint (placeAll file start lexemes) value := by
  obtain ⟨letter, isNext, isLetter⟩ := opens
  have beforeRest (character : Char) : ∀ following ∈ rest.head?,
      (character, following) ∉ Lexeme.operatorPairs := by
    intro following follows
    rw [Option.mem_unique follows isNext]
    exact Lexeme.not_pair_of_letter character letter isLetter
  have slash : (Lexeme.verbatim .operator ['/']).Obeys rest.head? :=
    Lexeme.obeys_of_joining (Or.inl rfl) (beforeRest '/')
  have plus : (Lexeme.verbatim .operator ['+']).Obeys rest.head? :=
    Lexeme.obeys_of_joining (Or.inr rfl) (beforeRest '+')
  have slashBeforePlus : (Lexeme.verbatim .operator ['/']).Obeys (some '+') := by
    apply Lexeme.obeys_of_joining (Or.inl rfl)
    rintro _ ⟨⟩
    decide
  have plusBeforeSlash : (Lexeme.verbatim .operator ['+']).Obeys (some '/') := by
    apply Lexeme.obeys_of_joining (Or.inr rfl)
    rintro _ ⟨⟩
    decide
  rcases isJoint with rfl | rfl
  · refine ⟨[.verbatim .operator ['/'], .verbatim .operator ['+'], .verbatim .operator ['/']],
      rfl, ?_, ?_⟩
    · simp only [Lexeme.obeyedBefore_cons_iff]
      exact ⟨slashBeforePlus, plusBeforeSlash, slash, Lexeme.obeyedBefore_nil rest⟩
    · intro file start
      exact ⟨_, .slashed rfl rfl rfl⟩
  · refine ⟨[.verbatim .operator ['+']], rfl, ?_, ?_⟩
    · rw [Lexeme.obeyedBefore_cons_iff]
      exact ⟨plus, Lexeme.obeyedBefore_nil rest⟩
    · intro file start
      exact ⟨_, .plus rfl⟩

theorem exists_lexemes_of_part {name joint : List Char} (isName : IsName name)
    (isJoint : IsJoint joint) (later : List Lexeme) (laterObeyed : Lexeme.ObeyedBefore [] later)
    (opens : ∃ letter ∈ (later.flatMap Lexeme.raw).head?, Text.isLetter letter = true) :
    ∃ joined, joined.flatMap Lexeme.raw = joint ∧
      Lexeme.ObeyedBefore [] (.verbatim .identifier name :: (joined ++ later)) ∧
      ∀ file start, ∃ value, OperatorJoint (placeAll file start joined) value := by
  obtain ⟨joined, rfl, joinedObeyed, joins⟩ := exists_lexemes_of_isJoint isJoint opens
  refine ⟨joined, rfl, ?_, joins⟩
  rw [Lexeme.obeyedBefore_cons_iff, Lexeme.obeyedBefore_append_iff, List.append_nil,
    List.append_nil, List.flatMap_append]
  refine ⟨Lexeme.obeys_of_isName isName ?_, joinedObeyed, laterObeyed⟩
  intro following isNext
  rcases isJoint.opens (later.flatMap Lexeme.raw) with isSlash | isPlus
  · exact Or.inl (Option.mem_unique isNext isSlash)
  · exact Or.inr (Option.mem_unique isNext isPlus)

theorem exists_lexemes_of_operatorChain {text : List Char} (isChain : OperatorChain text) :
    ∃ lexemes, lexemes.flatMap Lexeme.raw = text ∧ Lexeme.ObeyedBefore [] lexemes ∧
      ∀ file start, ∃ values last,
        ChainOf OperatorJoint (placeAll file start lexemes) values last := by
  induction isChain with
  | @two first joint second isFirst isJoint isSecond =>
      let last := Lexeme.verbatim .identifier second
      have lastObeyed : Lexeme.ObeyedBefore [] [last] := by
        rw [Lexeme.obeyedBefore_cons_iff]
        exact ⟨Lexeme.obeys_of_isName isSecond nofun, Lexeme.obeyedBefore_nil []⟩
      obtain ⟨joined, rfl, obeyed, joins⟩ :=
        exists_lexemes_of_part isFirst isJoint [last] lastObeyed (isSecond.opens _)
      refine ⟨_, ?_, obeyed, ?_⟩
      · rw [List.flatMap_cons, List.flatMap_append, List.flatMap_singleton]
        rfl
      · intro file start
        obtain ⟨value, joint⟩ := joins file (start + Text.byteLength first)
        rw [placeAll, placeAll_append]
        exact ⟨_, _, .one rfl joint rfl⟩
  | @more first joint later isFirst isJoint isLater inductionHypothesis =>
      obtain ⟨rest, rfl, restObeyed, chains⟩ := inductionHypothesis
      obtain ⟨joined, rfl, obeyed, joins⟩ :=
        exists_lexemes_of_part isFirst isJoint rest restObeyed isLater.opens
      refine ⟨_, ?_, obeyed, ?_⟩
      · rw [List.flatMap_cons, List.flatMap_append]
        rfl
      · intro file start
        obtain ⟨value, joint⟩ := joins file (start + Text.byteLength first)
        obtain ⟨values, last, chain⟩ := chains file
          (start + Text.byteLength first + Text.byteLength (joined.flatMap Lexeme.raw))
        rw [placeAll, placeAll_append]
        exact ⟨_, _, .more rfl joint chain⟩

theorem operatorChain_iff_chainOf (settings : TokenizerSettings) (text : List Char)
    (tokens : List Token) (succeeded : tokenize settings text = .ok tokens) :
    OperatorChain text ↔ ∃ values last, ChainOf OperatorJoint tokens values last := by
  constructor
  · intro isChain
    obtain ⟨lexemes, rfl, obeyed, chains⟩ := exists_lexemes_of_operatorChain isChain
    rw [(tokenize_flatMap_raw_iff settings lexemes).mpr obeyed, Except.ok.injEq] at succeeded
    rw [← succeeded]
    exact chains settings.fileId 0
  · rintro ⟨values, last, chain⟩
    obtain ⟨lexemes, rfl, obeyed, rfl⟩ := exists_lexemes_of_tokenize settings text tokens succeeded
    have written := flatMap_text_placeAll settings.fileId 0 lexemes obeyed
      (kind_ne_string_of_chainOf chain)
    rw [← written]
    exact operatorChain_of_chainOf chain (isName_of_mem_placeAll settings.fileId 0 lexemes obeyed)

/-! ### Reports -/

namespace CommandLine

/-- What matching a text prints: its tokens if the settings ask for them, a line for each value with
the place that the value has among all of them, and how many there are. -/
def matchReport (settings : Settings) (tokens : List Token) (values : List Value) : List Char :=
  (if settings.showTokens then withLineEnd (settings.format.renderTokens tokens) else []) ++
    values.zipIdx.flatMap (fun numbered =>
      "RESULT ".toList ++ Text.decimalDigits numbered.2 ++ " - ".toList ++
        settings.format.renderValue numbered.1 ++ ['\n']) ++
    ("Number matches ".toList ++ Text.decimalDigits values.length ++ ['\n'])

private theorem resultLines_eq_flatMap_zipIdx (format : OutputFormat) (start : Nat)
    (values : List Value) :
    resultLines format start values = (values.zipIdx start).flatMap (fun numbered =>
      "RESULT ".toList ++ Text.decimalDigits numbered.2 ++ " - ".toList ++
        format.renderValue numbered.1 ++ ['\n']) := by
  induction values generalizing start with
  | nil => rfl
  | cons value later inductionHypothesis =>
      have first : resultLines format start (value :: later) =
          "RESULT ".toList ++ Text.decimalDigits start ++ " - ".toList ++
            format.renderValue value ++ '\n' :: resultLines format (start + 1) later := rfl
      rw [first, inductionHypothesis, List.zipIdx_cons, List.flatMap_cons]
      exact List.append_cons _ '\n' _

theorem matchText_of_error (settings : Settings) (verbose : Bool) (grammar : Matcher)
    (text : List Char) (error : TokenizeError)
    (failed : tokenize settings.tokenizer text = .error error) :
    matchText settings verbose grammar text = .error error.message := by
  unfold matchText tokensOf
  rw [failed]
  rfl

theorem matchAll_finds_all (grammar : Matcher) (cursor : Cursor) :
    ∃ run, grammar.matchAll cursor none = .ok run ∧
      run.results = grammar.derivations cursor.sequence.tokens cursor.position := by
  obtain ⟨records, finished⟩ := grammar.matchAll_eq cursor none
  exact ⟨_, finished, List.take_of_length_le (Nat.le_succ _)⟩

private theorem output_append (first second : Transcript) :
    (first ++ second).output = first.output ++ second.output := rfl

private theorem output_logged (verbose : Bool) (records : List Record) :
    (logged verbose records).output = [] := by
  cases verbose <;> rfl

theorem tokensOf_of_tokens (settings : Settings) (verbose : Bool) (text : List Char)
    (tokens : List Token) (succeeded : tokenize settings.tokenizer text = .ok tokens) :
    tokensOf settings verbose text =
      .ok (tokens, logged verbose [Record.ofTokens settings.tokenizer tokens]) := by
  unfold tokensOf
  rw [succeeded]
  rfl

/-- Matching a text that tokenizes never fails, and reports whatever the search finds. -/
theorem matchText_of_tokens (settings : Settings) (verbose : Bool) (grammar : Matcher)
    (text : List Char) (tokens : List Token)
    (succeeded : tokenize settings.tokenizer text = .ok tokens) :
    ∃ transcript, matchText settings verbose grammar text = .ok transcript ∧
      transcript.output =
        matchReport settings tokens ((grammar.derivations tokens 0).map Derivation.value) := by
  obtain ⟨run, finished, everything⟩ :=
    matchAll_finds_all grammar (Cursor.start { storage := 0, tokens })
  unfold matchText
  rw [tokensOf_of_tokens settings verbose text tokens succeeded]
  dsimp only
  rw [finished]
  refine ⟨_, rfl, ?_⟩
  have results : run.results = grammar.derivations tokens 0 := everything
  simp only [output_append, output_logged, results, matchReport, resultLines_eq_flatMap_zipIdx,
    List.nil_append, List.append_nil, say, List.length_map]
  congr 2
  split <;> rfl

/-- What matching a text against the operator chains comes to, for any text and any settings. It
fails exactly if the text does not tokenize. Otherwise it reports one derivation if the text is an
operator chain, and none if it is not. -/
theorem match_reports_operator_chains (settings : Settings) (verbose : Bool) (text : List Char) :
    (∀ message, matchText settings verbose Matcher.operatorChain text = .error message ↔
      ∃ error, tokenize settings.tokenizer text = .error error ∧ message = error.message) ∧
    ∀ tokens, tokenize settings.tokenizer text = .ok tokens →
      let values := (Matcher.operatorChain.derivations tokens 0).map Derivation.value
      (∃ transcript, matchText settings verbose Matcher.operatorChain text = .ok transcript ∧
        transcript.output = matchReport settings tokens values) ∧
      (values.length = 1 ↔ OperatorChain text) ∧ (values.length = 0 ↔ ¬ OperatorChain text) ∧
      values.length ≤ 1 := by
  constructor
  · intro message
    cases read : tokenize settings.tokenizer text with
    | error error =>
        rw [matchText_of_error settings verbose _ text error read]
        simp [eq_comm]
    | ok tokens =>
        obtain ⟨transcript, matched, _⟩ :=
          matchText_of_tokens settings verbose Matcher.operatorChain text tokens read
        rw [matched]
        simp
  · intro tokens succeeded values
    refine ⟨matchText_of_tokens settings verbose _ text tokens succeeded, ?_⟩
    have count : values.length = (Matcher.operatorChain.enumerate tokens 0).length := by
      rw [List.length_map, Matcher.derivations_eq_enumerate]
    rw [count, operatorChain_iff_chainOf settings.tokenizer text tokens succeeded]
    by_cases isChain : ∃ values last, ChainOf OperatorJoint tokens values last
    · have one : (Matcher.operatorChain.enumerate tokens 0).length = 1 := by
        obtain ⟨parts, last, chain⟩ := isChain
        have fromStart : ChainOf OperatorJoint (tokens.drop 0) parts last := chain
        rw [Matcher.operatorChain_gives_one fromStart]
        rfl
      simp [one, isChain]
    · have none : (Matcher.operatorChain.enumerate tokens 0).length = 0 := by
        rw [Matcher.operatorChain_gives_none]
        · rfl
        · intro parts last chain
          exact isChain ⟨parts, last, chain⟩
      simp [none, isChain]

/-- A slashed joint is cut into three operators, and the text is reported once. -/
theorem slashed_names_reported_once :
    let settings : Settings := { tokenizer := {}, format := .pretty, showTokens := true }
    let text := ['A', '/', '+', '/', 'é']
    let tokens : List Token :=
      [⟨.identifier, "A", ⟨0, 1, "."⟩⟩, ⟨.operator, "/", ⟨1, 2, "."⟩⟩,
        ⟨.operator, "+", ⟨2, 3, "."⟩⟩, ⟨.operator, "/", ⟨3, 4, "."⟩⟩,
        ⟨.identifier, "é", ⟨4, 6, "."⟩⟩]
    let values := (Matcher.operatorChain.derivations tokens 0).map Derivation.value
    tokenize settings.tokenizer text = .ok tokens ∧ values.length = 1 ∧
      ∃ transcript, matchText settings true Matcher.operatorChain text = .ok transcript ∧
        transcript.output = matchReport settings tokens values := by
  intro settings text tokens values
  have succeeded : tokenize settings.tokenizer text = .ok tokens := by decide +kernel
  have isChain : OperatorChain text :=
    @OperatorChain.two ['A'] ['/', '+', '/'] ['é'] ⟨by decide, nofun⟩ (Or.inl rfl)
      ⟨by decide, nofun⟩
  obtain ⟨reported, one, _⟩ :=
    (match_reports_operator_chains settings true text).2 tokens succeeded
  exact ⟨succeeded, one.mpr isChain, reported⟩

end CommandLine

end TokenGrammar
