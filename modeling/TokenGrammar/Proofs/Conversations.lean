import Mathlib.Data.List.DropRight
import TokenGrammar.Proofs.MatchReports

set_option autoImplicit false

/-! Conversations. A conversation over any input is what matching its lines one by one prints, with
a prompt before each line and one at the end. -/

namespace TokenGrammar.CommandLine

/-! ### Lines of a text -/

/-- A text cut at its line feeds. Behind the last one there is a line only if there is anything. -/
def cutLines (text : List Char) : List (List Char) :=
  let pieces := Text.pieces '\n' text
  if pieces.getLast? = some [] then pieces.dropLast else pieces

def isLineEnd (character : Char) : Bool :=
  character == '\r' || character == '\n'

def linesOf (text : List Char) : List (List Char) :=
  (cutLines text).map (List.rdropWhile isLineEnd)

/-- The lines that are dealt with: all before the first one that says `exit`. -/
def processedLines (text : List Char) : List (List Char) :=
  (linesOf text).takeWhile (fun line => line != "exit".toList)

/-- The lines with something in front of the first of them. -/
def prefixed {Item : Type} (front : List Item) : List (List Item) → List (List Item)
  | [] => [front]
  | line :: others => (front ++ line) :: others

private theorem cutLines_lineFeed (later : List Char) :
    cutLines ('\n' :: later) = [] :: cutLines later := by
  cases cut : Text.pieces '\n' later with
  | nil => exact absurd cut (Text.pieces_ne_nil '\n' later)
  | cons piece others =>
      have cutAll : Text.pieces '\n' ('\n' :: later) = [] :: piece :: others := by
        rw [Text.pieces, cut]
        rfl
      unfold cutLines
      rw [cut, cutAll]
      simp only [List.getLast?_cons_cons, List.dropLast_cons_cons]
      split <;> rfl

private theorem cutLines_cons (character : Char) (later : List Char) (within : character ≠ '\n') :
    cutLines (character :: later) = prefixed [character] (cutLines later) := by
  cases cut : Text.pieces '\n' later with
  | nil => exact absurd cut (Text.pieces_ne_nil '\n' later)
  | cons piece others =>
      have cutAll : Text.pieces '\n' (character :: later) = (character :: piece) :: others := by
        rw [Text.pieces, cut]
        exact if_neg within
      unfold cutLines
      rw [cut, cutAll]
      cases others with
      | nil =>
          cases piece with
          | nil => simp [prefixed]
          | cons next rest => simp [prefixed]
      | cons next rest =>
          simp only [List.getLast?_cons_cons, List.dropLast_cons_cons]
          split <;> rfl

/-! ### Lines of bytes -/

def encoded (text : List Char) : List UInt8 :=
  text.flatMap String.utf8EncodeChar

private theorem toList_toUTF8 (text : String) : text.toUTF8.data.toList = encoded text.toList := by
  rw [String.toUTF8_eq_toByteArray, ← String.utf8Encode_toList]
  exact List.toList_data_toByteArray

private theorem not_lineFeed_of_mem_encodeChar {character : Char} (within : character ≠ '\n') :
    ∀ byte ∈ String.utf8EncodeChar character, byte ≠ 10 := by
  have notTen : character.val.toNat ≠ 10 := by
    intro isTen
    apply within
    apply Char.ext
    exact UInt32.toNat_inj.mp isTen
  have ofNat_ne (number : Nat) : UInt8.ofNat number ≠ 10 ↔ number % 256 ≠ 10 := by
    rw [ne_eq, ← UInt8.toNat_inj, UInt8.toNat_ofNat']
    rfl
  unfold String.utf8EncodeChar
  generalize character.val.toNat = number at notTen
  dsimp only
  -- all bytes of the longer encodings have their highest bit set
  split_ifs <;> simp only [List.forall_mem_cons, ofNat_ne]
  · exact ⟨by omega, nofun⟩
  · exact ⟨by omega, by omega, nofun⟩
  · exact ⟨by omega, by omega, by omega, nofun⟩
  · exact ⟨by omega, by omega, by omega, by omega, nofun⟩

private theorem splitLines_cons (byte : UInt8) (later : List UInt8) (within : byte ≠ 10) :
    splitLines (byte :: later) = prefixed [byte] (splitLines later) := by
  rw [splitLines, if_neg within]
  cases splitLines later <;> rfl

private theorem splitLines_append_within {front : List UInt8} (later : List UInt8)
    (nonempty : front ≠ []) (within : ∀ byte ∈ front, byte ≠ 10) :
    splitLines (front ++ later) = prefixed front (splitLines later) := by
  induction front with
  | nil => exact absurd rfl nonempty
  | cons byte rest inductionHypothesis =>
      rw [List.cons_append, splitLines_cons byte _ (within byte List.mem_cons_self)]
      by_cases last : rest = []
      · rw [last, List.nil_append]
      · rw [inductionHypothesis last
          (fun other member => within other (List.mem_cons_of_mem byte member))]
        cases splitLines later <;> simp [prefixed]

private theorem splitLines_ne_nil {bytes : List UInt8} (nonempty : bytes ≠ []) :
    splitLines bytes ≠ [] := by
  cases bytes with
  | nil => exact absurd rfl nonempty
  | cons byte later =>
      rw [splitLines]
      split
      · simp
      · split <;> simp

private theorem splitLines_append_closed (front later : List UInt8) :
    splitLines (front ++ [10] ++ later) = splitLines (front ++ [10]) ++ splitLines later := by
  induction front with
  | nil => rfl
  | cons byte rest inductionHypothesis =>
      by_cases lineFeed : byte = 10
      · rw [lineFeed, List.cons_append, List.cons_append, splitLines, splitLines,
          inductionHypothesis]
        rfl
      · have someLine : splitLines (rest ++ [10]) ≠ [] := splitLines_ne_nil (by simp)
        rw [List.cons_append, List.cons_append, splitLines_cons byte _ lineFeed,
          splitLines_cons byte _ lineFeed, inductionHypothesis]
        cases lines : splitLines (rest ++ [10]) with
        | nil => exact absurd lines someLine
        | cons line others => rfl

theorem splitLines_encoded (text : List Char) :
    splitLines (encoded text) = (cutLines text).map encoded := by
  induction text with
  | nil => rfl
  | cons character later inductionHypothesis =>
      by_cases lineFeed : character = '\n'
      · rw [lineFeed, cutLines_lineFeed, List.map_cons, ← inductionHypothesis]
        rfl
      · have nonempty : String.utf8EncodeChar character ≠ [] := by
          rw [← List.length_pos_iff, String.length_utf8EncodeChar]
          exact Char.utf8Size_pos character
        rw [cutLines_cons character later lineFeed, encoded, List.flatMap_cons,
          splitLines_append_within _ nonempty (not_lineFeed_of_mem_encodeChar lineFeed)]
        change prefixed _ (splitLines (encoded later)) = _
        rw [inductionHypothesis]
        cases cutLines later <;> simp [prefixed, encoded]

theorem decodeLine_encoded (line : List Char) :
    decodeLine (encoded line) = some (line.rdropWhile isLineEnd) := by
  have bytes : (⟨(encoded line).toArray⟩ : ByteArray) = line.utf8Encode :=
    ByteArray.ext List.data_toByteArray.symm
  have read : String.fromUTF8? line.utf8Encode = some (String.ofList line) :=
    dif_pos ByteArray.isValidUTF8_utf8Encode
  rw [decodeLine, bytes, read, Option.map_some, String.toList_ofList]
  rfl

private theorem decoded_lines (text : List Char) :
    (splitLines (encoded text)).map decodeLine = (linesOf text).map some := by
  rw [splitLines_encoded, linesOf, List.map_map, List.map_map]
  exact List.map_congr_left (fun line _ => decodeLine_encoded line)

private theorem splitLines_encoded_append (text : List Char) (bytes : List UInt8)
    (closed : ∀ last ∈ text.getLast?, last = '\n') :
    splitLines (encoded text ++ bytes) = splitLines (encoded text) ++ splitLines bytes := by
  rcases List.eq_nil_or_concat text with empty | ⟨front, last, split⟩
  · rw [empty]
    rfl
  · have lineFeed : last = '\n' := closed last (by simp [split])
    have shape : encoded text = encoded front ++ [10] := by
      rw [split, lineFeed, encoded, List.concat_eq_append, List.flatMap_append]
      rfl
    rw [shape]
    exact splitLines_append_closed (encoded front) bytes

/-! ### Answers -/

/-- What the match command prints for a line; nothing for an empty line. -/
def answer (settings : Settings) (line : List Char) : List Char :=
  if line = [] then [] else (runMatch settings false false line).transcript.output

/-- What is wrong with a line that does not tokenize, as a line of its own. -/
def complaint (settings : Settings) (line : List Char) : List Char :=
  match tokenize settings.tokenizer line with
  | .error error => error.message.toList ++ ['\n']
  | .ok _ => []

private theorem errors_append (first second : Transcript) :
    (first ++ second).errors = first.errors ++ second.errors := rfl

private theorem nothing_append (transcript : Transcript) :
    ({} : Transcript) ++ transcript = transcript :=
  rfl

private theorem logged_quiet (records : List Record) : logged false records = {} := rfl

private theorem errors_of_quiet_match (settings : Settings) (grammar : Matcher) (text : List Char)
    (transcript : Transcript) (matched : matchText settings false grammar text = .ok transcript) :
    transcript.errors = [] := by
  cases read : tokenize settings.tokenizer text with
  | error error =>
      rw [matchText_of_error settings false grammar text error read] at matched
      cases matched
  | ok tokens =>
      obtain ⟨run, finished, _⟩ :=
        matchAll_finds_all grammar (Cursor.start { storage := 0, tokens })
      unfold matchText at matched
      rw [tokensOf_of_tokens settings false text tokens read] at matched
      dsimp only at matched
      rw [finished] at matched
      cases matched
      simp only [errors_append, logged_quiet, say, List.nil_append, List.append_nil]
      split <;> rfl

theorem runMatch_of_error (settings : Settings) (line : List Char) (error : TokenizeError)
    (failed : tokenize settings.tokenizer line = .error error) :
    runMatch settings false false line = { code := 1, transcript := complain error.message } := by
  rw [runMatch, matchText_of_error settings false _ line error failed]
  dsimp only
  rw [if_neg Bool.false_ne_true, nothing_append]

theorem errors_runMatch (settings : Settings) (line : List Char) :
    (runMatch settings false false line).transcript.errors = complaint settings line := by
  rw [complaint]
  cases read : tokenize settings.tokenizer line with
  | error error =>
      rw [runMatch_of_error settings line error read]
      rfl
  | ok tokens =>
      obtain ⟨transcript, matched, _⟩ :=
        matchText_of_tokens settings false Matcher.operatorChain line tokens read
      rw [runMatch, matched]
      exact errors_of_quiet_match settings _ line transcript matched

theorem replLine_eq_runMatch (settings : Settings) {line : List Char}
    (goesOn : line ≠ "exit".toList) (nonempty : line ≠ []) :
    replLine settings false (some line) =
      .next (runMatch settings false false line).transcript := by
  have notEmpty : ¬ line.isEmpty = true := by rwa [List.isEmpty_iff]
  rw [replLine, if_neg goesOn, if_neg notEmpty, runMatch]
  cases matchText settings false Matcher.operatorChain line <;> rfl

/-- A line that tokenizes is answered with a report of what the grammar finds in its tokens. -/
theorem answer_of_tokens (settings : Settings) (line : List Char) (tokens : List Token)
    (nonempty : line ≠ []) (succeeded : tokenize settings.tokenizer line = .ok tokens) :
    answer settings line = matchReport settings tokens
      ((Matcher.operatorChain.derivations tokens 0).map Derivation.value) := by
  obtain ⟨transcript, matched, reported⟩ :=
    matchText_of_tokens settings false Matcher.operatorChain line tokens succeeded
  rw [answer, if_neg nonempty, runMatch, matched, ← reported]
  rfl

private theorem replLine_of_line (settings : Settings) (line : List Char)
    (goesOn : line ≠ "exit".toList) :
    replLine settings false (some line) =
      .next { output := answer settings line, errors := complaint settings line } := by
  by_cases empty : line = []
  · have nothing : tokenize settings.tokenizer [] = .ok [] :=
      (tokenize_flatMap_raw_iff settings.tokenizer []).mpr (Lexeme.obeyedBefore_nil [])
    rw [empty, answer, complaint, nothing]
    rfl
  · rw [replLine_eq_runMatch settings goesOn empty, answer, if_neg empty,
      ← errors_runMatch settings line]

/-! ### Conversations -/

def conversation (settings : Settings) (lines : List (List Char)) : Transcript :=
  { output := lines.flatMap (fun line => ">>> ".toList ++ answer settings line) ++ ">>> \n".toList
    errors := lines.flatMap (complaint settings) }

private theorem conversation_cons (settings : Settings) (line : List Char)
    (later : List (List Char)) :
    conversation settings (line :: later) =
      prompt ++ { output := answer settings line, errors := complaint settings line } ++
        conversation settings later := by
  unfold conversation
  rw [List.flatMap_cons, List.flatMap_cons, List.append_assoc]
  rfl

theorem runRepl_of_lines (settings : Settings) (lines : List (List Char)) :
    runRepl settings false (lines.map some) =
      { code := 0
        transcript :=
          conversation settings (lines.takeWhile (fun line => line != "exit".toList)) } := by
  induction lines with
  | nil => rfl
  | cons line later inductionHypothesis =>
      by_cases exit : line = "exit".toList
      · rw [exit]
        rfl
      · rw [List.map_cons, runRepl, replLine_of_line settings line exit, inductionHypothesis,
          List.takeWhile_cons_of_pos (by simpa using exit), conversation_cons]

/-- Behind a line that says `exit` nothing is read. -/
theorem runRepl_append_of_exit (settings : Settings) (verbose : Bool)
    (lines later : List (Option (List Char))) (exits : some "exit".toList ∈ lines) :
    runRepl settings verbose (lines ++ later) = runRepl settings verbose lines := by
  induction lines with
  | nil => cases exits
  | cons line others inductionHypothesis =>
      by_cases exit : line = some "exit".toList
      · rw [exit]
        rfl
      · have exitsLater : some "exit".toList ∈ others :=
          List.mem_of_ne_of_mem (Ne.symm exit) exits
        rw [List.cons_append, runRepl, runRepl, inductionHypothesis exitsLater]

theorem run_eq_runRepl {files : Settings.Files} {arguments : List String} {options : Options}
    {settings : Settings} {order : Settings.HashOrder}
    (parsed : parse arguments = some (.run options .repl))
    (loaded : settingsOf files options order = .ok settings) (input : List UInt8) :
    run files arguments input order =
      some (runRepl settings options.verbose ((splitLines input).map decodeLine)) := by
  simp only [run, parsed, plan, loaded, Option.bind_eq_bind, Option.bind_some]
  rfl

theorem run_eq_runMatch {files : Settings.Files} {arguments : List String} {options : Options}
    {settings : Settings} {order : Settings.HashOrder} {text : String} {showGrammar : Bool}
    (parsed : parse arguments = some (.run options (.matchText text showGrammar)))
    (loaded : settingsOf files options order = .ok settings) (input : List UInt8) :
    run files arguments input order =
      some (runMatch settings options.verbose showGrammar text.toList) := by
  simp only [run, parsed, plan, loaded, Option.bind_eq_bind, Option.bind_some]
  rfl

/-- A quiet conversation is matching line by line. For every line that is dealt with it prints a
prompt and what the match command with the same options prints on the same channel; an empty line
adds nothing, and a line that does not tokenize adds only its message. So no line has a part in what
is printed for another one, and nothing behind a line that says `exit` counts, not even bytes that
no text has. -/
theorem conversation_matches_line_by_line (files : Settings.Files) (arguments : List String)
    (options : Options) (settings : Settings) (order : Settings.HashOrder) (text : String)
    (parsed : parse arguments = some (.run options .repl)) (quiet : options.verbose = false)
    (loaded : settingsOf files options order = .ok settings) :
    run files arguments text.toUTF8.data.toList order =
        some { code := 0, transcript := conversation settings (processedLines text.toList) } ∧
      (∀ line matchArguments input, line ≠ [] →
        parse matchArguments = some (.run options (.matchText (String.ofList line) false)) →
        ∃ code, run files matchArguments input order =
          some { code, transcript := ⟨answer settings line, complaint settings line⟩ }) ∧
      (∀ line error, tokenize settings.tokenizer line = .error error →
        answer settings line = []) ∧
      (∀ bytes, (∀ last ∈ text.toList.getLast?, last = '\n') →
        "exit".toList ∈ linesOf text.toList →
        run files arguments (text.toUTF8.data.toList ++ bytes) order =
          run files arguments text.toUTF8.data.toList order) := by
  have input : text.toUTF8.data.toList = encoded text.toList := toList_toUTF8 text
  rw [input]
  refine ⟨?_, ?_, ?_, ?_⟩
  · rw [run_eq_runRepl parsed loaded, quiet, decoded_lines, runRepl_of_lines]
    rfl
  · intro line matchArguments anyInput nonempty parsedMatch
    rw [run_eq_runMatch parsedMatch loaded, quiet, String.toList_ofList, answer, if_neg nonempty,
      ← errors_runMatch settings line]
    exact ⟨_, rfl⟩
  · intro line error failed
    rw [answer, runMatch_of_error settings line error failed]
    split <;> rfl
  · intro bytes closed exits
    have exitLine : some "exit".toList ∈ (splitLines (encoded text.toList)).map decodeLine := by
      rw [decoded_lines]
      exact List.mem_map_of_mem exits
    rw [run_eq_runRepl parsed loaded, run_eq_runRepl parsed loaded,
      splitLines_encoded_append _ bytes closed, List.map_append,
      runRepl_append_of_exit settings _ _ _ exitLine]

/-- A line with a match, an empty one and an open string, and more behind the end. -/
theorem open_string_and_exit_answered :
    let files : Settings.Files := fun _ => none
    let options : Options := { config := none, format := none, verbose := false }
    let settings : Settings := { tokenizer := {}, format := .pretty, showTokens := false }
    let text := "A+B\r\n\n'open\nexit\r\nA\n"
    let shown := ("RESULT 0 - [[[IDENTIFIER:[A], OPERATOR:[+]]], IDENTIFIER:[B], null]\n" ++
      "Number matches 1\n").toList
    let message := ("Lexer error in . at 5 near \"'open\": unterminated string literal opened " ++
      "at 0\n").toList
    parse ["repl"] = some (.run options .repl) ∧ settingsOf files options = .ok settings ∧
      processedLines text.toList = ["A+B".toList, [], "'open".toList] ∧
      run files ["repl"] text.toUTF8.data.toList =
        some
          { code := 0
            transcript := ⟨">>> ".toList ++ shown ++ ">>> >>> >>> \n".toList, message⟩ } ∧
      (∃ code, run files ["match", "A+B"] [] = some { code, transcript := ⟨shown, []⟩ }) ∧
      answer settings "'open".toList = [] ∧
      run files ["repl"] (text.toUTF8.data.toList ++ [0xFF]) =
        run files ["repl"] text.toUTF8.data.toList := by
  intro files options settings text shown message
  have parsed : parse ["repl"] = some (.run options .repl) := rfl
  have loaded : settingsOf files options = .ok settings := by decide +kernel
  have lines : processedLines text.toList = ["A+B".toList, [], "'open".toList] := by
    decide +kernel
  obtain ⟨ran, matched, silent, deaf⟩ :=
    conversation_matches_line_by_line files ["repl"] options settings .asWritten text parsed rfl
      loaded
  let name : Token := ⟨.identifier, "A", ⟨0, 1, "."⟩⟩
  let plus : Token := ⟨.operator, "+", ⟨1, 2, "."⟩⟩
  let last : Token := ⟨.identifier, "B", ⟨2, 3, "."⟩⟩
  have chain : ChainOf OperatorJoint (List.drop 0 [name, plus, last])
      [.list [.token name, .token plus]] last :=
    @ChainOf.one OperatorJoint name last [plus] (.token plus) rfl (.plus rfl) rfl
  have tokens : tokenize settings.tokenizer "A+B".toList = .ok [name, plus, last] := by
    decide +kernel
  have answered : answer settings "A+B".toList = shown := by
    rw [answer_of_tokens settings _ _ (by decide) tokens, Matcher.derivations_eq_enumerate,
      Matcher.operatorChain_gives_one chain]
    decide +kernel
  have content : complaint settings "A+B".toList = [] := by
    rw [complaint, tokens]
  have failed : tokenize settings.tokenizer "'open".toList =
      .error (.unclosed settings.tokenizer "'open".toList 0) := by decide +kernel
  have unanswered : answer settings "'open".toList = [] := silent _ _ failed
  have complained : complaint settings "'open".toList = message := by
    rw [complaint, failed]
    decide +kernel
  have empty : complaint settings [] = [] := by decide +kernel
  have exits : "exit".toList ∈ linesOf text.toList := by decide +kernel
  have closed : ∀ last ∈ text.toList.getLast?, last = '\n' := by
    have lineFeed : text.toList.getLast? = some '\n' := by decide +kernel
    intro last isLast
    exact Option.mem_unique isLast lineFeed
  refine ⟨parsed, loaded, lines, ?_, ?_, unanswered, deaf [0xFF] closed exits⟩
  · rw [ran, lines, conversation]
    simp only [List.flatMap_cons, List.flatMap_nil, answered, unanswered, content, complained,
      empty]
    decide +kernel
  · rw [← answered, ← content]
    exact matched "A+B".toList ["match", "A+B"] [] (by decide) rfl

end TokenGrammar.CommandLine
