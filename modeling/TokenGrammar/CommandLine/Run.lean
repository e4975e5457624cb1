import TokenGrammar.CommandLine.Arguments
import TokenGrammar.Matcher.Library
import TokenGrammar.Search.Matching
import TokenGrammar.Settings
import TokenGrammar.Text.Terminal

set_option autoImplicit false

/-! Running the commands. Everything here is a function of the arguments, the files and the input;
the program only has to print what it says. -/

namespace TokenGrammar.CommandLine

structure Transcript where
  output : List Char := []
  errors : List Char := []
  deriving DecidableEq

instance : Append Transcript :=
  ⟨fun first second =>
    { output := first.output ++ second.output, errors := first.errors ++ second.errors }⟩

def say (text : List Char) : Transcript := { output := text ++ ['\n'] }

def complain (text : String) : Transcript := { errors := text.toList ++ ['\n'] }

structure Result where
  code : Nat
  transcript : Transcript
  deriving DecidableEq

/-! ### One text -/

def indented (text : List Char) : List Char :=
  text.flatMap (fun character => if character = '\n' then "\n    ".toList else [character])

/-- The log line of a record. Of what would control a terminal, nothing is left. -/
def logLine (record : Record) : List Char :=
  Text.plain (("[" ++ record.level.name ++ " " ++ record.origin ++ "] ").toList ++
    indented record.text.toList ++ ['\n'])

def logged (verbose : Bool) (records : List Record) : Transcript :=
  if verbose then
    let kept := records.filter (fun record => TokenGrammar.Level.debug.keeps record.level)
    { errors := kept.flatMap logLine }
  else {}

def withLineEnd (text : List Char) : List Char :=
  if text.isEmpty || text.getLast? == some '\n' then text else text ++ ['\n']

def tokensOf (settings : Settings) (verbose : Bool) (text : List Char) :
    Except TokenizeError (List Token × Transcript) := do
  let tokens ← TokenGrammar.tokenize settings.tokenizer text
  return (tokens, logged verbose [Record.ofTokens settings.tokenizer tokens])

def resultLines (format : OutputFormat) : Nat → List Value → List Char
  | _, [] => []
  | index, value :: later =>
      "RESULT ".toList ++ Text.decimalDigits index ++ " - ".toList ++ format.renderValue value ++
        '\n' :: resultLines format (index + 1) later

def matchText (settings : Settings) (verbose : Bool) (grammar : Matcher) (text : List Char) :
    Except String Transcript := do
  match tokensOf settings verbose text with
  | .error error => throw error.message
  | .ok (tokens, log) =>
      let shown : Transcript :=
        if settings.showTokens then { output := withLineEnd (settings.format.renderTokens tokens) }
        else {}
      match grammar.matchAll (Cursor.start { storage := 0, tokens }) none with
      | .error fault => throw (fault.message.getD "")
      | .ok run =>
          let results : Transcript :=
            { output := resultLines settings.format 0 (run.results.map Derivation.value) }
          let count := "Number matches ".toList ++ Text.decimalDigits run.results.length
          return log ++ shown ++ logged verbose run.records ++ results ++ say count

/-! ### Commands -/

def runTokenize (settings : Settings) (verbose : Bool) (text : List Char) : Result :=
  match tokensOf settings verbose text with
  | .error error => { code := 1, transcript := complain error.message }
  | .ok (tokens, log) =>
      { code := 0
        transcript := log ++ { output := withLineEnd (settings.format.renderTokens tokens) } }

def runMatch (settings : Settings) (verbose showGrammar : Bool) (text : List Char) : Result :=
  let grammar := Matcher.operatorChain
  let heading : Transcript := if showGrammar then say grammar.compactText else {}
  match matchText settings verbose grammar text with
  | .error message => { code := 1, transcript := heading ++ complain message }
  | .ok transcript => { code := 0, transcript := heading ++ transcript }

/-! ### Lines of input -/

/-- Input as lines of bytes; what follows the last line end is a line if there is anything. -/
def splitLines : List UInt8 → List (List UInt8)
  | [] => []
  | byte :: later =>
      if byte = 10 then [] :: splitLines later
      else
        match splitLines later with
        | [] => [[byte]]
        | line :: others => (byte :: line) :: others

def decodeLine (bytes : List UInt8) : Option (List Char) :=
  (String.fromUTF8? ⟨bytes.toArray⟩).map (fun text =>
    (text.toList.reverse.dropWhile (fun character => character == '\r' || character == '\n')).reverse)

def prompt : Transcript := { output := ">>> ".toList }

inductive LineOutcome where
  | next (transcript : Transcript)
  | stop
  | unreadable (transcript : Transcript)

/-- Deals with one line of input: `exit` ends the conversation, an empty line does nothing, and a
line that cannot be tokenized is complained about. -/
def replLine (settings : Settings) (verbose : Bool) (line : Option (List Char)) : LineOutcome :=
  match line with
  | none => .unreadable (complain "Error reading input: stream did not contain valid UTF-8")
  | some text =>
      if text = "exit".toList then .stop
      else if text.isEmpty then .next {}
      else
        match matchText settings verbose Matcher.operatorChain text with
        | .error message => .next (complain message)
        | .ok transcript => .next transcript

def runRepl (settings : Settings) (verbose : Bool) : List (Option (List Char)) → Result
  | [] => { code := 0, transcript := prompt ++ say [] }
  | line :: later =>
      match replLine settings verbose line with
      | .stop => { code := 0, transcript := prompt ++ say [] }
      | .unreadable transcript => { code := 1, transcript := prompt ++ transcript }
      | .next transcript =>
          let rest := runRepl settings verbose later
          { rest with transcript := prompt ++ transcript ++ rest.transcript }

/-! ### The whole program -/

def localConfig : String := "synmatch.toml"

def settingsOf (files : Settings.Files) (options : Options)
    (order : Settings.HashOrder := .asWritten) : Except Settings.SettingsError Settings :=
  let layer : Settings.Layer :=
    match options.config with
    | some name => { name, required := true }
    | none => { name := localConfig, required := false }
  let overrides : List Settings.Override :=
    match options.format with
    | some format => [{ path := [.field "output", .field "format"], value := .text format.name }]
    | none => []
  Settings.load files [layer] overrides order

def versionText : String := "synmatch 0.1.0"

inductive Plan where
  | finished (result : Result)
  | converse (settings : Settings) (verbose : Bool)

def plan (files : Settings.Files) (invocation : Invocation)
    (order : Settings.HashOrder := .asWritten) : Plan :=
  match invocation with
  | .version => .finished { code := 0, transcript := say versionText.toList }
  | .run options command =>
      match settingsOf files options order with
      | .error error =>
          .finished { code := 1, transcript := complain ("Configuration error: " ++ error.message) }
      | .ok settings =>
          match command with
          | .tokenize text => .finished (runTokenize settings options.verbose text.toList)
          | .matchText text showGrammar =>
              .finished (runMatch settings options.verbose showGrammar text.toList)
          | .repl => .converse settings options.verbose

def run (files : Settings.Files) (arguments : List String) (input : List UInt8)
    (order : Settings.HashOrder := .asWritten) : Option Result := do
  match plan files (← parse arguments) order with
  | .finished result => return result
  | .converse settings verbose =>
      return runRepl settings verbose ((splitLines input).map decodeLine)

end TokenGrammar.CommandLine
