import TokenGrammar.Output

set_option autoImplicit false

/-! Command line arguments. There is a level of options before the command and one after it; an
option may stand at either, at most once at each, and the one after the command counts. Arguments
that cannot be understood are refused as a whole. -/

namespace TokenGrammar.CommandLine

inductive Command where
  | tokenize (text : String)
  | matchText (text : String) (showGrammar : Bool)
  | repl

structure Options where
  config : Option String
  format : Option OutputFormat
  verbose : Bool

inductive Invocation where
  | version
  | run (options : Options) (command : Command)

inductive Place where
  | beforeCommand
  | afterTokenize
  | afterMatch
  | afterRepl
  deriving DecidableEq

def Place.ofCommand? : String → Option Place
  | "tokenize" => some .afterTokenize
  | "match" => some .afterMatch
  | "repl" => some .afterRepl
  | _ => none

def Place.takesText : Place → Bool
  | .afterTokenize => true
  | .afterMatch => true
  | _ => false

structure LevelArguments where
  config : Option String := none
  format : Option OutputFormat := none
  verbose : Bool := false
  showGrammar : Bool := false
  text : Option String := none

namespace LevelArguments

inductive Valued where
  | config
  | format
  deriving DecidableEq

def give (level : LevelArguments) (option : Valued) (value : String) : Option LevelArguments :=
  match option with
  | .config => if level.config.isSome then none else some { level with config := some value }
  | .format =>
      if level.format.isSome then none
      else (OutputFormat.named? value).map (fun format => { level with format := some format })

def setVerbose (level : LevelArguments) : Option LevelArguments :=
  if level.verbose then none else some { level with verbose := true }

def setShowGrammar (level : LevelArguments) : Option LevelArguments :=
  if level.showGrammar then none else some { level with showGrammar := true }

def takeText (place : Place) (level : LevelArguments) (text : String) : Option LevelArguments :=
  if place.takesText && level.text.isNone then some { level with text := some text } else none

end LevelArguments

inductive Effect where
  | set (level : LevelArguments)
  | await (option : LevelArguments.Valued) (level : LevelArguments)
  | version

def valued (level : LevelArguments) (option : LevelArguments.Valued) : Option String → Option Effect
  | some value => (level.give option value).map .set
  | none => some (.await option level)

def longOption (place : Place) (level : LevelArguments) (name : String) (value : Option String) :
    Option Effect :=
  match name, value with
  | "config", _ => valued level .config value
  | "format", _ => valued level .format value
  | "verbose", none => level.setVerbose.map .set
  | "show-grammar", none => if place = .afterMatch then level.setShowGrammar.map .set else none
  | "version", none => if place = .beforeCommand then some .version else none
  | _, _ => none

def joinedValue : List Char → Option String
  | [] => none
  | '=' :: value => some (String.ofList value)
  | value => some (String.ofList value)

/-- Short options joined in one argument. One that takes a value takes all that follows it. -/
def shortOptions (place : Place) : LevelArguments → List Char → Option Effect
  | level, [] => some (.set level)
  | level, 'v' :: later => do shortOptions place (← level.setVerbose) later
  | level, 'c' :: later => valued level .config (joinedValue later)
  | level, 'f' :: later => valued level .format (joinedValue later)
  | _, 'V' :: _ => if place = .beforeCommand then some .version else none
  | _, _ => none

def looksLikeOption (argument : String) : Bool :=
  match argument.toList with
  | '-' :: _ :: _ => true
  | _ => false

def splitValue (text : List Char) : String × Option String :=
  let name := String.ofList (text.takeWhile (fun character => character != '='))
  match text.dropWhile (fun character => character != '=') with
  | _ :: value => (name, some (String.ofList value))
  | [] => (name, none)

inductive LevelEnd where
  | version
  | finished (level : LevelArguments)
  | command (level : LevelArguments) (place : Place) (rest : List String)

/-- Reads the arguments of a level. `onlyTexts` says whether two dashes have been seen, after which
nothing is an option; `awaiting` is the option that the next argument is the value of. -/
def readLevel (place : Place) (onlyTexts : Bool) :
    Option LevelArguments.Valued → LevelArguments → List String → Option LevelEnd
  | some _, _, [] => none
  | some option, level, value :: rest =>
      if looksLikeOption value then none
      else do readLevel place onlyTexts none (← level.give option value) rest
  | none, level, [] => some (.finished level)
  | none, level, argument :: rest =>
      if onlyTexts then do
        readLevel place true none (← level.takeText place argument) rest
      else
        match argument.toList with
        | ['-', '-'] => if place = .beforeCommand then none else readLevel place true none level rest
        | '-' :: '-' :: long =>
            let (name, value) := splitValue long
            match longOption place level name value with
            | some (.set changed) => readLevel place false none changed rest
            | some (.await option changed) => readLevel place false (some option) changed rest
            | some .version => some .version
            | none => none
        | '-' :: short :: later =>
            match shortOptions place level (short :: later) with
            | some (.set changed) => readLevel place false none changed rest
            | some (.await option changed) => readLevel place false (some option) changed rest
            | some .version => some .version
            | none => none
        | _ =>
            if place = .beforeCommand then
              (Place.ofCommand? argument).map (fun next => .command level next rest)
            else do readLevel place false none (← level.takeText place argument) rest

def commandOf (place : Place) (level : LevelArguments) : Option Command :=
  match place with
  | .afterTokenize => level.text.map .tokenize
  | .afterMatch => level.text.map (fun text => .matchText text level.showGrammar)
  | .afterRepl => some .repl
  | .beforeCommand => none

def options (outer inner : LevelArguments) : Options :=
  { config := inner.config.or outer.config
    format := inner.format.or outer.format
    verbose := inner.verbose || outer.verbose }

def parse (arguments : List String) : Option Invocation := do
  match ← readLevel .beforeCommand false none {} arguments with
  | .version => return .version
  | .finished _ => none
  | .command outer place rest =>
      match ← readLevel place false none {} rest with
      | .finished inner => return .run (options outer inner) (← commandOf place inner)
      | _ => none

end TokenGrammar.CommandLine
