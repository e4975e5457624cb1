import TokenGrammar.Settings.Reading
import TokenGrammar.Text.Pieces
import TokenGrammar.Token.Tokenize

set_option autoImplicit false

/-! Settings: how to tokenize and what to show. They start from built-in defaults; files are
layered over these one after the other, and overrides over the files. Only what is left at the end
is read, so a value that something later replaces is never looked at. -/

namespace TokenGrammar

namespace Settings

structure Layer where
  name : String
  required : Bool

abbrev Files := String → Option (List Char)

structure Override where
  path : List Step
  value : Scalar

/-- The order in which hash maps are gone through. They promise none, so that any can occur. -/
structure HashOrder where
  fields : List (String × Entry) → List (String × Entry)
  overrides : List Override → List Override
  fields_perm : ∀ given, (fields given).Perm given
  overrides_perm : ∀ given, (overrides given).Perm given

def HashOrder.asWritten : HashOrder :=
  ⟨id, id, fun given => .refl given, fun given => .refl given⟩

def defaults : Entry :=
  .table none
    [("tokenizer", .table none
        [("file_id", .scalar none (.text ".")), ("snippet_radius", .scalar none (.integer 20))]),
     ("output", .table none
        [("format", .scalar none (.text "pretty")), ("show_tokens", .scalar none (.boolean false))])]

def nameSteps (name : String) : List (List Char) :=
  (Text.pieces '/' name.toList).filter (fun step => !step.isEmpty && step != ['.'])

def plainName (name : String) : String :=
  String.ofList ((if name.toList.head? = some '/' then ['/'] else []) ++
    Text.joined ['/'] (nameSteps name))

def namesFile (name : String) : Bool :=
  match (Text.pieces '/' name.toList).getLast? with
  | some step => !step.isEmpty && step != ['.']
  | none => false

/-- The files that a name may stand for, in the order in which they are looked for: the one of that
name, and the one with the usual ending. A name that leads nowhere or ends in a step upwards stands
for none. -/
def candidates (name : String) : List String :=
  if (nameSteps name).isEmpty || (nameSteps name).getLast? = some ['.', '.'] then []
  else
    (if namesFile name then [plainName name] else []) ++ [plainName name ++ ".toml"]

def findFile (files : Files) (name : String) : Option (String × List Char) :=
  (candidates name).findSome? (fun candidate =>
    (files candidate).map (fun text => (candidate, text)))

def addLayer (order : HashOrder) (files : Files) (settings : Entry) (layer : Layer) :
    Except SettingsError Entry :=
  match findFile files layer.name with
  | some (name, text) =>
      match Toml.parse? text with
      | some entries =>
          let fields := Entry.arrangedFields order.fields (Entry.ofFields (some name) entries)
          (settings.putFile (order.fields fields)).mapError .misplaced
      | none => .error (.malformedFile name)
  | none => if layer.required then .error (.missingFile layer.name) else .ok settings

def override (key : String) (value : Scalar) : Except SettingsError Override :=
  match Step.path? key with
  | some path => .ok { path, value }
  | none => .error (.malformedPath key)

def addOverride (settings : Entry) (override : Override) : Except SettingsError Entry :=
  (Entry.putAt override.path (.scalar none override.value) settings).mapError .misplaced

/-- The items without those that another one with the same key follows. -/
def latestBy {α β : Type} [DecidableEq β] (key : α → β) : List α → List α
  | [] => []
  | item :: later =>
      if later.any (fun other => key other = key item) then latestBy key later
      else item :: latestBy key later

/-- What files and overrides leave in the end. Of the overrides for one path only the last one is
kept. -/
def effective (order : HashOrder) (files : Files) (layers : List Layer)
    (overrides : List Override) : Except SettingsError Entry := do
  let layered ← layers.foldlM (addLayer order files) defaults
  (order.overrides (latestBy Override.path overrides)).foldlM addOverride layered

end Settings

structure Settings where
  tokenizer : TokenizerSettings
  format : OutputFormat
  showTokens : Bool
  deriving DecidableEq

namespace Settings

def readTokenizer (order : HashOrder) (entry : Entry) : Except SettingsError TokenizerSettings := do
  let (fileId, snippetRadius) ← entry.readSection order.fields "tokenizer" "TokenizerConfig"
    "file_id" "snippet_radius" Entry.readText Entry.readNatural
  return { fileId, snippetRadius }

def readOutput (order : HashOrder) (entry : Entry) : Except SettingsError (OutputFormat × Bool) :=
  entry.readSection order.fields "output" "OutputConfig" "format" "show_tokens"
    (fun _ format => format.readFormat) Entry.readBoolean

def ofEntry (order : HashOrder) (entry : Entry) : Except SettingsError Settings := do
  let (tokenizer, format, showTokens) ← entry.readSection order.fields "" "SynmatchConfig"
    "tokenizer" "output" (fun _ entry => readTokenizer order entry)
    (fun _ entry => readOutput order entry)
  return { tokenizer, format, showTokens }

def load (files : Files) (layers : List Layer) (overrides : List Override)
    (order : HashOrder := .asWritten) : Except SettingsError Settings := do
  ofEntry order (← effective order files layers overrides)

end Settings

end TokenGrammar
