import Mathlib
import TokenGrammar.Proofs.HashedTables

set_option autoImplicit false

/-! What settings come to in the end. Files and overrides are put over the defaults one after the
other, but for each single setting only what was put there last counts, with what lies under it as
far as it is made of tables, for these are merged. Everything else that files and overrides say
leaves no trace in the result, and neither does the order in which hash maps are gone through, as
long as no file gives one setting twice. -/

namespace TokenGrammar.Settings

/-! ### The settings of the program -/

inductive Setting where
  | fileId
  | snippetRadius
  | format
  | showTokens
  deriving DecidableEq

namespace Setting

def sectionName : Setting → String
  | fileId | snippetRadius => "tokenizer"
  | format | showTokens => "output"

def fieldName : Setting → String
  | fileId => "file_id"
  | snippetRadius => "snippet_radius"
  | format => "format"
  | showTokens => "show_tokens"

def key (setting : Setting) : String := setting.sectionName ++ "." ++ setting.fieldName

def builtIn : Setting → Entry
  | fileId => .scalar none (.text ".")
  | snippetRadius => .scalar none (.integer 20)
  | format => .scalar none (.text "pretty")
  | showTokens => .scalar none (.boolean false)

/-- The entries that the fields of a file give a setting, the last one last. -/
def valuesIn (setting : Setting) (fields : List (String × Entry)) : List Entry :=
  Entry.given setting.fieldName
    ((Entry.given setting.sectionName fields).flatMap (fun entry => entry.asTable.2))

private theorem valuesIn_append (setting : Setting) (fields others : List (String × Entry)) :
    setting.valuesIn (fields ++ others) = setting.valuesIn fields ++ setting.valuesIn others := by
  simp [valuesIn, Entry.given]

private theorem valuesIn_perm (setting : Setting)
    {arrange : List (String × Entry) → List (String × Entry)}
    (anyOrder : ∀ fields, (arrange fields).Perm fields) {fields gone : List (String × Entry)}
    (same : gone.Perm (fields.map (Entry.arrangedField arrange))) :
    (setting.valuesIn gone).Perm ((setting.valuesIn fields).map (Entry.arranged arrange)) :=
  Entry.given_in_given_perm anyOrder setting.sectionName setting.fieldName same

private theorem valuesIn_flatten (setting : Setting) (contents : List (List (String × Entry))) :
    setting.valuesIn contents.flatten = contents.flatMap setting.valuesIn := by
  induction contents with
  | nil => rfl
  | cons fields later inductionHypothesis =>
      rw [List.flatten_cons, valuesIn_append, inductionHypothesis, List.flatMap_cons]

end Setting

/-- What is left of the entries given to one setting, the latest first. An entry that is no table
hides all that came before it; a table is merged into what came before. -/
def heldAfter (start : Entry) : List Entry → Entry
  | [] => start
  | .table _ fields :: earlier => Entry.putFields (heldAfter start earlier) fields
  | value :: _ => value

private theorem foldl_put_eq_heldAfter (start : Entry) (entries : List Entry) :
    entries.foldl (fun held entry => some (Entry.put held entry)) (some start) =
      some (heldAfter start entries.reverse) := by
  -- the entries are taken latest first from here on, as they are looked at
  rw [List.foldl_eq_foldr_reverse]
  induction entries.reverse with
  | nil => rfl
  | cons latest earlier inductionHypothesis =>
      rw [List.foldr_cons, inductionHypothesis]
      cases latest <;> simp [heldAfter, Entry.put]

theorem alike_heldAfter {arrange : List (String × Entry) → List (String × Entry)}
    (anyOrder : ∀ fields, (arrange fields).Perm fields) {start : Entry} (same : start.Alike start)
    (entries : List Entry) :
    (heldAfter start (entries.map (Entry.arranged arrange))).Alike (heldAfter start entries) := by
  induction entries with
  | nil => exact same
  | cons entry earlier inductionHypothesis =>
      rw [List.map_cons]
      cases entry with
      | table origin fields =>
          rw [Entry.arranged, heldAfter, heldAfter]
          apply inductionHypothesis.putFields
          have keys := (anyOrder (Entry.arrangedFields arrange fields)).map Prod.fst
          rw [Entry.arrangedFields_eq_map, List.map_map] at keys
          rw [Entry.arrangedFields_eq_map]
          exact keys
      | nothing => exact .nothing
      | scalar origin value => exact .scalar origin value
      | list origin items => exact .list origin _ items

/-! ### What a tree of entries holds for each setting -/

/-- A tree of entries holds an entry for each setting, in the table that is its section. -/
def Holds (settings : Entry) (value : Setting → Entry) : Prop :=
  ∃ origin sections, settings = .table origin sections ∧
    ∀ setting : Setting, ∃ origin fields,
      sections.lookup setting.sectionName = some (.table origin fields) ∧
        fields.lookup setting.fieldName = some (value setting)

theorem holds_defaults : Holds defaults Setting.builtIn := by
  refine ⟨_, _, rfl, fun setting => ?_⟩
  cases setting <;> exact ⟨_, _, rfl, rfl⟩

/-- Putting fields into settings gives each setting what is left of the entries for it, as long as
the fields give tables where sections stand. -/
theorem Holds.putFields {settings : Entry} {value : Setting → Entry} (held : Holds settings value)
    (fields : List (String × Entry))
    (sections : ∀ setting : Setting,
      (Entry.given setting.sectionName fields).all Entry.isTable) :
    Holds (settings.putFields fields)
      (fun setting => heldAfter (value setting) (setting.valuesIn fields).reverse) := by
  obtain ⟨origin, before, rfl, holds⟩ := held
  obtain ⟨after, written, lookups⟩ := Entry.putFields_table origin before fields
  refine ⟨origin, after, written, fun setting => ?_⟩
  -- a section sees the writes to its name, and a setting what they write to its name in there
  obtain ⟨sectionOrigin, sectionBefore, found, holdsField⟩ := holds setting
  obtain ⟨sectionAfter, sectionWritten, fieldLookups⟩ :=
    Entry.putFields_table sectionOrigin sectionBefore
      ((Entry.given setting.sectionName fields).flatMap (fun entry => entry.asTable.2))
  refine ⟨sectionOrigin, sectionAfter, ?_, ?_⟩
  · rw [lookups, found, Entry.foldl_put_tables _ _ (sections setting), sectionWritten]
  · rw [fieldLookups, holdsField, foldl_put_eq_heldAfter]
    rfl

/-! ### Reading settings -/

namespace Setting

def Fits (settings : Settings) (entry : Entry) : Setting → Prop
  | fileId => entry.readText fileId.key = .ok settings.tokenizer.fileId
  | snippetRadius => entry.readNatural snippetRadius.key = .ok settings.tokenizer.snippetRadius
  | format => entry.readFormat = .ok settings.format
  | showTokens => entry.readBoolean showTokens.key = .ok settings.showTokens

def Refuses (error : SettingsError) (entry : Entry) : Setting → Prop
  | fileId => entry.readText fileId.key = .error error
  | snippetRadius => entry.readNatural snippetRadius.key = .error error
  | format => entry.readFormat = .error error
  | showTokens => entry.readBoolean showTokens.key = .error error

private theorem fits_iff_of_alike (setting : Setting) (settings : Settings) {entry other : Entry}
    (alike : entry.Alike other) : setting.Fits settings entry ↔ setting.Fits settings other := by
  cases setting
  · rw [Fits, Fits, alike.readText_eq]
  · rw [Fits, Fits, alike.readNatural_eq]
  · rw [Fits, Fits, alike.readFormat_eq]
  · rw [Fits, Fits, alike.readBoolean_eq]

private theorem refuses_iff_of_alike (setting : Setting) (error : SettingsError)
    {entry other : Entry}
    (alike : entry.Alike other) : setting.Refuses error entry ↔ setting.Refuses error other := by
  cases setting
  · rw [Refuses, Refuses, alike.readText_eq]
  · rw [Refuses, Refuses, alike.readNatural_eq]
  · rw [Refuses, Refuses, alike.readFormat_eq]
  · rw [Refuses, Refuses, alike.readBoolean_eq]

end Setting

private theorem map_eq_ok_iff {α β : Type} (change : α → β) (outcome : Except SettingsError α)
    (result : β) :
    outcome.map change = .ok result ↔ ∃ value, outcome = .ok value ∧ change value = result := by
  cases outcome <;> simp [Except.map]

private theorem map_eq_error_iff {α β : Type} (change : α → β) (outcome : Except SettingsError α)
    (error : SettingsError) : outcome.map change = .error error ↔ outcome = .error error := by
  cases outcome <;> simp [Except.map]

namespace Entry

theorem readBoth_eq_ok_iff {α β : Type} (backwards : Bool) (first : Except SettingsError α)
    (second : Except SettingsError β) (left : α) (right : β) :
    readBoth backwards first second = .ok (left, right) ↔
      first = .ok left ∧ second = .ok right := by
  cases backwards <;> cases first <;> cases second <;>
    simp [readBoth, bind, Except.bind, pure, Except.pure]

theorem eq_error_of_readBoth {α β : Type} {backwards : Bool} {first : Except SettingsError α}
    {second : Except SettingsError β} {error : SettingsError}
    (failed : readBoth backwards first second = .error error) :
    first = .error error ∨ second = .error error := by
  cases backwards <;> cases first <;> cases second <;>
    simp_all [readBoth, bind, Except.bind, pure, Except.pure]

private theorem readBoth_map_some {α β : Type} (backwards : Bool) (first : Except SettingsError α)
    (second : Except SettingsError β) :
    readBoth backwards (first.map some) (second.map some) =
      (readBoth backwards first second).map (fun values => (some values.1, some values.2)) := by
  cases backwards <;> cases first <;> cases second <;> rfl

theorem readSection_table {α β : Type}
    (arrange : List (String × Entry) → List (String × Entry)) (name struct first second : String)
    (readFirst : String → Entry → Except SettingsError α)
    (readSecond : String → Entry → Except SettingsError β) (origin : Option String)
    (fields : List (String × Entry)) {firstEntry secondEntry : Entry}
    (hasFirst : fields.lookup first = some firstEntry)
    (hasSecond : fields.lookup second = some secondEntry) :
    (table origin fields).readSection arrange name struct first second readFirst readSecond =
      readBoth (comesBefore second first (arrange fields))
        (readFirst (name ++ "." ++ first) firstEntry)
        (readSecond (name ++ "." ++ second) secondEntry) := by
  simp only [readSection, sectionFields, hasFirst, hasSecond, readPresent, asTable, bind,
    Except.bind, readBoth_map_some]
  cases readBoth (comesBefore second first (arrange fields))
    (readFirst (name ++ "." ++ first) firstEntry)
    (readSecond (name ++ "." ++ second) secondEntry) <;> rfl

end Entry

private theorem exists_readBoth_of_holds (order : HashOrder) {settings : Entry}
    {value : Setting → Entry} (held : Holds settings value) :
    ∃ outer first second, ofEntry order settings =
      (Entry.readBoth outer
        (Entry.readBoth first ((value .fileId).readText Setting.fileId.key)
          ((value .snippetRadius).readNatural Setting.snippetRadius.key))
        (Entry.readBoth second (value .format).readFormat
          ((value .showTokens).readBoolean Setting.showTokens.key))).map
        (fun values => ⟨⟨values.1.1, values.1.2⟩, values.2.1, values.2.2⟩) := by
  obtain ⟨origin, sections, rfl, holds⟩ := held
  obtain ⟨tokenizerOrigin, tokenizer, hasTokenizer, hasFileId⟩ := holds .fileId
  obtain ⟨outputOrigin, output, hasOutput, hasFormat⟩ := holds .format
  obtain ⟨_, _, sameTokenizer, hasRadius⟩ := holds .snippetRadius
  obtain ⟨_, _, sameOutput, hasShowTokens⟩ := holds .showTokens
  obtain ⟨rfl, rfl⟩ : _ ∧ _ := by simpa using hasTokenizer.symm.trans sameTokenizer
  obtain ⟨rfl, rfl⟩ : _ ∧ _ := by simpa using hasOutput.symm.trans sameOutput
  simp only [Setting.sectionName] at hasTokenizer hasOutput
  simp only [Setting.fieldName] at hasFileId hasRadius hasFormat hasShowTokens
  have readTokenizerTable : readTokenizer order (.table tokenizerOrigin tokenizer) =
      (Entry.readBoth (Entry.comesBefore "snippet_radius" "file_id" (order.fields tokenizer))
        ((value .fileId).readText Setting.fileId.key)
        ((value .snippetRadius).readNatural Setting.snippetRadius.key)).map
          (fun values => ⟨values.1, values.2⟩) := by
    rw [readTokenizer, Entry.readSection_table _ _ _ _ _ _ _ _ _ hasFileId hasRadius]
    rfl
  have readOutputTable : readOutput order (.table outputOrigin output) =
      Entry.readBoth (Entry.comesBefore "show_tokens" "format" (order.fields output))
        (value .format).readFormat ((value .showTokens).readBoolean Setting.showTokens.key) :=
    Entry.readSection_table _ _ _ _ _ _ _ _ _ hasFormat hasShowTokens
  refine ⟨Entry.comesBefore "output" "tokenizer" (order.fields sections),
    Entry.comesBefore "snippet_radius" "file_id" (order.fields tokenizer),
    Entry.comesBefore "show_tokens" "format" (order.fields output), ?_⟩
  rw [ofEntry, Entry.readSection_table _ _ _ _ _ _ _ _ _ hasTokenizer hasOutput,
    readTokenizerTable, readOutputTable]
  cases Entry.comesBefore "output" "tokenizer" (order.fields sections) <;>
    cases Entry.readBoth _ ((value .fileId).readText Setting.fileId.key) _ <;>
    cases Entry.readBoth _ (value .format).readFormat _ <;> rfl

/-- The result of reading settings whose entries are known. If several of them cannot be read, the
order decides whose error it is. -/
theorem ofEntry_of_holds (order : HashOrder) {settings : Entry} {value : Setting → Entry}
    (held : Holds settings value) :
    (∀ result, ofEntry order settings = .ok result ↔
      ∀ setting : Setting, setting.Fits result (value setting)) ∧
    ∀ error, ofEntry order settings = .error error →
      ∃ setting : Setting, setting.Refuses error (value setting) := by
  obtain ⟨outer, first, second, told⟩ := exists_readBoth_of_holds order held
  rw [told]
  constructor
  · rintro ⟨⟨fileId, radius⟩, format, showTokens⟩
    rw [map_eq_ok_iff]
    constructor
    · rintro ⟨⟨⟨_, _⟩, _, _⟩, succeeded, ⟨⟩⟩ setting
      rw [Entry.readBoth_eq_ok_iff, Entry.readBoth_eq_ok_iff, Entry.readBoth_eq_ok_iff] at succeeded
      obtain ⟨⟨readFileId, readRadius⟩, readFormat, readShowTokens⟩ := succeeded
      cases setting <;> assumption
    · intro fits
      refine ⟨((fileId, radius), (format, showTokens)), ?_, rfl⟩
      rw [Entry.readBoth_eq_ok_iff, Entry.readBoth_eq_ok_iff, Entry.readBoth_eq_ok_iff]
      exact ⟨⟨fits .fileId, fits .snippetRadius⟩, fits .format, fits .showTokens⟩
  · intro error failed
    rw [map_eq_error_iff] at failed
    rcases Entry.eq_error_of_readBoth failed with tokenizer | output
    · rcases Entry.eq_error_of_readBoth tokenizer with fileId | snippetRadius
      · exact ⟨.fileId, fileId⟩
      · exact ⟨.snippetRadius, snippetRadius⟩
    · rcases Entry.eq_error_of_readBoth output with format | showTokens
      · exact ⟨.format, format⟩
      · exact ⟨.showTokens, showTokens⟩

/-! ### Files -/

def Step.fieldName? : Step → Option String
  | field name => some name
  | item _ => none

private theorem mapM_eq_some_iff {α β : Type} (read : α → Option β) {items : List α}
    {contents : List β} :
    items.mapM read = some contents ↔
      List.Forall₂ (fun item content => read item = some content) items contents := by
  induction items generalizing contents with
  | nil => simp [eq_comm]
  | cons item later inductionHypothesis =>
      simp [List.forall₂_cons_left_iff, Option.bind_eq_some_iff, inductionHypothesis,
        @eq_comm _ contents]

private theorem Step.eq_fields_of_names {steps : List Step} {names : List String}
    (named : steps.mapM fieldName? = some names) : steps = names.map field := by
  rw [mapM_eq_some_iff] at named
  induction named with
  | nil => rfl
  | @cons step name _ _ isName _ inductionHypothesis =>
      cases step with
      | item index => cases isName
      | field other =>
          obtain rfl := Option.some.inj isName
          rw [inductionHypothesis, List.map_cons]

def nested (name : String) : List String → Entry → String × Entry
  | [], entry => (name, entry)
  | inner :: names, entry => (name, .table none [nested inner names entry])

theorem putAt_names (name : String) (names : List String) (entry target : Entry) :
    Entry.putAt ((name :: names).map Step.field) entry target =
      .ok (target.putFields [nested name names entry]) := by
  induction names generalizing name target with
  | nil => rw [nested, List.map_singleton, Entry.putAt]
  | cons inner names inductionHypothesis =>
      have behind := inductionHypothesis inner
        ((target.asTable.2.lookup (Text.lowerCaseString name)).getD Entry.empty)
      rw [List.map_cons] at behind
      rw [nested, List.map_cons, List.map_cons, Entry.putAt]
      · simp [behind, Entry.putFields, Entry.put, bind, Except.bind, pure, Except.pure]
      · simp

/-- A field of a file with its key spelled out: a key that is a path of names stands for the tables
that it leads through. There is no such field for a path into a list. -/
def spelledOut? (field : String × Entry) : Option (String × Entry) :=
  match Step.path? field.1 with
  | none => some field
  | some steps =>
      match steps.mapM Step.fieldName? with
      | some (name :: names) => some (nested name names field.2)
      | _ => none

/-- What a layer says: the fields of its file, spelled out. A file that need not be there and is not
says nothing. -/
def Layer.fields? (files : Files) (layer : Layer) : Option (List (String × Entry)) :=
  match findFile files layer.name with
  | some (name, text) => do
      let entries ← Toml.parse? text
      (Entry.ofFields (some name) entries).mapM spelledOut?
  | none => if layer.required then none else some []

def Layer.arrangedFields? (order : HashOrder) (files : Files) (layer : Layer) :
    Option (List (String × Entry)) :=
  match findFile files layer.name with
  | some (name, text) => do
      let entries ← Toml.parse? text
      (order.fields (Entry.arrangedFields order.fields (Entry.ofFields (some name) entries))).mapM
        spelledOut?
  | none => if layer.required then none else some []

private theorem putAt_spelledOut {field spelled : String × Entry}
    (read : spelledOut? field = some spelled) (target : Entry) :
    Entry.putAt ((Step.path? field.1).getD [.field field.1]) field.2 target =
      .ok (target.putFields [spelled]) := by
  rw [spelledOut?] at read
  split at read
  · next noPath =>
      obtain rfl := Option.some.inj read
      rw [noPath]
      exact putAt_names field.1 [] field.2 target
  · next steps isPath =>
      split at read
      · next name names named =>
          obtain rfl := Option.some.inj read
          rw [isPath, Option.getD_some, Step.eq_fields_of_names named]
          exact putAt_names name names field.2 target
      · cases read

/-- Where each item is read as fields and adding it puts these fields, adding items one after the
other puts the fields of all of them. -/
theorem foldlM_putFields {α β ε : Type} (read : α → Option β)
    (fieldsOf : β → List (String × Entry)) (add : Entry → α → Except ε Entry)
    (each : ∀ item content, read item = some content →
      ∀ target, add target item = .ok (target.putFields (fieldsOf content)))
    {items : List α} {contents : List β} (all : items.mapM read = some contents)
    (target : Entry) :
    items.foldlM add target = .ok (target.putFields (contents.flatMap fieldsOf)) := by
  rw [mapM_eq_some_iff] at all
  induction all generalizing target with
  | nil =>
      rw [List.flatMap_nil, Entry.putFields]
      rfl
  | @cons item first later others readFirst _ inductionHypothesis =>
      calc (item :: later).foldlM add target
          = later.foldlM add (target.putFields (fieldsOf first)) := by
            rw [List.foldlM_cons, each item first readFirst]
            rfl
        _ = .ok ((target.putFields (fieldsOf first)).putFields (others.flatMap fieldsOf)) :=
            inductionHypothesis _
        _ = .ok (target.putFields ((first :: others).flatMap fieldsOf)) := by
            rw [← Entry.putFields_append, List.flatMap_cons]

theorem putFile_spelledOut {fields spelled : List (String × Entry)}
    (read : fields.mapM spelledOut? = some spelled) (target : Entry) :
    target.putFile fields = .ok (target.putFields spelled) := by
  have put := foldlM_putFields spelledOut? (fun field => [field])
    (fun table field =>
      Entry.putAt ((Step.path? field.1).getD [.field field.1]) field.2 table)
    (fun _ _ => putAt_spelledOut) read target
  rwa [List.flatMap_singleton'] at put

private theorem addLayer_of_fields (order : HashOrder) {files : Files} {layer : Layer}
    {fields : List (String × Entry)} (read : layer.arrangedFields? order files = some fields)
    (settings : Entry) : addLayer order files settings layer = .ok (settings.putFields fields) := by
  rw [Layer.arrangedFields?] at read
  rw [addLayer]
  cases found : findFile files layer.name with
  | none =>
      rw [found] at read
      obtain ⟨optional, rfl⟩ : layer.required = false ∧ [] = fields := by simpa using read
      simp [optional, Entry.putFields]
  | some file =>
      obtain ⟨name, text⟩ := file
      rw [found] at read
      obtain ⟨entries, parsed, spelled⟩ := Option.bind_eq_some_iff.mp read
      simp only [parsed, putFile_spelledOut spelled]
      rfl

private theorem foldlM_addLayer (order : HashOrder) {files : Files} {layers : List Layer}
    {contents : List (List (String × Entry))}
    (read : layers.mapM (Layer.arrangedFields? order files) = some contents) (settings : Entry) :
    layers.foldlM (addLayer order files) settings = .ok (settings.putFields contents.flatten) := by
  have added := foldlM_putFields (Layer.arrangedFields? order files) id (addLayer order files)
    (fun _ _ => addLayer_of_fields order) read settings
  rwa [List.flatMap_id] at added

/-! ### Files gone through in another order -/

section

variable {arrange : List (String × Entry) → List (String × Entry)}

private theorem arrangedField_nested (anyOrder : ∀ fields, (arrange fields).Perm fields)
    (name : String) (names : List String) (entry : Entry) :
    Entry.arrangedField arrange (nested name names entry) =
      nested name names (entry.arranged arrange) := by
  induction names generalizing name with
  | nil => rfl
  | cons inner names inductionHypothesis =>
      have alone (field : String × Entry) : arrange [field] = [field] :=
        List.perm_singleton.mp (anyOrder [field])
      have inside := inductionHypothesis inner
      rw [nested, nested, ← inside, Entry.arrangedField, Entry.arranged,
        Entry.arrangedFields_eq_map, List.map_singleton, alone]

private theorem spelledOut?_arrangedField (anyOrder : ∀ fields, (arrange fields).Perm fields)
    (field : String × Entry) :
    spelledOut? (Entry.arrangedField arrange field) =
      (spelledOut? field).map (Entry.arrangedField arrange) := by
  rw [spelledOut?, spelledOut?]
  have sameKey : (Entry.arrangedField arrange field).1 = field.1 := rfl
  rw [sameKey]
  cases Step.path? field.1 with
  | none => rfl
  | some steps =>
      dsimp only
      split
      · rw [Option.map_some, arrangedField_nested anyOrder]
        rfl
      · rfl

theorem exists_spelledOut_perm (anyOrder : ∀ fields, (arrange fields).Perm fields)
    {fields spelled : List (String × Entry)} (read : fields.mapM spelledOut? = some spelled) :
    ∃ gone, (arrange (Entry.arrangedFields arrange fields)).mapM spelledOut? = some gone ∧
      gone.Perm (spelled.map (Entry.arrangedField arrange)) := by
  rw [mapM_eq_some_iff] at read
  have readArranged : List.Forall₂ (fun field gone => spelledOut? field = some gone)
      (Entry.arrangedFields arrange fields) (spelled.map (Entry.arrangedField arrange)) := by
    rw [Entry.arrangedFields_eq_map, List.forall₂_map_left_iff, List.forall₂_map_right_iff]
    refine read.imp (fun field gone isGone => ?_)
    rw [spelledOut?_arrangedField anyOrder, isGone, Option.map_some]
  obtain ⟨gone, readGone, perm⟩ := List.perm_comp_forall₂ (anyOrder _) readArranged
  exact ⟨gone, (mapM_eq_some_iff _).mpr readGone, perm⟩

end

theorem Layer.exists_arrangedFields (order : HashOrder) {files : Files} {layer : Layer}
    {fields : List (String × Entry)} (read : layer.fields? files = some fields) :
    ∃ gone, layer.arrangedFields? order files = some gone ∧
      gone.Perm (fields.map (Entry.arrangedField order.fields)) := by
  rw [Layer.fields?] at read
  rw [Layer.arrangedFields?]
  cases found : findFile files layer.name with
  | none =>
      rw [found] at read
      obtain ⟨optional, rfl⟩ : layer.required = false ∧ [] = fields := by simpa using read
      exact ⟨[], by simp [optional], .refl _⟩
  | some file =>
      obtain ⟨name, text⟩ := file
      rw [found] at read
      obtain ⟨entries, parsed, spelled⟩ := Option.bind_eq_some_iff.mp read
      obtain ⟨gone, readGone, perm⟩ := exists_spelledOut_perm order.fields_perm spelled
      exact ⟨gone, Option.bind_eq_some_iff.mpr ⟨entries, parsed, readGone⟩, perm⟩

theorem exists_arrangedFields (order : HashOrder) {files : Files} {layers : List Layer}
    {contents : List (List (String × Entry))}
    (read : layers.mapM (Layer.fields? files) = some contents) :
    ∃ arranged, layers.mapM (Layer.arrangedFields? order files) = some arranged ∧
      List.Forall₂ (fun gone fields => gone.Perm (fields.map (Entry.arrangedField order.fields)))
        arranged contents := by
  rw [mapM_eq_some_iff] at read
  induction read with
  | nil => exact ⟨[], rfl, .nil⟩
  | cons readFields _ inductionHypothesis =>
      obtain ⟨gone, readGone, perm⟩ := Layer.exists_arrangedFields order readFields
      obtain ⟨arranged, readArranged, perms⟩ := inductionHypothesis
      exact ⟨gone :: arranged, by simp [readGone, readArranged], .cons perm perms⟩

/-! ### Overrides -/

namespace Setting

def path (setting : Setting) : List Step := [.field setting.sectionName, .field setting.fieldName]

private theorem path_of_key (setting : Setting) : Step.path? setting.key = some setting.path := by
  cases setting <;> decide +kernel

@[simp] theorem lowerCase_sectionName (setting : Setting) :
    Text.lowerCaseString setting.sectionName = setting.sectionName := by
  cases setting <;> decide +kernel

@[simp] theorem lowerCase_fieldName (setting : Setting) :
    Text.lowerCaseString setting.fieldName = setting.fieldName := by
  cases setting <;> decide +kernel

private theorem fieldName_inj {setting other : Setting} :
    setting.fieldName = other.fieldName ↔ setting = other := by
  cases setting <;> cases other <;> simp [fieldName]

private theorem path_inj {setting other : Setting} :
    setting.path = other.path ↔ setting = other := by
  constructor
  · intro same
    rw [path, path, List.cons.injEq, List.singleton_inj, Step.field.injEq, Step.field.injEq] at same
    exact fieldName_inj.mp same.2
  · rintro rfl
    rfl

theorem valuesIn_path (setting other : Setting) (origin : Option String) (entry : Entry) :
    other.valuesIn [(setting.sectionName, .table origin [(setting.fieldName, entry)])] =
      if setting = other then [entry] else [] := by
  rw [valuesIn, Entry.given_singleton, lowerCase_sectionName]
  by_cases same : setting.sectionName = other.sectionName
  · simp [same, Entry.asTable, Entry.given_singleton, fieldName_inj]
  · have different : setting ≠ other := fun equal => same (by rw [equal])
    simp [same, different, Entry.given]

private theorem valuesIn_of_ne {setting : Setting} {key : String} (entry : Entry)
    (unknown : Text.lowerCaseString key ≠ setting.sectionName) :
    setting.valuesIn [(key, entry)] = [] := by
  rw [valuesIn, Entry.given_singleton, if_neg unknown]
  rfl

end Setting

/-- What each setting holds after assignments: the value of the last one to it, or else what it held
before. -/
def assign (value : Setting → Entry) (assigned : List (Setting × Scalar)) (setting : Setting) :
    Entry :=
  match assigned.reverse.lookup setting with
  | some latest => .scalar none latest
  | none => value setting

private theorem assign_cons (value : Setting → Entry) (setting : Setting) (scalar : Scalar)
    (later : List (Setting × Scalar)) :
    assign value ((setting, scalar) :: later) =
      assign (assign value [(setting, scalar)]) later := by
  funext other
  simp only [assign, List.reverse_cons, List.lookup_append]
  cases later.reverse.lookup other <;> rfl

theorem alike_assign {value other : Setting → Entry}
    (alike : ∀ setting, (value setting).Alike (other setting)) (assigned : List (Setting × Scalar))
    (setting : Setting) :
    (assign value assigned setting).Alike (assign other assigned setting) := by
  rw [assign, assign]
  cases assigned.reverse.lookup setting with
  | none => exact alike setting
  | some latest => exact .scalar none latest

def toOverride (assignment : Setting × Scalar) : Override :=
  { path := assignment.1.path, value := assignment.2 }

private theorem override_key (setting : Setting) (scalar : Scalar) :
    override setting.key scalar = .ok (toOverride (setting, scalar)) := by
  rw [override, Setting.path_of_key]
  rfl

private theorem mapM_override (assigned : List (Setting × Scalar)) :
    assigned.mapM (fun (setting, scalar) => override setting.key scalar) =
      .ok (assigned.map toOverride) := by
  induction assigned with
  | nil => rfl
  | cons assignment later inductionHypothesis =>
      obtain ⟨setting, scalar⟩ := assignment
      rw [List.mapM_cons, inductionHypothesis]
      dsimp only
      rw [override_key]
      rfl

theorem Holds.addOverride {settings : Entry} {value : Setting → Entry} (held : Holds settings value)
    (setting : Setting) (scalar : Scalar) :
    ∃ after, Settings.addOverride settings (toOverride (setting, scalar)) = .ok after ∧
      Holds after (assign value [(setting, scalar)]) := by
  let field := nested setting.sectionName [setting.fieldName] (.scalar none scalar)
  refine ⟨settings.putFields [field], ?_, ?_⟩
  · rw [Settings.addOverride]
    exact congrArg (Except.mapError .misplaced) (putAt_names _ [setting.fieldName] _ settings)
  · have after := held.putFields [field] (fun other => by
      rw [Entry.given_singleton]
      split <;> rfl)
    have values : assign value [(setting, scalar)] =
        fun other => heldAfter (value other) (other.valuesIn [field]).reverse := by
      funext other
      have values :
          other.valuesIn [field] = if setting = other then [.scalar none scalar] else [] :=
        Setting.valuesIn_path setting other none _
      rw [values, assign, List.reverse_singleton, List.lookup_cons]
      by_cases same : setting = other
      · simp [same, heldAfter]
      · simp [same, beq_false_of_ne (Ne.symm same), heldAfter]
    rwa [values]

theorem Holds.addOverrides {settings : Entry} {value : Setting → Entry}
    (held : Holds settings value) (assigned : List (Setting × Scalar)) :
    ∃ after, (assigned.map toOverride).foldlM Settings.addOverride settings = .ok after ∧
      Holds after (assign value assigned) := by
  induction assigned generalizing settings value with
  | nil => exact ⟨settings, rfl, held⟩
  | cons assignment later inductionHypothesis =>
      obtain ⟨setting, scalar⟩ := assignment
      obtain ⟨between, added, heldBetween⟩ := held.addOverride setting scalar
      obtain ⟨after, addedLater, heldAfter⟩ := inductionHypothesis heldBetween
      refine ⟨after, ?_, ?_⟩
      · rw [List.map_cons, List.foldlM_cons, added]
        exact addedLater
      · rwa [assign_cons]

/-! ### Overrides in another order -/

private theorem toOverride_injective : Function.Injective toOverride := by
  rintro ⟨setting, scalar⟩ ⟨other, otherScalar⟩ same
  rw [toOverride, toOverride, Override.mk.injEq, Setting.path_inj] at same
  exact Prod.ext same.1 same.2

private theorem latestBy_map_toOverride (assigned : List (Setting × Scalar)) :
    latestBy Override.path (assigned.map toOverride) =
      (latestBy Prod.fst assigned).map toOverride := by
  induction assigned with
  | nil => rfl
  | cons assignment later inductionHypothesis =>
      have samePath (other : Setting × Scalar) :
          (toOverride other).path = (toOverride assignment).path ↔ other.1 = assignment.1 :=
        Setting.path_inj
      rw [List.map_cons, latestBy, latestBy, inductionHypothesis, List.any_map]
      simp only [Function.comp_def, samePath]
      split <;> rfl

theorem latestBy_sublist {α β : Type} [DecidableEq β] (key : α → β) (items : List α) :
    (latestBy key items).Sublist items := by
  induction items with
  | nil => exact .slnil
  | cons item later inductionHypothesis =>
      rw [latestBy]
      split
      · exact inductionHypothesis.cons item
      · exact inductionHypothesis.cons_cons item

theorem nodup_latestBy {α β : Type} [DecidableEq β] (key : α → β) (items : List α) :
    ((latestBy key items).map key).Nodup := by
  induction items with
  | nil => exact List.nodup_nil
  | cons item later inductionHypothesis =>
      rw [latestBy]
      split
      · exact inductionHypothesis
      · rename_i alone
        rw [List.map_cons, List.nodup_cons]
        refine ⟨fun repeated => ?_, inductionHypothesis⟩
        obtain ⟨other, member, sameKey⟩ := List.mem_map.mp repeated
        have inside := (latestBy_sublist key later).subset member
        exact alone (List.any_eq_true.mpr ⟨other, inside, by simpa using sameKey⟩)

private theorem lookup_reverse_eq_none_iff {α β : Type} [DecidableEq α]
    (assigned : List (α × β)) (key : α) :
    assigned.reverse.lookup key = none ↔ ¬assigned.any (fun other => other.1 = key) := by
  rw [List.lookup_eq_none_iff, List.any_eq_true]
  simp only [List.mem_reverse, bne_iff_ne, decide_eq_true_eq, not_exists, not_and]
  exact forall₂_congr (fun other member => ne_comm)

theorem lookup_latestBy {α β : Type} [DecidableEq α] (assigned : List (α × β)) (key : α) :
    (latestBy Prod.fst assigned).lookup key = assigned.reverse.lookup key := by
  induction assigned with
  | nil => rfl
  | cons assignment later inductionHypothesis =>
      obtain ⟨name, value⟩ := assignment
      have followed_iff := lookup_reverse_eq_none_iff later name
      rw [latestBy, List.reverse_cons, List.lookup_append]
      by_cases here : key = name
      · subst here
        cases found : later.reverse.lookup key with
        | none => simp [followed_iff.mp found]
        | some latest =>
            have followed : later.any (fun other => other.1 = key) := by
              by_contra alone
              simp [followed_iff.mpr alone] at found
            rw [if_pos followed, inductionHypothesis, found, Option.some_or]
      · have elsewhere (others : List (α × β)) :
            ((name, value) :: others).lookup key = others.lookup key := by
          rw [List.lookup_cons, beq_false_of_ne here]
        rw [elsewhere, List.lookup_nil, Option.or_none, ← inductionHypothesis]
        split
        · rfl
        · exact elsewhere _

private theorem lookup_eq_of_perm {α β : Type} [DecidableEq α] {items others : List (α × β)}
    (same : items.Perm others) (once : (items.map Prod.fst).Nodup) (key : α) :
    items.lookup key = others.lookup key := by
  induction same with
  | nil => rfl
  | cons item _ inductionHypothesis =>
      rw [List.map_cons, List.nodup_cons] at once
      rw [List.lookup_cons, List.lookup_cons, inductionHypothesis once.2]
  | swap item other rest =>
      obtain ⟨name, value⟩ := item
      obtain ⟨otherName, otherValue⟩ := other
      have apart : otherName ≠ name := by
        rw [List.map_cons, List.nodup_cons] at once
        exact fun equal => once.1 (by simp [equal])
      by_cases here : key = otherName
      · subst here
        simp [List.lookup_cons, beq_false_of_ne apart]
      · simp [List.lookup_cons, beq_false_of_ne here]
  | trans first _ firstHypothesis secondHypothesis =>
      rw [firstHypothesis once, secondHypothesis ((first.map Prod.fst).nodup_iff.mp once)]

private theorem assign_of_perm (value : Setting → Entry) {assigned gone : List (Setting × Scalar)}
    (same : gone.Perm (latestBy Prod.fst assigned)) :
    assign value gone = assign value assigned := by
  funext setting
  have once := nodup_latestBy Prod.fst assigned
  have lookups := lookup_eq_of_perm ((List.reverse_perm gone).trans same)
    ((((List.reverse_perm gone).trans same).map Prod.fst).nodup_iff.mpr once) setting
  rw [assign, assign, lookups, lookup_latestBy]

theorem Holds.addArranged {settings : Entry} {value : Setting → Entry} (held : Holds settings value)
    (order : HashOrder) (assigned : List (Setting × Scalar)) :
    ∃ after, (order.overrides (latestBy Override.path (assigned.map toOverride))).foldlM
        Settings.addOverride settings = .ok after ∧ Holds after (assign value assigned) := by
  rw [latestBy_map_toOverride]
  have perm := order.overrides_perm ((latestBy Prod.fst assigned).map toOverride)
  obtain ⟨gone, isGone⟩ : ∃ gone : List (Setting × Scalar), gone.map toOverride =
      order.overrides ((latestBy Prod.fst assigned).map toOverride) := by
    rw [← Set.mem_range, Set.range_list_map]
    intro override member
    obtain ⟨assignment, _, same⟩ := List.mem_map.mp (perm.mem_iff.mp member)
    exact ⟨assignment, same⟩
  rw [← isGone] at perm ⊢
  rw [← assign_of_perm value ((List.map_perm_map_iff toOverride_injective).mp perm)]
  exact held.addOverrides gone

/-! ### What settings come to -/

/-- A file that gives no setting twice gives each one the same value, whichever way its tables are
gone through. -/
theorem valuesIn_arranged (order : HashOrder) (setting : Setting)
    {fields gone : List (String × Entry)}
    (same : gone.Perm (fields.map (Entry.arrangedField order.fields)))
    (once : (setting.valuesIn fields).length ≤ 1) :
    setting.valuesIn gone = (setting.valuesIn fields).map (Entry.arranged order.fields) := by
  have perm := setting.valuesIn_perm order.fields_perm same
  rcases values : setting.valuesIn fields with _ | ⟨value, _ | ⟨next, more⟩⟩
  · rw [values] at perm
    exact perm.eq_nil
  · rw [values] at perm
    exact List.perm_singleton.mp perm
  · rw [values] at once
    simp at once

private theorem flatMap_valuesIn_arranged (order : HashOrder) (setting : Setting)
    {contents arranged : List (List (String × Entry))}
    (same : List.Forall₂
      (fun gone fields => gone.Perm (fields.map (Entry.arrangedField order.fields)))
      arranged contents)
    (once : ∀ fields ∈ contents, (setting.valuesIn fields).length ≤ 1) :
    arranged.flatMap setting.valuesIn =
      (contents.flatMap setting.valuesIn).map (Entry.arranged order.fields) := by
  induction same with
  | nil => rfl
  | @cons gone fields _ _ perm _ inductionHypothesis =>
      rw [List.forall_mem_cons] at once
      rw [List.flatMap_cons, List.flatMap_cons, List.map_append,
        valuesIn_arranged order setting perm once.1, inductionHypothesis once.2]

private theorem sections_arranged (order : HashOrder)
    {contents arranged : List (List (String × Entry))}
    (same : List.Forall₂
      (fun gone fields => gone.Perm (fields.map (Entry.arrangedField order.fields)))
      arranged contents)
    (sections : ∀ fields ∈ contents, ∀ setting : Setting,
      (Entry.given setting.sectionName fields).all Entry.isTable) (setting : Setting) :
    (Entry.given setting.sectionName arranged.flatten).all Entry.isTable := by
  induction same with
  | nil => rfl
  | @cons gone fields _ _ perm _ inductionHypothesis =>
      rw [List.forall_mem_cons] at sections
      have given := Entry.given_perm setting.sectionName perm
      rw [Entry.given_map_arrangedField] at given
      rw [List.flatten_cons, Entry.given, List.filterMap_append, List.all_append, Bool.and_eq_true]
      refine ⟨List.all_eq_true.mpr fun entry member => ?_, inductionHypothesis sections.2⟩
      obtain ⟨written, isGiven, rfl⟩ := List.mem_map.mp (given.mem_iff.mp member)
      rw [Entry.isTable_arranged]
      exact List.all_eq_true.mp (sections.1 setting) written isGiven

/-- Settings depend on nothing but, for each of them, its last override, or else what the values in
the files leave of the built-in one: the latest of them that is no table, and the tables after it,
merged. It does not matter what else files say, which files that need not be there are missing, in
which order different settings are overridden, or in which order tables and overrides are gone
through. They come to settings exactly if each of these values can be read, and otherwise to the
error of one that cannot. -/
theorem load_told_by_last_values (order : HashOrder) (files : Files) (layers : List Layer)
    (assigned : List (Setting × Scalar)) {contents : List (List (String × Entry))}
    (read : layers.mapM (Layer.fields? files) = some contents)
    (sections : ∀ fields ∈ contents, ∀ setting : Setting,
      (Entry.given setting.sectionName fields).all Entry.isTable)
    (once : ∀ fields ∈ contents, ∀ setting : Setting, (setting.valuesIn fields).length ≤ 1) :
    let value := assign (fun setting =>
      heldAfter setting.builtIn (contents.flatMap setting.valuesIn).reverse) assigned
    ∃ overrides,
      assigned.mapM (fun (setting, scalar) => override setting.key scalar) = .ok overrides ∧
        (∀ settings, load files layers overrides order = .ok settings ↔
          ∀ setting : Setting, setting.Fits settings (value setting)) ∧
        ∀ error, load files layers overrides order = .error error →
          ∃ setting : Setting, setting.Refuses error (value setting) := by
  intro value
  obtain ⟨arranged, readArranged, perms⟩ := exists_arrangedFields order read
  have layered := holds_defaults.putFields arranged.flatten (sections_arranged order perms sections)
  obtain ⟨after, added, held⟩ := layered.addArranged order assigned
  have loaded : load files layers (assigned.map toOverride) order = ofEntry order after := by
    rw [load, effective, foldlM_addLayer order readArranged]
    exact congrArg (· >>= ofEntry order) added
  have alike (setting : Setting) : (assign (fun setting => heldAfter setting.builtIn
      (setting.valuesIn arranged.flatten).reverse) assigned setting).Alike (value setting) := by
    apply alike_assign
    intro setting
    rw [Setting.valuesIn_flatten, flatMap_valuesIn_arranged order setting perms
      (fun fields isContent => once fields isContent setting), ← List.map_reverse]
    apply alike_heldAfter order.fields_perm
    cases setting <;> exact .scalar _ _
  obtain ⟨succeeds, fails⟩ := ofEntry_of_holds order held
  refine ⟨_, mapM_override assigned, ?_, ?_⟩
  · intro settings
    rw [loaded, succeeds]
    exact forall_congr' (fun setting => setting.fits_iff_of_alike settings (alike setting))
  · intro error failed
    rw [loaded] at failed
    obtain ⟨setting, refuses⟩ := fails error failed
    exact ⟨setting, (setting.refuses_iff_of_alike error (alike setting)).mp refuses⟩

def HashOrder.backwards : HashOrder :=
  ⟨List.reverse, List.reverse, List.reverse_perm, List.reverse_perm⟩

def sampleFiles : Files
  | "wrong" => some "a.b = 1\noutput.format = 3".toList
  | "plain" => some "output.format.pretty = 1".toList
  | "machine" => some "output.format.json = 1".toList
  | "path" => some "\"output.format\" = \"json\"".toList
  | "place" => some "\"output.format[0]\" = 1".toList
  | "twice" => some "output.format = \"pretty\"\n\"output.format\" = \"json\"".toList
  | "lists" => some "tokenizer.file_id = []\ntokenizer.snippet_radius = []".toList
  | _ => none

def formatTable (format : String) : List (String × Toml.Item) :=
  [("output", .table [("format", .table [(format, .integer 1)])])]

theorem valuesIn_formatTable (setting : Setting) (file : Option String) (format : String) :
    setting.valuesIn (Entry.ofFields file (formatTable format)) =
      if Setting.format = setting then [.table file [(format, .scalar file (.integer 1))]]
      else [] :=
  Setting.valuesIn_path .format setting file _

/-- An unknown key, a file that is not there, and values of the wrong type that a later file or
override replaces leave no trace, with hash maps gone through backwards. -/
theorem sample_load_after_wrong_values :
    ∃ overrides,
      [(Setting.snippetRadius, Scalar.text "many"), (.snippetRadius, .integer 5)].mapM
        (fun (setting, scalar) => override setting.key scalar) = .ok overrides ∧
      load sampleFiles [⟨"wrong", true⟩, ⟨"absent", false⟩, ⟨"machine", true⟩] overrides
          .backwards =
        .ok { tokenizer := { fileId := ".", snippetRadius := 5 }, format := .json,
              showTokens := false } := by
  have wrong : Layer.fields? sampleFiles ⟨"wrong", true⟩ = some
      [("a", .table (some "wrong") [("b", .scalar (some "wrong") (.integer 1))]),
       ("output", .table (some "wrong") [("format", .scalar (some "wrong") (.integer 3))])] := by
    have found : findFile sampleFiles "wrong" =
        some ("wrong", "a.b = 1\noutput.format = 3".toList) := by decide +kernel
    rw [Layer.fields?, found]
    cbv
  have absent : Layer.fields? sampleFiles ⟨"absent", false⟩ = some [] := by
    have missing : findFile sampleFiles "absent" = none := by decide +kernel
    rw [Layer.fields?, missing]
    rfl
  have machine : Layer.fields? sampleFiles ⟨"machine", true⟩ =
      some (Entry.ofFields (some "machine") (formatTable "json")) := by
    have found : findFile sampleFiles "machine" =
        some ("machine", "output.format.json = 1".toList) := by decide +kernel
    rw [Layer.fields?, found]
    cbv
  have read : [⟨"wrong", true⟩, ⟨"absent", false⟩, ⟨"machine", true⟩].mapM
      (Layer.fields? sampleFiles) = some
        [[("a", .table (some "wrong") [("b", .scalar (some "wrong") (.integer 1))]),
          ("output", .table (some "wrong") [("format", .scalar (some "wrong") (.integer 3))])],
         [], Entry.ofFields (some "machine") (formatTable "json")] := by
    simp only [List.mapM_cons, List.mapM_nil, wrong, absent, machine]
    rfl
  obtain ⟨overrides, made, loaded, _⟩ := load_told_by_last_values .backwards sampleFiles _
    [(Setting.snippetRadius, Scalar.text "many"), (.snippetRadius, .integer 5)] read (by
      simp only [List.forall_mem_cons]
      exact ⟨fun _ => Entry.all_isTable_given _ rfl, fun _ => rfl,
        fun _ => Entry.all_isTable_given _ rfl, by simp⟩) (by
      simp only [List.forall_mem_cons]
      refine ⟨fun setting => ?_, fun _ => Nat.zero_le 1, fun setting => ?_, by simp⟩
      · cases setting <;> decide +kernel
      · cases setting <;> decide +kernel)
  refine ⟨overrides, made, (loaded _).mpr fun setting => ?_⟩
  cases setting <;> rfl

/-- The last value that files give a setting does not settle it alone. Two tables for the format are
merged, which is then no format, though the later one is. A key of a file that is a path leads to a
setting, or into a list that takes its place, though no table gives the setting a value. Which of
two keys for one setting counts, and which of two lists is complained about, depends on the order in
which tables are gone through. -/
theorem sample_load_by_more_than_last_values :
    ((sampleFiles "plain").bind Toml.parse? = some (formatTable "pretty") ∧
      (sampleFiles "machine").bind Toml.parse? = some (formatTable "json") ∧
      (∀ setting : Setting,
        (setting.valuesIn (Entry.ofFields (some "plain") (formatTable "pretty")) ++
          setting.valuesIn (Entry.ofFields (some "machine") (formatTable "json"))).getLast? =
            (setting.valuesIn (Entry.ofFields (some "machine") (formatTable "json"))).getLast?) ∧
      load sampleFiles [⟨"machine", true⟩] [] =
        .ok { tokenizer := { fileId := ".", snippetRadius := 20 }, format := .json,
              showTokens := false } ∧
      load sampleFiles [⟨"plain", true⟩, ⟨"machine", true⟩] [] = .error (.malformed
        ("value of enum OutputFormat should be represented by either string or table with " ++
          "exactly one key"))) ∧
    ((sampleFiles "path").bind Toml.parse? = some [("output.format", .text "json")] ∧
      (sampleFiles "place").bind Toml.parse? = some [("output.format[0]", .integer 1)] ∧
      (∀ setting : Setting,
        setting.valuesIn (Entry.ofFields (some "path") [("output.format", .text "json")]) = [] ∧
        setting.valuesIn (Entry.ofFields (some "place") [("output.format[0]", .integer 1)]) = []) ∧
      load sampleFiles [] [] =
        .ok { tokenizer := { fileId := ".", snippetRadius := 20 }, format := .pretty,
              showTokens := false } ∧
      load sampleFiles [⟨"path", true⟩] [] =
        .ok { tokenizer := { fileId := ".", snippetRadius := 20 }, format := .json,
              showTokens := false } ∧
      load sampleFiles [⟨"place", true⟩] [] = .error (.malformed
        ("value of enum OutputFormat should be represented by either string or table with " ++
          "exactly one key"))) ∧
    (load sampleFiles [⟨"twice", true⟩] [] =
        .ok { tokenizer := { fileId := ".", snippetRadius := 20 }, format := .json,
              showTokens := false } ∧
      load sampleFiles [⟨"twice", true⟩] [] .backwards =
        .ok { tokenizer := { fileId := ".", snippetRadius := 20 }, format := .pretty,
              showTokens := false }) ∧
    load sampleFiles [⟨"lists", true⟩] [] =
        .error (.wrongType "sequence" "a string" "tokenizer.file_id" (some "lists")) ∧
      load sampleFiles [⟨"lists", true⟩] [] .backwards =
        .error (.wrongType "sequence" "an integer" "tokenizer.snippet_radius" (some "lists")) := by
  have lowerPath : Text.lowerCaseString "output.format" = "output.format" := by decide +kernel
  have lowerPlace : Text.lowerCaseString "output.format[0]" = "output.format[0]" := by
    decide +kernel
  refine ⟨⟨by cbv, by cbv, fun setting => ?_, by decide +kernel, by decide +kernel⟩,
    ⟨by cbv, by cbv, fun setting => ⟨?_, ?_⟩, by decide +kernel, by decide +kernel,
      by decide +kernel⟩,
    ⟨by decide +kernel, by decide +kernel⟩, by decide +kernel, by decide +kernel⟩
  · rw [valuesIn_formatTable, valuesIn_formatTable]
    cases setting <;> rfl
  · exact Setting.valuesIn_of_ne _ (by rw [lowerPath]; cases setting <;> decide)
  · exact Setting.valuesIn_of_ne _ (by rw [lowerPlace]; cases setting <;> decide)

end TokenGrammar.Settings
