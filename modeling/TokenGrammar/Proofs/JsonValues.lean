import TokenGrammar.Proofs.JsonReading

set_option autoImplicit false

/-! Values as JSON texts. A value without floats is written as a text that denotes one tree, and the
value can be read back from that tree: the kinds of values are written as different kinds of trees,
and only tokens are written as objects. -/

namespace TokenGrammar

/-! ### Reading values -/

namespace Json

def asText? : Json → Option String
  | text value => some value
  | _ => none

def asNatural? : Json → Option Nat
  | integer value => value.toNat?
  | _ => none

def fields : Json → List (String × Json)
  | object fields => fields
  | _ => []

def field? (tree : Json) (name : String) : Option Json :=
  tree.fields.lookup name

end Json

def Span.ofJson? (tree : Json) : Option Span := do
  let start ← (← tree.field? "start").asNatural?
  let stop ← (← tree.field? "end").asNatural?
  let file ← (← tree.field? "file").asText?
  return { start, stop, file }

def Token.ofJson? (tree : Json) : Option Token := do
  let kind ← TokenKind.ofLabel? (← (← tree.field? "kind").asText?)
  let text ← (← tree.field? "text").asText?
  let span ← Span.ofJson? (← tree.field? "span")
  return { kind, text, span }

namespace Value

mutual

/-- The value that a tree stands for. Integers must be in range, and objects must be tokens. -/
def ofJson? : Json → Option Value
  | .null => some .null
  | .boolean value => some (.boolean value)
  | .integer value =>
      if (Int64.ofInt value).toInt = value then some (.integer (Int64.ofInt value)) else none
  | .decimal _ => none
  | .text value => some (.text value)
  | .array items => (ofJsons? items).map .list
  | .object fields => (Token.ofJson? (.object fields)).map .token

def ofJsons? : List Json → Option (List Value)
  | [] => some []
  | item :: later => do
      let value ← ofJson? item
      let values ← ofJsons? later
      return value :: values

end

def ofJsonText? (text : List Char) : Option Value := do
  ofJson? (← Json.read? text)

inductive FloatFree : Value → Prop
  | null : FloatFree .null
  | boolean (value : Bool) : FloatFree (.boolean value)
  | integer (value : Int64) : FloatFree (.integer value)
  | text (value : String) : FloatFree (.text value)
  | token (value : Token) : FloatFree (.token value)
  | list {items : List Value} (inside : ∀ item ∈ items, FloatFree item) : FloatFree (.list items)

end Value

/-! ### Reading back what is written -/

theorem TokenKind.ofLabel?_label (kind : TokenKind) : ofLabel? kind.label = some kind := by
  cases kind <;> decide

theorem Span.ofJson?_toJson (span : Span) : Span.ofJson? span.toJson = some span := by
  have start? : span.toJson.field? "start" = some (.integer span.start) := rfl
  have stop? : span.toJson.field? "end" = some (.integer span.stop) := rfl
  have file? : span.toJson.field? "file" = some (.text span.file) := rfl
  rw [Span.ofJson?, start?, stop?, file?]
  rfl

theorem Token.ofJson?_toJson (token : Token) : Token.ofJson? token.toJson = some token := by
  have kind? : token.toJson.field? "kind" = some (.text token.kind.label) := rfl
  have text? : token.toJson.field? "text" = some (.text token.text) := rfl
  have span? : token.toJson.field? "span" = some token.span.toJson := rfl
  rw [Token.ofJson?, kind?, text?, span?]
  simp only [Json.asText?, Option.bind_eq_bind, Option.bind_some, TokenKind.ofLabel?_label,
    Span.ofJson?_toJson]
  rfl

theorem Span.integral_toJson (span : Span) : span.toJson.Integral := by
  apply Json.Integral.object
  intro field member
  simp only [List.mem_cons, List.not_mem_nil, or_false] at member
  rcases member with rfl | rfl | rfl
  · exact .integer span.start
  · exact .integer span.stop
  · exact .text span.file

theorem Token.integral_toJson (token : Token) : token.toJson.Integral := by
  apply Json.Integral.object
  intro field member
  simp only [List.mem_cons, List.not_mem_nil, or_false] at member
  rcases member with rfl | rfl | rfl
  · exact .text token.kind.label
  · exact .text token.text
  · exact token.span.integral_toJson

namespace Value

theorem toJsons_eq_map (items : List Value) : toJsons items = items.map toJson := by
  induction items with
  | nil => rfl
  | cons item later inductionHypothesis => rw [toJsons, inductionHypothesis, List.map_cons]

private theorem ofJsons?_toJsons (items : List Value)
    (readBack : ∀ item ∈ items, ofJson? item.toJson = some item) :
    ofJsons? (toJsons items) = some items := by
  induction items with
  | nil => rfl
  | cons item later inductionHypothesis =>
      have laterBack := inductionHypothesis
        (fun other member => readBack other (List.mem_cons_of_mem item member))
      rw [toJsons, ofJsons?, readBack item List.mem_cons_self, laterBack]
      rfl

theorem ofJson?_toJson {value : Value} (floatFree : value.FloatFree) :
    ofJson? value.toJson = some value := by
  induction floatFree with
  | null | boolean | text => rfl
  | integer value =>
      rw [toJson, ofJson?, Int64.ofInt_toInt]
      exact if_pos rfl
  | token value =>
      have back := value.ofJson?_toJson
      unfold Token.toJson at back
      rw [toJson, Token.toJson, ofJson?, back]
      rfl
  | list _ inductionHypothesis =>
      rw [toJson, ofJson?, ofJsons?_toJsons _ inductionHypothesis]
      rfl

theorem integral_toJson {value : Value} (floatFree : value.FloatFree) : value.toJson.Integral := by
  induction floatFree with
  | null => exact .null
  | boolean value => exact .boolean value
  | integer value => exact .integer value.toInt
  | text value => exact .text value
  | token value => exact value.integral_toJson
  | list _ inductionHypothesis =>
      rw [toJson, toJsons_eq_map]
      apply Json.Integral.array
      intro tree member
      obtain ⟨item, inItems, rfl⟩ := List.mem_map.mp member
      exact inductionHypothesis item inItems

theorem denotes_jsonText {value : Value} (floatFree : value.FloatFree) :
    Json.Denotes value.jsonText value.toJson :=
  Json.denotes_compactText (integral_toJson floatFree)

theorem ofJsonText?_jsonText {value : Value} (floatFree : value.FloatFree) :
    ofJsonText? value.jsonText = some value := by
  rw [ofJsonText?, Json.read?_of_denotes (denotes_jsonText floatFree)]
  exact ofJson?_toJson floatFree

/-- Writing a value without floats as JSON loses nothing. The text is well formed and denotes only
one tree, reading it gives the value back, and no other such value has the same text. -/
theorem jsonText_lossless (value : Value) (floatFree : value.FloatFree) :
    (∃! tree, Json.Denotes value.jsonText tree) ∧ ofJsonText? value.jsonText = some value ∧
      ∀ other : Value, other.FloatFree → other.jsonText = value.jsonText → other = value := by
  constructor
  · exact ⟨value.toJson, denotes_jsonText floatFree,
      fun tree denotes => Json.denotes_unique denotes (denotes_jsonText floatFree)⟩
  constructor
  · exact ofJsonText?_jsonText floatFree
  · intro other otherFree same
    have otherBack := ofJsonText?_jsonText otherFree
    rw [same, ofJsonText?_jsonText floatFree] at otherBack
    exact (Option.some.inj otherBack).symm

/-- Control characters, quotes and backslashes in a text, beside a list in a list and a token whose
span ends before it starts. -/
theorem escapes_and_token_read_back :
    let value := Value.list [.list [.null, .integer (-5)], .text "\x01\"\\é\n",
      .token ⟨.string, "a\tb", ⟨6, 2, "f"⟩⟩]
    value.FloatFree ∧
      value.jsonText =
        ("[[null,-5],\"\\u0001\\\"\\\\é\\n\",\x7b\"kind\":\"string\",\"text\":\"a\\tb\"," ++
          "\"span\":\x7b\"start\":6,\"end\":2,\"file\":\"f\"\x7d\x7d]").toList ∧
      (∃! tree, Json.Denotes value.jsonText tree) ∧ ofJsonText? value.jsonText = some value ∧
      ∀ other : Value, other.FloatFree → other.jsonText = value.jsonText → other = value := by
  intro value
  have inner : (Value.list [.null, .integer (-5)]).FloatFree := by
    apply FloatFree.list
    intro item member
    simp only [List.mem_cons, List.not_mem_nil, or_false] at member
    rcases member with rfl | rfl
    · exact .null
    · exact .integer _
  have floatFree : value.FloatFree := by
    apply FloatFree.list
    intro item member
    simp only [List.mem_cons, List.not_mem_nil, or_false] at member
    rcases member with rfl | rfl | rfl
    · exact inner
    · exact .text _
    · exact .token _
  exact ⟨floatFree, by decide +kernel, jsonText_lossless value floatFree⟩

end Value

end TokenGrammar
