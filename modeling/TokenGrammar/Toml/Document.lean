import TokenGrammar.Toml.Number

set_option autoImplicit false

/-! TOML documents: values, tables, and the rules against saying a thing twice. A table opened by
a header may be opened only once; a table that a key with points has opened may be extended only
by such keys; a value may not be extended at all. -/

namespace TokenGrammar.Toml

/-! ### Tables under construction -/

inductive Node where
  | value (item : Item)
  | table (implicit dotted : Bool) (entries : List (String × Node))
  | tables (elements : List (List (String × Node)))

abbrev Entries := List (String × Node)

def Entries.replace (key : String) (node : Node) : Entries → Entries
  | [] => []
  | (other, old) :: later =>
      if other = key then (other, node) :: later else (other, old) :: Entries.replace key node later

/-- Changes the table that a path leads to, opening tables on the way. `byKey` says whether a key
with points or a header names the path; `dotted` says how the table it starts from was opened. A
path leads through the last of several tables under one name, and never through a value; a key
does not lead into a table that a header has opened. -/
def changeTable (byKey : Bool) (change : Bool → Entries → Option Entries) :
    List String → Bool → Entries → Option Entries
  | [], dotted, entries => change dotted entries
  | key :: path, _, entries =>
      match entries.lookup key with
      | none => do
          let inner ← changeTable byKey change path byKey []
          return entries ++ [(key, .table true byKey inner)]
      | some (.value _) => none
      | some (.table implicit dotted inner) =>
          if byKey && !implicit then none
          else do
            let changed ← changeTable byKey change path dotted inner
            return Entries.replace key (.table implicit dotted changed) entries
      | some (.tables elements) => do
          let last ← elements.getLast?
          let changed ← changeTable byKey change path false last
          return Entries.replace key (.tables (elements.dropLast ++ [changed])) entries

def assign (key : List String) (item : Item) (entries : Entries) : Option Entries := do
  let last ← key.getLast?
  let path := key.dropLast
  changeTable true (fun dotted table =>
    if dotted == path.isEmpty then none
    else if (table.lookup last).isSome then none
    else some (table ++ [(last, .value item)])) path false entries

/-- Opens a table by a header. It must be new, or known only from tables inside it; either way it
comes to stand last in the table that holds it. -/
def openTable (path : List String) (root : Entries) : Option Entries := do
  let last ← path.getLast?
  changeTable false (fun _ parent =>
    match parent.lookup last with
    | none => some (parent ++ [(last, .table false false [])])
    | some (.table true false inner) =>
        some (parent.filter (fun entry => entry.1 != last) ++ [(last, .table false false inner)])
    | some _ => none) path.dropLast false root

def openElement (path : List String) (root : Entries) : Option Entries := do
  let last ← path.getLast?
  changeTable false (fun _ parent =>
    match parent.lookup last with
    | none => some (parent ++ [(last, .tables [[]])])
    | some (.tables elements) => some (Entries.replace last (.tables (elements ++ [[]])) parent)
    | some _ => none) path.dropLast false root

def assignUnder (header : List String) (key : List String) (item : Item) (root : Entries) :
    Option Entries :=
  changeTable false (fun _ table => assign key item table) header false root

mutual

def Node.item : Node → Item
  | .value item => item
  | .table _ _ entries => .table (finishEntries entries)
  | .tables elements => .array (finishElements elements)

def finishEntries : List (String × Node) → List (String × Item)
  | [] => []
  | (key, node) :: later => (key, node.item) :: finishEntries later

def finishElements : List (List (String × Node)) → List Item
  | [] => []
  | entries :: later => .table (finishEntries entries) :: finishElements later

end

/-! ### Tables that stand for moments -/

def momentKey : String := "$__toml_private_datetime"

def spelledMoment? : Item → Option Item
  | .text value =>
      (wholeMoment? value.toList).map (fun spelling => .moment (String.ofList spelling))
  | _ => none

mutual

/-- An item in which every table that stands for a moment is that moment. The other keys of such a
table do not matter. -/
def Item.resolved? : Item → Option Item
  | .array items => (resolvedItems? items).map .array
  | .table ((key, item) :: later) =>
      if key = momentKey then spelledMoment? item
      else do
        let first ← item.resolved?
        let others ← resolvedEntries? later
        return .table ((key, first) :: others)
  | other => some other

def resolvedItems? : List Item → Option (List Item)
  | [] => some []
  | item :: later => do
      let first ← item.resolved?
      let others ← resolvedItems? later
      return first :: others

def resolvedEntries? : List (String × Item) → Option (List (String × Item))
  | [] => some []
  | (key, item) :: later => do
      let first ← item.resolved?
      let others ← resolvedEntries? later
      return (key, first) :: others

end

/-! ### Values -/

def word? (word : List Char) (item : Item) (source : List Char) : Option (Item × List Char) :=
  if word.isPrefixOf source then some (item, source.drop word.length) else none

/-- The items of an array behind its opening bracket; `read` reads one item, and `count` bounds how
many there are. A comma may follow the last item. -/
def arrayItems? (read : List Char → Option (Item × List Char)) :
    Nat → List Char → Option (List Item × List Char)
  | 0, _ => none
  | count + 1, source =>
      match skipLayout false source with
      | ']' :: rest => some ([], rest)
      | unspaced => do
          let (item, afterItem) ← read unspaced
          match skipLayout false afterItem with
          | ',' :: later => do
              let (items, rest) ← arrayItems? read count later
              return (item :: items, rest)
          | ']' :: rest => return ([item], rest)
          | _ => none

def pair? (read : List Char → Option (Item × List Char)) (source : List Char) :
    Option ((List String × Item) × List Char) := do
  let (key, afterKey) ← key? source
  match afterKey with
  | '=' :: text => do
      let (item, afterItem) ← read (skipBlanks text)
      return ((key, item), skipBlanks afterItem)
  | _ => none

def tablePairs? (read : List Char → Option (Item × List Char)) :
    Nat → Entries → List Char → Option (Entries × List Char)
  | 0, _, _ => none
  | count + 1, entries, source => do
      let ((key, item), afterPair) ← pair? read source
      let extended ← assign key item entries
      match afterPair with
      | ',' :: later => tablePairs? read count extended later
      | '\x7d' :: rest => return (extended, rest)
      | _ => none

def inlineTable? (read : List Char → Option (Item × List Char)) (source : List Char) :
    Option (Item × List Char) :=
  match skipBlanks source with
  | '\x7d' :: rest => some (.table [], rest)
  | _ => do
      let (entries, rest) ← tablePairs? read (source.length + 1) [] source
      return (.table (finishEntries entries), rest)

def value? : Nat → List Char → Option (Item × List Char)
  | depth, source =>
      match source with
      | '"' :: _ => (quoted? source).map (fun (content, rest) => (.text (String.ofList content), rest))
      | '\'' :: _ =>
          (quoted? source).map (fun (content, rest) => (.text (String.ofList content), rest))
      | '[' :: rest =>
          match depth with
          | 0 => none
          | inner + 1 => do
              let (items, after) ← arrayItems? (value? inner) (rest.length + 1) rest
              return (.array items, after)
      | '\x7b' :: rest =>
          match depth with
          | 0 => none
          | inner + 1 => inlineTable? (value? inner) rest
      | 't' :: _ => word? "true".toList (.boolean true) source
      | 'f' :: _ => word? "false".toList (.boolean false) source
      | _ => number? source

def depthLimit : Nat := 79

/-! ### Documents -/

def header? (source : List Char) : Option ((List String × Bool) × List Char) :=
  match source with
  | '[' :: '[' :: text => do
      let (path, afterPath) ← key? text
      match afterPath with
      | ']' :: ']' :: rest => return ((path, true), rest)
      | _ => none
  | '[' :: text => do
      let (path, afterPath) ← key? text
      match afterPath with
      | ']' :: rest => return ((path, false), rest)
      | _ => none
  | _ => none

/-- Reads a document line by line. `lines` bounds how many lines are left, `header` is the path of
the last header, and `root` is what has been read. -/
def lines? : Nat → List String → Entries → List Char → Option Entries
  | 0, _, _, _ => none
  | lines + 1, header, root, source =>
      match skipBlanks source with
      | [] => some root
      | '[' :: text => do
          let ((path, isElement), afterHeader) ← header? ('[' :: text)
          let opened ← if isElement then openElement path root else openTable path root
          lines? lines path opened (← lineTail? afterHeader)
      | character :: text =>
          match lineTail? (character :: text) with
          | some rest => lines? lines header root rest
          | none => do
              let ((key, item), afterPair) ← pair? (value? depthLimit) (character :: text)
              let assigned ← assignUnder header key item root
              lines? lines header assigned (← lineTail? afterPair)

def withoutMark (source : List Char) : List Char :=
  if source.head? = some (Char.ofNat 0xFEFF) then source.drop 1 else source

def parse? (source : List Char) : Option (List (String × Item)) := do
  let text := withoutMark source
  let entries := finishEntries (← lines? (text.length + 1) [] [] text)
  match ← (Item.table entries).resolved? with
  | .table resolved => return resolved
  | _ => none

end TokenGrammar.Toml
