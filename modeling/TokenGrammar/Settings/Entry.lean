import TokenGrammar.Settings.Path
import TokenGrammar.Text.LowerCase
import TokenGrammar.Toml.Document

set_option autoImplicit false

/-! Entries: settings before they are read. They form a tree of tables whose keys are kept in
lower case. Putting a table where there is one merges the two key by key; putting anything else,
or putting an item into a list, replaces what was there. The tables are hash maps, so in which order
their fields are gone through is left to a parameter. -/

namespace TokenGrammar.Settings

inductive Scalar where
  | text (value : String)
  | integer (value : Int)
  | float (value : Float)
  | boolean (value : Bool)

inductive Entry where
  | nothing
  | scalar (origin : Option String) (value : Scalar)
  | list (origin : Option String) (items : List Entry)
  | table (origin : Option String) (fields : List (String × Entry))

namespace Entry

def origin : Entry → Option String
  | nothing => none
  | scalar origin _ => origin
  | list origin _ => origin
  | table origin _ => origin

def empty : Entry := table none []

def asTable : Entry → Option String × List (String × Entry)
  | table origin fields => (origin, fields)
  | _ => (none, [])

def asList : Entry → Option String × List Entry
  | list origin items => (origin, items)
  | _ => (none, [])

mutual

def ofItem (file : Option String) : Toml.Item → Entry
  | .text value => scalar file (.text value)
  | .integer value => scalar file (.integer value)
  | .float value => scalar file (.float value)
  | .boolean value => scalar file (.boolean value)
  | .moment spelling => scalar file (.text spelling)
  | .array items => list file (ofItems file items)
  | .table entries => table file (ofFields file entries)

def ofItems (file : Option String) : List Toml.Item → List Entry
  | [] => []
  | item :: later => ofItem file item :: ofItems file later

def ofFields (file : Option String) : List (String × Toml.Item) → List (String × Entry)
  | [] => []
  | (key, item) :: later => (key, ofItem file item) :: ofFields file later

end

mutual

/-- The entry with the fields of every table in the order in which they are gone through. -/
def arranged (arrange : List (String × Entry) → List (String × Entry)) : Entry → Entry
  | nothing => nothing
  | scalar origin value => scalar origin value
  | list origin items => list origin (arrangedItems arrange items)
  | table origin fields => table origin (arrange (arrangedFields arrange fields))

def arrangedItems (arrange : List (String × Entry) → List (String × Entry)) :
    List Entry → List Entry
  | [] => []
  | item :: later => arranged arrange item :: arrangedItems arrange later

def arrangedFields (arrange : List (String × Entry) → List (String × Entry)) :
    List (String × Entry) → List (String × Entry)
  | [] => []
  | (key, entry) :: later => (key, arranged arrange entry) :: arrangedFields arrange later

end

/-! ### Putting entries into tables -/

def setField (key : String) (entry : Entry) : List (String × Entry) → List (String × Entry)
  | [] => [(key, entry)]
  | (other, old) :: later =>
      if other = key then (key, entry) :: later else (other, old) :: setField key entry later

mutual

def put (existing : Option Entry) : Entry → Entry
  | table _ fields => putFields (existing.getD empty) fields
  | entry => entry

/-- A table after fields are put into it one after the other. Anything but a table is replaced by a
new table as soon as there is a field to put. -/
def putFields (target : Entry) : List (String × Entry) → Entry
  | [] => target
  | (key, entry) :: later =>
      let (origin, fields) := target.asTable
      let name := Text.lowerCaseString key
      putFields (table origin (setField name (put (fields.lookup name) entry) fields)) later

end

/-- The items with a place set; a list that is too short is filled up. -/
def setItem (place : Nat) (entry : Entry) (items : List Entry) : List Entry :=
  (items ++ List.replicate (place + 1 - items.length) nothing).set place entry

def putAt : List Step → Entry → Entry → Except PlaceError Entry
  | [], _, target => .ok target
  | [.field key], entry, target => .ok (putFields target [(key, entry)])
  | .field key :: path, entry, target => do
      let (origin, fields) := target.asTable
      let name := Text.lowerCaseString key
      let changed ← putAt path entry ((fields.lookup name).getD empty)
      return table origin (setField name changed fields)
  | [.item index], entry, target => do
      let (origin, items) := target.asList
      let place ← placeOf items.length index
      return list origin (setItem place entry items)
  | .item index :: path, entry, target => do
      let (origin, items) := target.asList
      let place ← placeOf items.length index
      let changed ← putAt path entry (items[place]?.getD nothing)
      return list origin (setItem place changed items)

/-- A table after the fields of a file are put into it. A key of the file that is a path leads where
the path does. -/
def putFile (target : Entry) (fields : List (String × Entry)) : Except PlaceError Entry :=
  fields.foldlM (fun table (key, entry) =>
    putAt ((Step.path? key).getD [.field key]) entry table) target

end Entry

end TokenGrammar.Settings
