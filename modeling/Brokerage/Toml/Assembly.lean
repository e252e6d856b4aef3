import Brokerage.Json.Basic
import Brokerage.Table
import Brokerage.Toml.Basic

/-!
Putting a document together from its headings and assignments. A name is given a value once, a table
has one heading, and a table made by dotted keys is open to dotted keys only; an element of a
list of tables is closed by the next. Names keep the order in which they were first mentioned,
except that a heading moves its table behind the others.
-/

set_option autoImplicit false

namespace Brokerage.Toml

/-- How a table came to be: by its own heading, on the way to another one, or by dotted keys. -/
inductive Origin where
  | headed
  | implied
  | dotted
  deriving DecidableEq

/-- What a name stands for in an unfinished document. Of a list of tables only the last element
can still change. -/
inductive Node where
  | value (content : Json)
  | table (origin : Origin) (entries : List (String × Node))
  | tables (closed : List Json) (last : List (String × Node))

abbrev Entries := Table String Node

mutual

def Node.toJson : Node → Json
  | .value content => content
  | .table _ entries => .object (membersOf entries)
  | .tables closed last => .list (closed ++ [.object (membersOf last)])

/-- The members of a table, in the order of its entries. -/
def membersOf : List (String × Node) → Members
  | [] => []
  | (name, node) :: rest => (name, node.toJson) :: membersOf rest

end

/-- A change to the entries of a table, which may depend on how the table came to be. -/
abbrev Change := Origin → Entries → Except Malformation Entries

/-- Carries out a change in the table that a path leads to from a table of the given origin. Tables
that are missing on the way are `made` in one manner, and those made by a heading are closed to
dotted keys. -/
def within (made : Origin) (change : Change) : (path : List String) → Change
  | [], origin, entries => change origin entries
  | name :: path, _, entries =>
    match entries.get? name with
    | none =>
      match within made change path made [] with
      | .error problem => .error problem
      | .ok inner => .ok (entries.put name (.table made inner))
    | some (.value _) => .error (.notTable name)
    | some (.table origin inner) =>
      if made = .dotted && origin = .headed then .error (.definedTwice name)
      else
        match within made change path origin inner with
        | .error problem => .error problem
        | .ok changed => .ok (entries.put name (.table origin changed))
    | some (.tables closed last) =>
      match within made change path .headed last with
      | .error problem => .error problem
      | .ok changed => .ok (entries.put name (.tables closed changed))

/-- Gives a name a value. At the end of a dotted key the table has to be one made by dotted keys. -/
def setNew (isDotted : Bool) (name : String) (content : Json) : Change := fun origin entries ↦
  if isDotted != (origin = .dotted : Bool) then .error (.definedTwice name)
  else if entries.contains name then .error (.definedTwice name)
  else .ok (entries.put name (.value content))

/-- A key of one or several parts. -/
structure Key where
  path : List String := []
  name : String
  deriving DecidableEq

def Key.assign (key : Key) (content : Json) : Change :=
  within .dotted (setNew (!key.path.isEmpty) key.name content) key.path

/-- Begins a table under a heading. It may have been implied by another. -/
def beginTable (name : String) : Change := fun _ entries ↦
  match entries.get? name with
  | none => .ok (entries.put name (.table .headed []))
  | some (.table .implied inner) => .ok ((entries.remove name).put name (.table .headed inner))
  | some _ => .error (.definedTwice name)

/-- Begins the next element of a list of tables. -/
def beginElement (name : String) : Change := fun _ entries ↦
  match entries.get? name with
  | none => .ok (entries.put name (.tables [] []))
  | some (.tables closed last) =>
    .ok (entries.put name (.tables (closed ++ [.object (membersOf last)]) []))
  | some _ => .error (.definedTwice name)

/-- The table of the assignments between braces. -/
def inlineTable : Entries → List (Key × Json) → Except Malformation Json
  | entries, [] => .ok (.object (membersOf entries))
  | entries, (key, content) :: rest =>
    match key.assign content .headed entries with
    | .error problem => .error problem
    | .ok changed => inlineTable changed rest

/-- What a line of a document says. -/
inductive Statement where
  | assignment (key : Key) (content : Json)
  | tableHeading (key : Key)
  | elementHeading (key : Key)

/-- A document up to some line, and the path of the heading above it. -/
structure Draft where
  entries : Entries := []
  heading : List String := []

def Draft.toJson (draft : Draft) : Json :=
  .object (membersOf draft.entries)

/-- Carries out a change below a path from the top of the document. -/
def Draft.change (draft : Draft) (path : List String) (change : Change) :
    Except Malformation Entries :=
  within .implied change path .headed draft.entries

def Draft.add (draft : Draft) (statement : Statement) : Except Malformation Draft :=
  match statement with
  | .assignment key content =>
    (draft.change draft.heading (key.assign content)).map fun entries ↦ { draft with entries }
  | .tableHeading key =>
    (draft.change key.path (beginTable key.name)).map fun entries ↦
      ⟨entries, key.path ++ [key.name]⟩
  | .elementHeading key =>
    (draft.change key.path (beginElement key.name)).map fun entries ↦
      ⟨entries, key.path ++ [key.name]⟩

end Brokerage.Toml
