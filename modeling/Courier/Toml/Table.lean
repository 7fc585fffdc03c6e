import Courier.Value.Entries

/-!
# Tables

A document is a list of statements: a header opens a table, or a new one at the
end of a list of tables, and an assignment puts a datum under a key of the
table that is open.  Keys with dots lead through tables that come into being on
the way.

No table may be defined twice.  So a table remembers what made it: its own
header, the header of a table within it, or the dots of a key.  A header may
open a table that so far is only implied by others; the dots of a key lead
through tables that have no header of their own, and a datum goes only into the
open table or into one that dots have made.
-/

namespace Courier.Toml

set_option autoImplicit false

/-- What a key may stand for.  Of a float and of a point in time only the kind is kept. -/
inductive Datum where
  | text (content : String)
  | integer (number : Int)
  | float
  | bool (truth : Bool)
  | moment
  | array (items : List Datum)
  | table (entries : List (String × Datum))

inductive Statement where
  /-- A table is opened. -/
  | header (path : List String)
  /-- A further table of a list is opened. -/
  | element (path : List String)
  | assignment (path : List String) (datum : Datum)

/-! ## Tables under construction -/

/-- What made a table. -/
inductive Origin where
  | header
  /-- The header of a table within it. -/
  | implied
  /-- The dots of a key. -/
  | dotted
deriving DecidableEq

inductive Node where
  | datum (datum : Datum)
  | table (origin : Origin) (entries : List (String × Node))
  | tables (elements : List Node)

abbrev Nodes := List (String × Node)

namespace Nodes

/-- Changes the table at the end of a path.  Tables that are missing on the way come into being; of
a list of tables the last one counts.  The dots of a key do not lead through a table with a header
of its own. -/
def change (dotted : Bool) (act : Origin → Nodes → Option Nodes) :
    List String → Origin → Nodes → Option Nodes
  | [], origin, nodes => act origin nodes
  | key :: path, _, nodes => do
    let child : Node ← match Entries.get? key nodes with
      | none =>
        let origin := if dotted then .dotted else .implied
        Node.table origin <$> change dotted act path origin []
      | some (.datum _) => failure
      | some (.table origin inner) =>
        if dotted && origin = .header then failure
        else Node.table origin <$> change dotted act path origin inner
      | some (.tables elements) =>
        match elements.getLast? with
        | some (.table origin inner) =>
          (fun changed => Node.tables (elements.dropLast ++ [.table origin changed])) <$>
            change dotted act path origin inner
        | _ => failure
    return Entries.insert key child nodes

/-- Changes what a path leads to: the table before its last key, at that key. -/
def changeAt (dotted : Bool) (act : String → Origin → Nodes → Option Nodes) (path : List String)
    (origin : Origin) (nodes : Nodes) : Option Nodes :=
  match path.getLast? with
  | none => none
  | some key => change dotted (act key) path.dropLast origin nodes

/-- Opens a table by a header. -/
def openTable (key : String) (_ : Origin) (nodes : Nodes) : Option Nodes :=
  match Entries.get? key nodes with
  | none => some (Entries.insert key (.table .header []) nodes)
  | some (.table .implied inner) => some (Entries.insert key (.table .header inner) nodes)
  | some _ => none

/-- Opens a further table of a list. -/
def openElement (key : String) (_ : Origin) (nodes : Nodes) : Option Nodes :=
  match Entries.get? key nodes with
  | none => some (Entries.insert key (.tables [.table .header []]) nodes)
  | some (.tables elements) =>
    some (Entries.insert key (.tables (elements ++ [.table .header []])) nodes)
  | some _ => none

/-- Puts a datum under a key.  A table that was not made by dots takes it only if no dots have led
to it. -/
def put (datum : Datum) (reached : Bool) (key : String) (origin : Origin) (nodes : Nodes) :
    Option Nodes :=
  if (origin = .dotted) = reached ∧ (Entries.get? key nodes).isNone then
    some (Entries.insert key (.datum datum) nodes)
  else none

/-- Puts a datum under keys with dots between them. -/
def assign (path : List String) (datum : Datum) (origin : Origin) (nodes : Nodes) :
    Option Nodes :=
  changeAt true (put datum (1 < path.length)) path origin nodes

end Nodes

mutual

/-- The datum that a node has become. -/
def Node.finish : Node → Datum
  | .datum datum => datum
  | .table _ entries => .table (finishEntries entries)
  | .tables elements => .array (finishItems elements)

def finishEntries : List (String × Node) → List (String × Datum)
  | [] => []
  | (key, node) :: rest => (key, node.finish) :: finishEntries rest

def finishItems : List Node → List Datum
  | [] => []
  | node :: rest => node.finish :: finishItems rest

end

/-! ## Whole tables -/

/-- The table of the assignments between braces. -/
def inlineTable (pairs : List (List String × Datum)) : Option Datum := do
  let nodes ← pairs.foldlM (fun nodes pair => Nodes.assign pair.1 pair.2 .header nodes) []
  return .table (finishEntries nodes)

/-- A document under construction, and the path to the table that is open. -/
structure Building where
  nodes : Nodes
  opened : List String

/-- Obeys a statement. -/
def Building.obey (building : Building) : Statement → Option Building
  | .header path => do
    return ⟨← Nodes.changeAt false Nodes.openTable path .header building.nodes, path⟩
  | .element path => do
    return ⟨← Nodes.changeAt false Nodes.openElement path .header building.nodes, path⟩
  | .assignment path datum => do
    let nodes ← Nodes.change false (Nodes.assign path datum) building.opened .header building.nodes
    return { building with nodes }

/-- The entries of the document that consists of some statements. -/
def build (statements : List Statement) : Option (List (String × Datum)) := do
  let building ← statements.foldlM Building.obey ⟨[], []⟩
  return finishEntries building.nodes

end Courier.Toml
