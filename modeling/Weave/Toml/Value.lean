/-! TOML documents as trees. A table remembers how it came about, because that decides whether later
lines may still add to it. -/

namespace Weave.Toml

/-- `written` by a header, only the `parent` of one, made by a `dotted` key, or `inline` in
braces. -/
inductive TableKind where
  | written | parent | dotted | inline
deriving DecidableEq, Repr

namespace TableKind

/-- A table nobody wrote as such: it exists because of a longer name. -/
def isImplicit : TableKind → Bool
  | parent | dotted => true
  | written | inline => false

end TableKind

inductive Node where
  | string (text : String)
  | integer (value : Int)
  | float
  | boolean (value : Bool)
  | datetime
  | array (items : List Node)
  | table (kind : TableKind) (entries : List (String × Node))
  | tables (items : List Node)

abbrev Entries := List (String × Node)

namespace Node

def items? : Node → Option (List Node)
  | array items | tables items => some items
  | _ => none

end Node

namespace Entries

def find? (entries : Entries) (key : String) : Option Node := entries.lookup key

def put (key : String) (node : Node) : Entries → Entries
  | [] => [(key, node)]
  | (other, old) :: rest =>
    if other = key then (other, node) :: rest else (other, old) :: put key node rest

/-- Goes down a path and changes the table at its end. Missing tables are made on the way. Values
are never entered; a path into an array of tables goes to its last table; a dotted key enters only
tables that nobody wrote as such, and `made` is the kind of the tables that it makes. -/
def descend (made : TableKind) (change : TableKind → Entries → Option Entries) :
    List String → TableKind → Entries → Option Entries
  | [], kind, entries => change kind entries
  | key :: path, _, entries => do
    let enter (node : Node) : Option Node :=
      match node with
      | .table kind inner =>
        if kind = .inline || (made = .dotted && !kind.isImplicit) then none
        else (descend made change path kind inner).map (.table kind)
      | .tables items =>
        match items.reverse with
        | .table kind inner :: earlier =>
          (descend made change path kind inner).map fun inner =>
            .tables (earlier.reverse ++ [.table kind inner])
        | _ => none
      | _ => none
    let node ← enter ((entries.find? key).getD (.table made []))
    pure (entries.put key node)

/-- A key and its value in the table a dotted path leads to. The table must be of the path's own
making, and the key new. -/
def assign (path : List String) (key : String) (value : Node) (kind : TableKind)
    (entries : Entries) : Option Entries :=
  descend .dotted (fun kind entries =>
    if (kind = .dotted) = (path = []) then none
    else if (entries.find? key).isSome then none
    else some (entries ++ [(key, value)])) path kind entries

def openTable (path : List String) (key : String) (entries : Entries) : Option Entries :=
  descend .parent (fun _ entries =>
    match entries.find? key with
    | none => some (entries ++ [(key, .table .written [])])
    | some (.table .parent inner) => some (entries.put key (.table .written inner))
    | some _ => none) path .written entries

def openElement (path : List String) (key : String) (entries : Entries) : Option Entries :=
  descend .parent (fun _ entries =>
    match entries.find? key with
    | none => some (entries ++ [(key, .tables [.table .written []])])
    | some (.tables items) => some (entries.put key (.tables (items ++ [.table .written []])))
    | some _ => none) path .written entries

def inTable (change : TableKind → Entries → Option Entries) (path : List String)
    (entries : Entries) : Option Entries :=
  descend .parent change path .written entries

end Entries

end Weave.Toml
