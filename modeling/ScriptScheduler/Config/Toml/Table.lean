import ScriptScheduler.Config.Setting

/-!
# TOML tables under construction

A table is built up as a tree of nodes that remember how they came about: a table that a header
opened is opened only once, keys with dots add only to tables that such keys have made, and a value
is never extended.
-/

namespace ScriptScheduler

namespace Toml

/-! ### Nodes -/

/-- How a table came about. -/
inductive Origin where
  /-- A header named it on the way to another table. -/
  | implicit
  /-- A key with dots named it. -/
  | dotted
  /-- A header opened it. -/
  | header
  deriving DecidableEq

/-- A part of a document. -/
inductive Node where
  | leaf (value : Setting)
  | table (origin : Origin) (members : List (String × Node))
  /-- Tables that are opened one after another under the same header. -/
  | tables (items : List (List (String × Node)))

/-- The members of a table under construction. -/
abbrev Members := List (String × Node)

/-- The members with another node at a key. -/
def setNode (key : String) (node : Node) (members : Members) : Members :=
  if members.any fun member => member.1 = key then
    members.map fun member => if member.1 = key then (key, node) else member
  else members ++ [(key, node)]

/-! ### Values -/

/-- Adds a value at a path of keys. The path may lead through tables that no header has opened, and
through the last one of listed tables, but it has to end in a table that keys with dots have
made. -/
def insertValue? : List String → Setting → Members → Option Members
  | [], _, _ => none
  | [key], value, members =>
    if (lookupMember? key members).isSome then none else some (members ++ [(key, .leaf value)])
  | key :: rest, value, members =>
    let ends : Bool := rest.length = 1
    match lookupMember? key members with
    | none => do
      let inner ← insertValue? rest value []
      some (members ++ [(key, .table .dotted inner)])
    | some (.table origin inner) =>
      if origin = .header || (ends && origin ≠ .dotted) then none
      else do
        let inner ← insertValue? rest value inner
        some (setNode key (.table origin inner) members)
    | some (.tables items) =>
      if ends then none
      else do
        let last ← items.getLast?
        let last ← insertValue? rest value last
        some (setNode key (.tables (items.dropLast ++ [last])) members)
    | some (.leaf _) => none

/-! ### Headers -/

/-- Changes the table at the end of a path of headers with `change`. Tables on the way are made if
they are missing; of a list of tables the last one is meant. -/
def withTable? (change : Members → Option Members) : List String → Members → Option Members
  | [], members => change members
  | key :: rest, members =>
    match lookupMember? key members with
    | none => do
      let inner ← withTable? change rest []
      some (members ++ [(key, .table .implicit inner)])
    | some (.table origin inner) => do
      let inner ← withTable? change rest inner
      some (setNode key (.table origin inner) members)
    | some (.tables items) => do
      let last ← items.getLast?
      let last ← withTable? change rest last
      some (setNode key (.tables (items.dropLast ++ [last])) members)
    | some (.leaf _) => none

/-- Opens the table with a given key. -/
def openTable? (key : String) (members : Members) : Option Members :=
  match lookupMember? key members with
  | none => some (members ++ [(key, .table .header [])])
  | some (.table .implicit inner) => some (setNode key (.table .header inner) members)
  | some _ => none

/-- Adds a table to the list of tables with a given key. -/
def openListed? (key : String) (members : Members) : Option Members :=
  match lookupMember? key members with
  | none => some (members ++ [(key, .tables [[]])])
  | some (.tables items) => some (setNode key (.tables (items ++ [[]])) members)
  | some _ => none

/-! ### Finished tables -/

mutual

/-- The setting that a finished node stands for. -/
def Node.toSetting : Node → Setting
  | .leaf value => value
  | .table _ members => .table (sortMembers (settingsOf members))
  | .tables items => .list (listedSettings items)

/-- The settings of members. -/
def settingsOf : List (String × Node) → List (String × Setting)
  | [] => []
  | (key, node) :: rest => (key, node.toSetting) :: settingsOf rest

/-- The settings of listed tables. -/
def listedSettings : List (List (String × Node)) → List Setting
  | [] => []
  | members :: rest => .table (sortMembers (settingsOf members)) :: listedSettings rest

end

/-- The table that finished members make. -/
def tableOf (members : Members) : Setting := .table (sortMembers (settingsOf members))

end Toml

end ScriptScheduler
