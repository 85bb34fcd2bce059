import ProgramGuide.Json.Value
import ProgramGuide.Toml.Scalar

/-!
# TOML tables

A table remembers what brought it about, for that decides how it may still grow: a
table with a header of its own is defined once, one that dotted keys made grows by such
keys, and an inline table is complete.
-/

namespace ProgramGuide

inductive Toml.Origin where
  | header
  | passage
  | dotted
  | inline
  deriving DecidableEq, Repr

inductive Toml where
  | scalar (s : Toml.Scalar)
  | string (s : String)
  | array (items : List Toml)
  | table (origin : Toml.Origin) (members : List (String × Toml))
  /-- The tables of one repeated header, latest first. -/
  | tables (elements : List (List (String × Toml)))
  deriving Repr

namespace Toml

abbrev Members := List (String × Toml)

def put (key : String) (value : Toml) : Members → Members
  | [] => [(key, value)]
  | (k, v) :: rest => if k == key then (k, value) :: rest else (k, v) :: put key value rest

/-- Changes the table that a path leads to, which is told where it comes from.  Tables
that are not there yet are made on the way, and a repeated header leads to its latest
table.  Dotted keys do not pass through tables with a header of their own. -/
def within (dotted : Bool) (change : Origin → Members → Option Members) :
    List String → Origin → Members → Option Members
  | [], origin, members => change origin members
  | key :: path, _, members =>
      match members.lookup key with
      | none =>
          let origin := if dotted then .dotted else .passage
          (within dotted change path origin []).map fun inner =>
            put key (.table origin inner) members
      | some (.table origin inner) =>
          if origin == .inline || (dotted && origin == .header) then none
          else
            (within dotted change path origin inner).map fun inner =>
              put key (.table origin inner) members
      | some (.tables (latest :: earlier)) =>
          (within dotted change path .header latest).map fun latest =>
            put key (.tables (latest :: earlier)) members
      | some _ => none

/-- Adds a value at a dotted key.  Only dotted keys add to a table that they have made,
and a longer one adds to no other. -/
def assign (value : Toml) (path : List String) (key : String) (members : Members) :
    Option Members :=
  within true
    (fun origin members =>
      if (origin == .dotted) == path.isEmpty || (members.lookup key).isSome then none
      else some (put key value members))
    path .header members

def held? (path : List String) (key : String) (members : Members) : Option Members :=
  match path with
  | [] =>
      match members.lookup key with
      | none => some []
      | some (.table .passage inner) => some inner
      | some _ => none
  | first :: path =>
      match members.lookup first with
      | none => some []
      | some (.table .inline _) => none
      | some (.table _ inner) => held? path key inner
      | some (.tables (latest :: _)) => held? path key latest
      | some _ => none

def placeTable (path : List String) (key : String) (table members : Members) :
    Option Members :=
  within false (fun _ members => some (put key (.table .header table) members)) path .header
    members

def placeElement (path : List String) (key : String) (table members : Members) :
    Option Members :=
  within false
    (fun _ members =>
      match members.lookup key with
      | none => some (put key (.tables [table]) members)
      | some (.tables elements) => some (put key (.tables (table :: elements)) members)
      | some _ => none)
    path .header members

/-! ## As JSON -/

/-- A date or time is a record of none of the known fields, and a float a number that
is no integer. -/
def Scalar.toJson : Scalar → Json
  | .integer n => Json.integer n
  | .float => .number (.real Binary64.nan)
  | .boolean b => .bool b
  | .datetime => .object [("datetime", .null)]
  | .beyond => .unreadable

mutual

def toJson : Toml → Json
  | .scalar s => s.toJson
  | .string s => .string s
  | .array items => .array (itemsToJson items)
  | .table _ members => .object (membersToJson [] members)
  | .tables elements => .array (elementsToJson [] elements)

def itemsToJson : List Toml → List Json
  | [] => []
  | t :: rest => toJson t :: itemsToJson rest

def membersToJson (sorted : List (String × Json)) : Members → List (String × Json)
  | [] => sorted
  | (k, v) :: rest => membersToJson (Json.putMember k (toJson v) sorted) rest

def elementsToJson (later : List Json) : List Members → List Json
  | [] => later
  | members :: rest => elementsToJson (.object (membersToJson [] members) :: later) rest

end

end Toml

end ProgramGuide
