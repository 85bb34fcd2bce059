import ProgramGuide.Json.Value

/-!
# Records from JSON

A record is read from an object, whatever the order of its members and whatever other
members it has, or from an array of its fields in the order of their declaration.  A
field that is left out takes its default; one that is given twice is refused.
-/

namespace ProgramGuide.Json

/-! ## Single values -/

def string? : Json → Option String
  | .string s => some s
  | _ => none

def bool? : Json → Option Bool
  | .bool b => some b
  | _ => none

def signed? (bits : Nat) : Json → Option Int
  | .number (.integer n) =>
      if -Int.pow 2 (bits - 1) ≤ n && n < Int.pow 2 (bits - 1) then some n else none
  | _ => none

def nullable? (decode : Json → Option α) : Json → Option (Option α)
  | .null => some none
  | j => (decode j).map some

/-- A string, or a number as its text, or null. -/
def loose? : Json → Option (Option String)
  | .null => some none
  | .string s => some (some s)
  | .number n => some (some (String.ofList n.text))
  | _ => none

def each? (decode : Json → Option α) : List Json → Option (List α)
  | [] => some []
  | j :: rest =>
      match decode j, each? decode rest with
      | some a, some as => some (a :: as)
      | _, _ => none

def list? (decode : Json → Option α) : Json → Option (List α)
  | .array items => each? decode items
  | _ => none

/-! ## Records -/

/-- A reader of some fields, from the members of an object or from the items of an
array, of which it leaves the rest. -/
structure Fields (α : Type) where
  ofMembers : List (String × Json) → Option α
  ofItems : List Json → Option (α × List Json)

namespace Fields

def field (name : String) (decode : Json → Option α) (absent : Option α) : Fields α where
  ofMembers members :=
    match members.filter fun m => m.1 == name with
    | [] => absent
    | [m] => decode m.2
    | _ => none
  ofItems
    | [] => absent.map fun a => (a, [])
    | j :: rest => (decode j).map fun a => (a, rest)

def required (name : String) (decode : Json → Option α) : Fields α :=
  field name decode none

def withDefault (name : String) (decode : Json → Option α) (absent : α) : Fields α :=
  field name decode (some absent)

def nullable (name : String) (decode : Json → Option α) : Fields (Option α) :=
  field name (nullable? decode) (some none)

def loose (name : String) : Fields (Option String) := field name loose? (some none)

def map (f : α → β) (fields : Fields α) : Fields β where
  ofMembers members := (fields.ofMembers members).map f
  ofItems items := (fields.ofItems items).map fun (a, rest) => (f a, rest)

def apply (fields : Fields (α → β)) (more : Fields α) : Fields β where
  ofMembers members :=
    match fields.ofMembers members, more.ofMembers members with
    | some f, some a => some (f a)
    | _, _ => none
  ofItems items :=
    match fields.ofItems items with
    | some (f, rest) => (more.ofItems rest).map fun (a, rest) => (f a, rest)
    | none => none

instance : Functor Fields where
  map := map

instance : Seq Fields where
  seq fields more := fields.apply (more ())

/-- An array must have no item left over. -/
def decode? (fields : Fields α) : Json → Option α
  | .object members => fields.ofMembers members
  | .array items =>
      match fields.ofItems items with
      | some (a, []) => some a
      | _ => none
  | _ => none

end Fields

end ProgramGuide.Json
