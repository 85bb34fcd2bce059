import ProgramGuide.Json.Number

/-!
# JSON values

Objects keep their members in the order of the text, repeated keys included.  A
string that names half a surrogate pair and a number beyond the doubles are well formed
but stand for no value: they are unreadable, which matters only where the value is used.
An object with such a key is broken, and keeps the members in front of that key.
-/

namespace ProgramGuide

inductive Json where
  | null
  | bool (b : Bool)
  | number (n : Json.Number)
  | string (s : String)
  | array (items : List Json)
  | object (members : List (String × Json))
  | brokenObject (members : List (String × Json))
  | unreadable
  deriving Repr

namespace Json

/-- The value of the last member with the key. -/
def member? (members : List (String × Json)) (key : String) : Option Json :=
  (members.reverse.find? fun m => m.1 == key).map (·.2)

def get? (j : Json) (key : String) : Option Json :=
  match j with
  | .object members => member? members key
  | _ => none

mutual

/-- Whether the value can be used as a whole, with arrays and objects nested at most
so deep. -/
def usable : Json → Nat → Bool
  | .array items, depth + 1 => usableItems items depth
  | .object members, depth + 1 => usableMembers members depth
  | .array _, 0 => false
  | .object _, 0 => false
  | .brokenObject _, _ => false
  | .unreadable, _ => false
  | _, _ => true

def usableItems : List Json → Nat → Bool
  | [], _ => true
  | j :: rest, depth => usable j depth && usableItems rest depth

def usableMembers : List (String × Json) → Nat → Bool
  | [], _ => true
  | (_, j) :: rest, depth => usable j depth && usableMembers rest depth

end

/-- How deep a document may be nested to be usable as a whole. -/
def nestingLimit : Nat := 127

mutual

def isReadable : Json → Bool
  | .array items => areReadable items
  | .object members => membersReadable members
  | .brokenObject _ => false
  | .unreadable => false
  | _ => true

def areReadable : List Json → Bool
  | [] => true
  | j :: rest => isReadable j && areReadable rest

def membersReadable : List (String × Json) → Bool
  | [] => true
  | (_, j) :: rest => isReadable j && membersReadable rest

end

/-! ## Settled objects -/

def putMember (key : String) (value : Json) : List (String × Json) → List (String × Json)
  | [] => [(key, value)]
  | (k, v) :: rest =>
      if key == k then (key, value) :: rest
      else if key < k then (key, value) :: (k, v) :: rest
      else (k, v) :: putMember key value rest

mutual

/-- Members sorted by key; of those with one key the last stays. -/
def settle : Json → Json
  | .array items => .array (settleItems items)
  | .object members => .object (settleMembers [] members)
  | j => j

def settleItems : List Json → List Json
  | [] => []
  | j :: rest => settle j :: settleItems rest

def settleMembers (settled : List (String × Json)) :
    List (String × Json) → List (String × Json)
  | [] => settled
  | (k, v) :: rest => settleMembers (putMember k (settle v) settled) rest

end

/-! ## Building values -/

def natural (n : Nat) : Json := .number (.integer n)

def integer (n : Int) : Json := .number (.integer n)

def optional (f : α → Json) : Option α → Json
  | some a => f a
  | none => .null

def list (f : α → Json) (xs : List α) : Json := .array (xs.map f)

end Json

end ProgramGuide
