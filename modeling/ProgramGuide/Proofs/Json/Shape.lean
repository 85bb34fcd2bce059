import ProgramGuide.Proofs.Json.Settled

/-!
# Shapes of payloads

The shape of a payload says which members its objects are known to have, and what each
counts as when it is left out.  It tells the changes that a reader of such payloads should
not notice.
-/

namespace ProgramGuide.Json

structure Entry (σ : Type) where
  key : String
  /-- What the member counts as when it is left out; nothing if it must be there. -/
  default : Option Json
  shape : σ

def Entry.required (key : String) (shape : σ) : Entry σ := ⟨key, none, shape⟩

def Entry.optional (key : String) (default : Json) (shape : σ) : Entry σ :=
  ⟨key, some default, shape⟩

inductive Shape where
  /-- Neither an array nor an object. -/
  | scalar
  | list (item : Shape)
  /-- In a settled record a key may stand twice, and the last member with it counts. -/
  | record (settled : Bool) (entries : List (Entry Shape))
  /-- Something that must be usable as a whole, nested at most so deep. -/
  | whole (depth : Nat) (inside : Shape)

namespace Shape

def entries : Shape → List (Entry Shape)
  | record _ entries => entries
  | whole _ inside => inside.entries
  | _ => []

def isSettled : Shape → Bool
  | record settled _ => settled
  | whole _ inside => inside.isSettled
  | _ => false

def item? : Shape → Nat → Option Shape
  | scalar, _ => none
  | list item, _ => some item
  | record _ entries, n => entries[n]?.map (·.shape)
  | whole _ inside, n => inside.item? n

theorem item?_record (settled : Bool) (entries : List (Entry Shape)) (n : Nat) :
    (record settled entries).item? n = (entries.map (·.shape))[n]? :=
  List.getElem?_map.symm

/-- Whether a change keeps what must be usable as a whole usable, and what is not so. -/
def Keeps : Shape → Json → Json → Prop
  | whole depth _, j, j' => j.usable depth = j'.usable depth
  | _, _, _ => True

/-- One object or array is changed somewhere: in the order of its members, by a member that
is not known, by leaving out a default, or within one of its parts.  What is not known
may change in any way. -/
inductive Varies : Shape → Json → Json → Prop
  | insert {s : Shape} (xs ys : List (String × Json)) (key : String) (value : Json)
      (h : ∀ e ∈ s.entries, e.key ≠ key) :
      Varies s (.object (xs ++ ys)) (.object (xs ++ (key, value) :: ys))
  | permute {s : Shape} {xs ys : List (String × Json)} (h : xs.Perm ys)
      (hsettled : s.isSettled = true →
        ∀ e ∈ s.entries, valuesOf e.key xs = valuesOf e.key ys) :
      Varies s (.object xs) (.object ys)
  | leave {s : Shape} (xs ys : List (String × Json)) {key : String} {value : Json}
      (h : ∀ e ∈ s.entries, e.key = key → e.default = some value)
      (honly : ∀ m ∈ xs ++ ys, m.1 ≠ key) :
      Varies s (.object (xs ++ (key, value) :: ys)) (.object (xs ++ ys))
  | member {s : Shape} (xs ys : List (String × Json)) {key : String} {value value' : Json}
      (hkeeps : ∀ e ∈ s.entries, e.key = key → e.shape.Keeps value value')
      (h : ∀ e ∈ s.entries, e.key = key → e.shape.Varies value value') :
      Varies s (.object (xs ++ (key, value) :: ys)) (.object (xs ++ (key, value') :: ys))
  | item {s : Shape} (xs ys : List Json) {value value' : Json}
      (hkeeps : ∀ part, s.item? xs.length = some part → part.Keeps value value')
      (h : ∀ part, s.item? xs.length = some part → part.Varies value value') :
      Varies s (.array (xs ++ value :: ys)) (.array (xs ++ value' :: ys))

/-- One change to a payload of the shape. -/
def Step (s : Shape) (j j' : Json) : Prop := s.Keeps j j' ∧ s.Varies j j'

end Shape

end ProgramGuide.Json
