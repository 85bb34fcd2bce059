import Mathlib.Data.Option.Defs
import Mathlib.Logic.Relation
import ProgramGuide.Json.Decoding
import ProgramGuide.Proofs.Json.Shape

/-!
# Records under change

A record that is read field by field does not notice a change to its payload, if none of
its fields does.
-/

namespace ProgramGuide.Json

/-- Two objects or two arrays, whatever is in them. -/
inductive Rough : Json → Json → Prop
  | objects (xs ys) : Rough (.object xs) (.object ys)
  | arrays (xs ys) : Rough (.array xs) (.array ys)

/-- What a relation connects is decoded alike. -/
def Respects (R : Json → Json → Prop) (decode : Json → Option α) : Prop :=
  ∀ ⦃j j'⦄, R j j' → decode j = decode j'

theorem Shape.Varies.rough {s : Shape} {j j' : Json} (h : s.Varies j j') : Rough j j' := by
  cases h with
  | insert => exact .objects _ _
  | permute => exact .objects _ _
  | leave => exact .objects _ _
  | member => exact .objects _ _
  | item => exact .arrays _ _

theorem Shape.Step.rough {s : Shape} {j j' : Json} (h : s.Step j j') : Rough j j' :=
  h.2.rough

theorem Rough.settle {j j' : Json} (h : Rough j j') : Rough j.settle j'.settle := by
  cases h with
  | objects => exact .objects _ _
  | arrays => exact .arrays _ _

section Single

variable {R : Json → Json → Prop} {decode : Json → Option α}

theorem Respects.of_rough (hrough : ∀ {j j'}, R j j' → Rough j j')
    (h : Respects Rough decode) : Respects R decode :=
  fun _ _ hR => h (hrough hR)

/-- So is what a chain of changes connects, in either direction. -/
theorem Respects.eqvGen (h : Respects R decode) : Respects (Relation.EqvGen R) decode := by
  intro j j' hchain
  induction hchain with
  | rel _ _ hR => exact h hR
  | refl => rfl
  | symm _ _ _ ih => exact ih.symm
  | trans _ _ _ _ _ ih ih' => exact ih.trans ih'

theorem respects_string : Respects Rough string? := by
  rintro _ _ (_ | _) <;> rfl

theorem respects_bool : Respects Rough bool? := by
  rintro _ _ (_ | _) <;> rfl

theorem respects_signed (bits : Nat) : Respects Rough (signed? bits) := by
  rintro _ _ (_ | _) <;> rfl

theorem respects_loose : Respects Rough loose? := by
  rintro _ _ (_ | _) <;> rfl

theorem Respects.nullable (hrough : ∀ {j j'}, R j j' → Rough j j') (h : Respects R decode) :
    Respects R (nullable? decode) := by
  intro j j' hR
  have hdecode := h hR
  cases hrough hR with
  | objects => exact congrArg (Option.map some) hdecode
  | arrays => exact congrArg (Option.map some) hdecode

theorem each?_congr {before after : List Json} {j j' : Json} (h : decode j = decode j') :
    each? decode (before ++ j :: after) = each? decode (before ++ j' :: after) := by
  induction before with
  | nil => simp only [List.nil_append, each?, h]
  | cons first before ih => simp only [List.cons_append, each?, ih]

theorem Respects.list {item : Shape} (h : Respects item.Step decode) :
    Respects (Shape.list item).Step (list? decode) := by
  rintro _ _ ⟨-, hvaries⟩
  cases hvaries with
  | insert => rfl
  | permute => rfl
  | leave => rfl
  | member => rfl
  | item _ _ hkeeps hitem => exact each?_congr (h ⟨hkeeps _ rfl, hitem _ rfl⟩)

end Single

/-! ## Values of a key -/

/-- The values of a known key before and after a change. -/
inductive ValuesAlike (settled : Bool) (R : Json → Json → Prop) (default : Option Json) :
    List Json → List Json → Prop
  | perm {vs vs'} (h : vs.Perm vs') (hsettled : settled = true → vs = vs') :
      ValuesAlike settled R default vs vs'
  | leave {value} (h : default = some value) : ValuesAlike settled R default [value] []
  | member (before after) {value value'} (h : R value value') :
      ValuesAlike settled R default (before ++ value :: after) (before ++ value' :: after)

theorem ValuesAlike.refl {settled : Bool} {R : Json → Json → Prop} {default : Option Json}
    (vs : List Json) : ValuesAlike settled R default vs vs :=
  .perm (.refl vs) fun _ => rfl

theorem Shape.Varies.values {s : Shape} {xs ys : List (String × Json)}
    (h : s.Varies (.object xs) (.object ys)) {e : Entry Shape} (he : e ∈ s.entries) :
    ValuesAlike s.isSettled e.shape.Step e.default (valuesOf e.key xs)
      (valuesOf e.key ys) := by
  cases h with
  | insert before after key value hother =>
      simp only [valuesOf_append, valuesOf_cons, if_neg (hother e he).symm]
      exact .refl _
  | permute hperm hsettled =>
      exact .perm (valuesOf_perm hperm) fun hs => hsettled hs e he
  | leave before after hdefault honly =>
      simp only [valuesOf_append, valuesOf_cons]
      split
      next hkey =>
        subst hkey
        simp only [List.mem_append] at honly
        rw [valuesOf_eq_nil_iff.mpr fun m hm => honly m (.inl hm),
          valuesOf_eq_nil_iff.mpr fun m hm => honly m (.inr hm)]
        exact .leave (hdefault e he rfl)
      next => exact .refl _
  | member before after hkeeps hmember =>
      simp only [valuesOf_append, valuesOf_cons]
      split
      next hkey => exact .member _ _ ⟨hkeeps e he hkey.symm, hmember e he hkey.symm⟩
      next => exact .refl _

def settledValues (vs : List Json) : List Json :=
  match vs.getLast? with
  | some value => [value.settle]
  | none => []

theorem valuesOf_settled {key : String} (members : List (String × Json)) :
    valuesOf key (settleMembers [] members) = settledValues (valuesOf key members) :=
  valuesOf_settleMembers .nil

theorem ValuesAlike.settle {R R' : Json → Json → Prop} {default : Option Json}
    {vs vs' : List Json} (h : ValuesAlike true R default vs vs')
    (hdefault : ∀ value ∈ default, value.settle = value)
    (hR : ∀ {j j'}, R j j' → R' j.settle j'.settle) :
    ValuesAlike false R' default (settledValues vs) (settledValues vs') := by
  cases h with
  | perm _ hsettled =>
      rw [hsettled rfl]
      exact .refl _
  | @leave value h =>
      have hsettled : default = some value.settle := by rw [hdefault value h, h]
      exact .leave hsettled
  | member before after hvalue =>
      unfold settledValues
      rw [List.getLast?_append, List.getLast?_append, List.getLast?_cons, List.getLast?_cons]
      cases after.getLast? with
      | none => exact .member [] [] (hR hvalue)
      | some last => exact .refl _

/-! ## Items -/

/-- Two arrays whose items are the same but for those that `R` connects; surplus items may
be any. -/
inductive ItemsAlike (R : Shape → Json → Json → Prop) :
    List Shape → List Json → List Json → Prop
  | nil (shapes) : ItemsAlike R shapes [] []
  | cons {s shapes j j' xs ys} (h : j = j' ∨ R s j j') (hrest : ItemsAlike R shapes xs ys) :
      ItemsAlike R (s :: shapes) (j :: xs) (j' :: ys)
  | surplus {xs ys} (h : xs.length = ys.length) : ItemsAlike R [] xs ys

variable {R : Shape → Json → Json → Prop}

theorem ItemsAlike.refl (shapes : List Shape) (xs : List Json) : ItemsAlike R shapes xs xs := by
  induction xs generalizing shapes with
  | nil => exact .nil _
  | cons j xs ih =>
      cases shapes with
      | nil => exact .surplus rfl
      | cons s shapes => exact .cons (.inl rfl) (ih shapes)

theorem ItemsAlike.length_eq {shapes : List Shape} {xs ys : List Json}
    (h : ItemsAlike R shapes xs ys) : xs.length = ys.length := by
  induction h with
  | nil => rfl
  | cons _ _ ih => simp [ih]
  | surplus h => exact h

theorem itemsAlike_of_item {shapes : List Shape} {before after : List Json} {j j' : Json}
    (h : ∀ s, shapes[before.length]? = some s → R s j j') :
    ItemsAlike R shapes (before ++ j :: after) (before ++ j' :: after) := by
  induction before generalizing shapes with
  | nil =>
      cases shapes with
      | nil => exact .surplus (by simp)
      | cons s shapes => exact .cons (.inr (h s rfl)) (.refl _ _)
  | cons first before ih =>
      cases shapes with
      | nil => exact .surplus (by simp)
      | cons s shapes => exact .cons (.inl rfl) (ih h)

/-! ## Fields -/

namespace Fields

/-- The fields are those of the entries, and notice nothing of what `R` connects. -/
structure Depends (R : Shape → Json → Json → Prop) (fields : Fields α)
    (entries : List (Entry Shape)) : Prop where
  members : ∀ {xs ys},
    (∀ e ∈ entries, ValuesAlike false (R e.shape) e.default (valuesOf e.key xs)
      (valuesOf e.key ys)) →
    fields.ofMembers xs = fields.ofMembers ys
  items : ∀ {later xs ys}, ItemsAlike R (entries.map (·.shape) ++ later) xs ys →
    Option.Rel (fun p p' => p.1 = p'.1 ∧ ItemsAlike R later p.2 p'.2) (fields.ofItems xs)
      (fields.ofItems ys)

variable {entries more : List (Entry Shape)} {name : String}
variable {decode : Json → Option α} {absent : Option α} {fields : Fields α}

def fromValues (decode : Json → Option α) (absent : Option α) : List Json → Option α
  | [] => absent
  | [value] => decode value
  | _ => none

theorem ofMembers_field (members : List (String × Json)) :
    (field name decode absent).ofMembers members =
      fromValues decode absent (valuesOf name members) := by
  simp only [field, valuesOf]
  split
  next h => rw [h]; rfl
  next h => rw [h]; rfl
  next hnil hone =>
    cases hmembers : members.filter (·.1 == name) with
    | nil => exact absurd hmembers hnil
    | cons m rest =>
        cases rest with
        | nil => exact absurd hmembers (hone m)
        | cons => rfl

theorem fromValues_perm {vs vs' : List Json} (h : vs.Perm vs') :
    fromValues decode absent vs = fromValues decode absent vs' := by
  have hlength := h.length_eq
  match vs, vs' with
  | [], [] => rfl
  | [value], [value'] =>
      obtain rfl : value = value' := by simpa using h
      rfl
  | _ :: _ :: _, _ :: _ :: _ => rfl

theorem fromValues_congr {before after : List Json} {value value' : Json}
    (h : decode value = decode value') :
    fromValues decode absent (before ++ value :: after) =
      fromValues decode absent (before ++ value' :: after) := by
  match before, after with
  | [], [] => exact h
  | [], _ :: _ => rfl
  | [_], _ => rfl
  | _ :: _ :: _, _ => rfl

theorem fromValues_congr_decode {decode' : Json → Option α} {vs : List Json}
    (h : ∀ value ∈ vs, decode value = decode' value) :
    fromValues decode absent vs = fromValues decode' absent vs := by
  match vs with
  | [] => rfl
  | [value] => exact h value (by simp)
  | _ :: _ :: _ => rfl

theorem fromValues_alike {S : Json → Json → Prop} {default : Option Json}
    {vs vs' : List Json} (hS : Respects S decode)
    (hdefault : ∀ value ∈ default, decode value = absent)
    (h : ValuesAlike false S default vs vs') :
    fromValues decode absent vs = fromValues decode absent vs' := by
  cases h with
  | perm h => exact fromValues_perm h
  | leave h => exact hdefault _ h
  | member _ _ h => exact fromValues_congr (hS h)

theorem depends_field {e : Entry Shape} (h : Respects (R e.shape) decode)
    (hdefault : ∀ value ∈ e.default, decode value = absent) :
    (field e.key decode absent).Depends R [e] where
  members hvalues := by
    rw [ofMembers_field, ofMembers_field]
    exact fromValues_alike h hdefault (hvalues e (by simp))
  items hitems := by
    cases hitems with
    | nil =>
        cases absent with
        | none => exact .none
        | some a => exact .some ⟨rfl, .nil _⟩
    | @cons _ _ j j' _ _ hitem hrest =>
        have hdecode : decode j = decode j' := by
          obtain rfl | hitem := hitem
          · rfl
          · exact h hitem
        simp only [field, hdecode]
        cases decode j' with
        | none => exact .none
        | some a => exact .some ⟨rfl, hrest⟩

theorem depends_required (name : String) {s : Shape} (h : Respects (R s) decode) :
    (required name decode).Depends R [.required name s] :=
  depends_field (e := .required name s) h (by simp [Entry.required])

theorem depends_withDefault (name : String) {s : Shape} {a : α} {value : Json}
    (h : Respects (R s) decode) (hdefault : decode value = some a) :
    (withDefault name decode a).Depends R [.optional name value s] :=
  depends_field (e := .optional name value s) h (by simpa [Entry.optional] using hdefault)

theorem depends_nullable (name : String) {s : Shape}
    (hrough : ∀ {j j'}, R s j j' → Rough j j') (h : Respects (R s) decode) :
    (nullable name decode).Depends R [.optional name .null s] :=
  depends_field (e := .optional name .null s) (h.nullable hrough)
    (by simp [Entry.optional, nullable?])

theorem depends_loose (name : String) {s : Shape}
    (hrough : ∀ {j j'}, R s j j' → Rough j j') :
    (loose name).Depends R [.optional name .null s] :=
  depends_field (e := .optional name .null s) (fun _ _ h => respects_loose (hrough h))
    (by simp [Entry.optional, loose?])

/-! ## Functions of fields -/

theorem ofMembers_map (f : α → β) (members : List (String × Json)) :
    (f <$> fields : Fields β).ofMembers members = (fields.ofMembers members).map f :=
  rfl

theorem ofItems_map (f : α → β) (items : List Json) :
    (f <$> fields : Fields β).ofItems items =
      (fields.ofItems items).map fun (a, rest) => (f a, rest) :=
  rfl

theorem ofMembers_apply (functions : Fields (α → β)) (members : List (String × Json)) :
    (functions <*> fields : Fields β).ofMembers members =
      (functions.ofMembers members).bind (fields.ofMembers members).map := by
  change (functions.apply fields).ofMembers members = _
  simp only [Fields.apply]
  cases functions.ofMembers members <;> cases fields.ofMembers members <;> rfl

theorem ofItems_apply (functions : Fields (α → β)) (items : List Json) :
    (functions <*> fields : Fields β).ofItems items =
      (functions.ofItems items).bind fun (f, rest) =>
        (fields.ofItems rest).map fun (a, rest) => (f a, rest) := by
  change (functions.apply fields).ofItems items = _
  simp only [Fields.apply]
  cases functions.ofItems items <;> rfl

private theorem rel_map {S : β → γ → Prop} {S' : δ → ε → Prop} {f : β → δ} {g : γ → ε}
    {a : Option β} {b : Option γ} (h : Option.Rel S a b) (hf : ∀ a b, S a b → S' (f a) (g b)) :
    Option.Rel S' (a.map f) (b.map g) := by
  cases h with
  | none => exact .none
  | some h => exact .some (hf _ _ h)

theorem Depends.map (f : α → β) (h : fields.Depends R entries) :
    (f <$> fields : Fields β).Depends R entries where
  members hvalues := congrArg (Option.map f) (h.members hvalues)
  items hitems := by
    refine rel_map (h.items hitems) fun p p' hrel => ?_
    exact ⟨congrArg f hrel.1, hrel.2⟩

theorem Depends.apply {functions : Fields (α → β)} (h : functions.Depends R entries)
    (hmore : fields.Depends R more) : (functions <*> fields : Fields β).Depends R
      (entries ++ more) where
  members hvalues := by
    rw [ofMembers_apply, ofMembers_apply,
      h.members fun e he => hvalues e (List.mem_append_left _ he),
      hmore.members fun e he => hvalues e (List.mem_append_right _ he)]
  items {later xs ys} hitems := by
    rw [List.map_append, List.append_assoc] at hitems
    have hfirst := h.items hitems
    rw [ofItems_apply, ofItems_apply]
    generalize functions.ofItems xs = first, functions.ofItems ys = first' at hfirst
    cases hfirst with
    | none => exact .none
    | @some p p' hrel =>
        obtain ⟨hf, hrest⟩ := hrel
        simp only [Option.bind_some, hf]
        refine rel_map (hmore.items hrest) fun q q' hrel => ?_
        exact ⟨congrArg p'.1 hrel.1, hrel.2⟩

/-- All items must be used up. -/
theorem Depends.decode?_items {xs ys : List Json} (h : fields.Depends R entries)
    (hitems : ItemsAlike R (entries.map (·.shape)) xs ys) :
    fields.decode? (.array xs) = fields.decode? (.array ys) := by
  have hrel : Option.Rel (fun p p' => p.1 = p'.1 ∧ ItemsAlike R [] p.2 p'.2)
      (fields.ofItems xs) (fields.ofItems ys) := h.items (by rwa [List.append_nil])
  simp only [decode?]
  generalize fields.ofItems xs = read, fields.ofItems ys = read' at hrel
  cases hrel with
  | none => rfl
  | @some p p' hrel =>
      obtain ⟨a, rest⟩ := p
      obtain ⟨a', rest'⟩ := p'
      obtain ⟨rfl, hrest⟩ := hrel
      have hlength := hrest.length_eq
      match rest, rest' with
      | [], [] => rfl
      | _ :: _, _ :: _ => rfl

theorem Depends.respects (h : fields.Depends Shape.Step entries) :
    Respects (Shape.record false entries).Step fields.decode? := by
  rintro j j' ⟨-, hvaries⟩
  cases hvaries.rough with
  | objects xs ys => exact h.members fun e he => hvaries.values he
  | arrays =>
      cases hvaries with
      | item _ _ hkeeps hitem =>
          refine h.decode?_items (itemsAlike_of_item fun s hs => ?_)
          rw [← Shape.item?_record false] at hs
          exact ⟨hkeeps s hs, hitem s hs⟩

theorem Depends.respects_settled (h : fields.Depends (fun _ => Rough) entries)
    (hdefault : ∀ e ∈ entries, ∀ value ∈ e.default, value.settle = value) :
    Respects (Shape.record true entries).Varies fun j => fields.decode? j.settle := by
  intro j j' hvaries
  cases hvaries.rough with
  | objects xs ys =>
      refine h.members fun e he => ?_
      rw [valuesOf_settled, valuesOf_settled]
      exact (hvaries.values he).settle (hdefault e he) fun hstep => hstep.2.rough.settle
  | arrays =>
      cases hvaries with
      | item _ _ hkeeps hitem =>
          simp only [settle, settleItems_eq_map, List.map_append, List.map_cons]
          refine h.decode?_items (itemsAlike_of_item fun s hs => ?_)
          rw [List.length_map, ← Shape.item?_record true] at hs
          exact (hitem s hs).rough.settle

end Fields

end ProgramGuide.Json
