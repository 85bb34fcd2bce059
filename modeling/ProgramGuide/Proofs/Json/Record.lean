import ProgramGuide.Json.Decoding

/-!
# What records hold

What the readers of single fields promise of their values holds in every record that is
read, from an object or from an array.
-/

namespace ProgramGuide.Json

/-- Everything that is read has the property. -/
def Promises (decode : Json → Option α) (P : α → Prop) : Prop :=
  ∀ ⦃j a⦄, decode j = some a → P a

theorem promises_each? {decode : Json → Option α} {P : α → Prop} (h : Promises decode P)
    {items : List Json} {as : List α} (hread : each? decode items = some as) :
    ∀ a ∈ as, P a := by
  induction items generalizing as with
  | nil =>
      cases hread
      simp
  | cons j items ih =>
      unfold each? at hread
      split at hread
      next a rest hfirst hrest =>
        cases hread
        rw [List.forall_mem_cons]
        exact ⟨h hfirst, ih hrest⟩
      next => cases hread

theorem Promises.list {decode : Json → Option α} {P : α → Prop} (h : Promises decode P) :
    Promises (list? decode) fun as => ∀ a ∈ as, P a := by
  intro j as hread
  cases j with
  | array items => exact promises_each? h hread
  | _ => cases hread

namespace Fields

/-- Whatever is read with the fields has the property. -/
structure Promise (fields : Fields α) (P : α → Prop) : Prop where
  members : ∀ {members a}, fields.ofMembers members = some a → P a
  items : ∀ {items p}, fields.ofItems items = some p → P p.1

variable {P : α → Prop} {fields : Fields α}

theorem promise_true (fields : Fields α) : fields.Promise fun _ => True :=
  ⟨fun _ => trivial, fun _ => trivial⟩

theorem promise_field {name : String} {decode : Json → Option α} {absent : Option α}
    (h : Promises decode P) (habsent : ∀ a ∈ absent, P a) :
    (field name decode absent).Promise P where
  members {members a} hread := by
    simp only [field] at hread
    split at hread
    next => exact habsent a hread
    next => exact h hread
    next => cases hread
  items {items p} hread := by
    cases items with
    | nil =>
        obtain ⟨a, ha, rfl⟩ := Option.map_eq_some_iff.mp hread
        exact habsent a ha
    | cons j items =>
        obtain ⟨a, ha, rfl⟩ := Option.map_eq_some_iff.mp hread
        exact h ha

theorem Promise.map {f : α → β} {Q : β → Prop} (h : fields.Promise P)
    (hf : ∀ a, P a → Q (f a)) : (f <$> fields : Fields β).Promise Q where
  members hread := by
    obtain ⟨a, ha, rfl⟩ := Option.map_eq_some_iff.mp hread
    exact hf a (h.members ha)
  items hread := by
    obtain ⟨⟨a, rest⟩, ha, rfl⟩ := Option.map_eq_some_iff.mp hread
    exact hf a (h.items ha)

theorem Promise.apply {functions : Fields (α → β)} {Q : β → Prop}
    (h : functions.Promise fun f => ∀ a, P a → Q (f a)) (hmore : fields.Promise P) :
    (functions <*> fields : Fields β).Promise Q where
  members {members b} hread := by
    change (functions.apply fields).ofMembers members = some b at hread
    simp only [Fields.apply] at hread
    split at hread
    next f a hf ha =>
      cases hread
      exact h.members hf a (hmore.members ha)
    next => cases hread
  items {items p} hread := by
    change (functions.apply fields).ofItems items = some p at hread
    simp only [Fields.apply] at hread
    split at hread
    next f rest hf =>
      obtain ⟨⟨a, rest'⟩, ha, rfl⟩ := Option.map_eq_some_iff.mp hread
      exact h.items hf a (hmore.items ha)
    next => cases hread

theorem Promise.pass {functions : Fields (α → β)} {Q : β → Prop}
    (h : functions.Promise fun f => ∀ a, Q (f a)) (more : Fields α) :
    (functions <*> more : Fields β).Promise Q :=
  Promise.apply ⟨fun hf a _ => h.members hf a, fun hf a _ => h.items hf a⟩ (promise_true more)

theorem Promise.decode? (h : fields.Promise P) : Promises fields.decode? P := by
  intro j a hread
  cases j with
  | object members => exact h.members hread
  | array items =>
      simp only [Fields.decode?] at hread
      split at hread
      next hitems =>
        cases hread
        exact h.items hitems
      next => cases hread
  | _ => cases hread

end Fields

end ProgramGuide.Json
