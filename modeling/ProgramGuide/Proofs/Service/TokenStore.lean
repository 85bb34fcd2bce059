import ProgramGuide.Service.TokenStore

/-!
# The token store as a map
-/

namespace ProgramGuide.TokenStore

variable {username user : String} {store : TokenStore} {token : IssuedToken} {now : Instant}

@[simp] theorem get?_empty : empty.get? username = none := rfl

@[simp] theorem get?_clear : store.clear.get? username = none := rfl

@[simp] theorem get?_reject : (store.reject now).get? username = store.get? username := rfl

private theorem lookup_filter (h : username ≠ user) (tokens : List (String × IssuedToken)) :
    (tokens.filter (·.1 != user)).lookup username = tokens.lookup username := by
  induction tokens with
  | nil => rfl
  | cons entry tokens ih =>
      obtain ⟨key, token⟩ := entry
      by_cases hkey : key = user
      · subst hkey
        simpa [List.lookup_cons, beq_eq_false_iff_ne.mpr h] using ih
      · rw [List.filter_cons_of_pos (by simpa using hkey), List.lookup_cons,
          List.lookup_cons, ih]

theorem get?_insert :
    (store.insert user token).get? username =
      if username = user then some token else store.get? username := by
  unfold insert get?
  by_cases h : username = user
  · simp [h]
  · rw [List.lookup_cons, beq_eq_false_iff_ne.mpr h, if_neg h]
    exact lookup_filter h store.tokens

end ProgramGuide.TokenStore
