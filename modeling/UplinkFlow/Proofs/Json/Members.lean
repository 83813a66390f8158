import UplinkFlow.Json.Basic

/-!
# Members of an object

* `member?_insert` — an inserted value is found under its key, and every other key is left alone.
-/

set_option autoImplicit false

namespace UplinkFlow.Members

theorem member?_insert (key key' : String) (value : Json) (ms : Members) :
    (ms.insert key value).member? key' = if key' = key then some value else ms.member? key' := by
  induction ms with
  | nil =>
    by_cases h : key' = key
    · simp [insert, member?, h]
    · simp [insert, member?, h, Ne.symm h]
  | cons m rest ih =>
    obtain ⟨k, v⟩ := m
    by_cases hk : k = key
    · by_cases h : key' = key
      · simp [insert, member?, hk, h]
      · simp [insert, member?, hk, h, Ne.symm h]
    · by_cases h : k = key'
      · subst h
        simp [insert, member?, hk]
      · simp [insert, member?, hk, h, ih]

end UplinkFlow.Members
