import UplinkFlow.Proofs.Json.Members
import UplinkFlow.Proofs.Json.Pointer

/-!
# Members stored one after another

* `Members.storeAll` — the members of an object after changes have been stored in order.
* `Members.IsUpdated` — what becomes of the keys and the values: a key that was there keeps its
  place, new keys follow in the order in which they first come, and a changed key has its last value.
* `Members.isUpdated_iff` — **that leaves nothing open**: if no key came twice, exactly the members
  after the changes are updated in this way.
-/

set_option autoImplicit false

namespace UplinkFlow.Members

variable {ms ns changes : Members} {key : String}

/-! ## Members as a map -/

theorem member?_eq_none_iff : ms.member? key = none ↔ key ∉ ms.map Prod.fst := by
  induction ms with
  | nil => simp [member?]
  | cons m ms ih =>
    obtain ⟨k, v⟩ := m
    by_cases hk : k = key
    · simp [member?, hk]
    · simp [member?, hk, ih, Ne.symm hk]

/-- Members with distinct keys are determined by the keys in order and the values under them. -/
theorem HasDistinctKeys.ext (hms : ms.HasDistinctKeys)
    (hkeys : ms.map Prod.fst = ns.map Prod.fst)
    (hvalues : ∀ key, ms.member? key = ns.member? key) : ms = ns := by
  induction ms generalizing ns with
  | nil => simpa using hkeys.symm
  | cons m ms ih =>
    obtain ⟨k, v⟩ := m
    rcases ns with _ | ⟨⟨k', v'⟩, ns⟩
    · cases hkeys
    · obtain ⟨hnot, hdistinct⟩ := List.nodup_cons.mp hms
      obtain ⟨rfl, hrest⟩ : k = k' ∧ ms.map Prod.fst = ns.map Prod.fst := by simpa using hkeys
      obtain rfl : v = v' := by simpa [member?] using hvalues k
      have hsame : ∀ key, member? key ms = member? key ns := by
        intro key
        by_cases hkey : k = key
        · -- the key of the first member is that of no other
          subst hkey
          rw [member?_eq_none_iff.mpr hnot, member?_eq_none_iff.mpr (hrest ▸ hnot)]
        · simpa [member?, hkey] using hvalues key
      rw [ih hdistinct hrest hsame]

/-! ## Changes in order -/

/-- The members after all changes have been stored. -/
def storeAll (ms changes : Members) : Members :=
  changes.foldl (fun stored change => stored.insert change.1 change.2) ms

@[simp] theorem storeAll_nil : ms.storeAll [] = ms := rfl

@[simp] theorem storeAll_cons (k : String) (v : Json) :
    ms.storeAll ((k, v) :: changes) = (ms.insert k v).storeAll changes := rfl

/-- What becomes of members when changes are stored in order.

* `keys` — a key that was there keeps its place, and the new keys follow in the order in which they
  first come;
* `values` — a changed key has the last value that was stored under it, and any other key its own. -/
structure IsUpdated (ms changes ns : Members) : Prop where
  keys : ns.map Prod.fst = ms.map Prod.fst ++
    ((changes.map Prod.fst).filter (· ∉ ms.map Prod.fst)).eraseDups
  values : ∀ key, ns.member? key = (changes.last? key).or (ms.member? key)

theorem map_fst_storeAll : (ms.storeAll changes).map Prod.fst = ms.map Prod.fst ++
    ((changes.map Prod.fst).filter (· ∉ ms.map Prod.fst)).eraseDups := by
  induction changes generalizing ms with
  | nil => simp
  | cons change changes ih =>
    obtain ⟨k, v⟩ := change
    rw [storeAll_cons, ih, map_fst_insert]
    by_cases hk : k ∈ ms.map Prod.fst
    · rw [if_pos hk, List.map_cons, List.filter_cons_of_neg (by simpa using hk)]
    · have hsplit : (changes.map Prod.fst).filter (· ∉ ms.map Prod.fst ++ [k]) =
          ((changes.map Prod.fst).filter (· ∉ ms.map Prod.fst)).filter fun key => !key == k := by
        rw [List.filter_filter]
        apply List.filter_congr
        intro key _
        rw [Bool.eq_iff_iff]
        simp [not_or, and_comm]
      rw [if_neg hk, List.map_cons, List.filter_cons_of_pos (by simpa using hk),
        List.eraseDups_cons, hsplit, List.append_assoc, List.singleton_append]

theorem member?_storeAll : (ms.storeAll changes).member? key =
    (changes.last? key).or (ms.member? key) := by
  induction changes generalizing ms with
  | nil => simp
  | cons change changes ih =>
    obtain ⟨k, v⟩ := change
    rw [storeAll_cons, ih, member?_insert, last?, Option.or_assoc]
    by_cases hk : k = key
    · simp [hk]
    · simp [hk, Ne.symm hk]

theorem HasDistinctKeys.storeAll (h : ms.HasDistinctKeys) (changes : Members) :
    (ms.storeAll changes).HasDistinctKeys := by
  induction changes generalizing ms with
  | nil => exact h
  | cons change changes ih => exact ih (h.insert change.1 change.2)

theorem isUpdated_storeAll (ms changes : Members) : ms.IsUpdated changes (ms.storeAll changes) :=
  ⟨map_fst_storeAll, fun _ => member?_storeAll⟩

/-- **Exactly the members after the changes are updated in this way**, if no key came twice. -/
theorem isUpdated_iff (h : ms.HasDistinctKeys) :
    ms.IsUpdated changes ns ↔ ns = ms.storeAll changes := by
  constructor
  · intro hupdated
    refine ((h.storeAll changes).ext ?_ ?_).symm
    · rw [map_fst_storeAll, hupdated.keys]
    · intro key
      rw [member?_storeAll, hupdated.values]
  · rintro rfl
    exact isUpdated_storeAll ms changes

end UplinkFlow.Members
