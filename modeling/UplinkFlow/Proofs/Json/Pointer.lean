import UplinkFlow.Proofs.Json.Rewriting

/-!
# Places in a document

* `Json.at?` — what stands at a place, which is given by the keys and indices that lead to it.  Of a
  repeated key the last value counts.
* `Json.at?_rewrite` — rewriting the strings of a document rewrites what stands at each place.
* `Json.at?_toJson?` — **what a reader keeps of a document has everything in its place.**
-/

set_option autoImplicit false

namespace UplinkFlow

variable {f : String → Option String}

/-! ## Members -/

namespace Members

/-- The value that counts under a key: that of its last member. -/
def last? (key : String) : Members → Option Json
  | [] => none
  | (k, v) :: rest => (last? key rest).or (if k = key then some v else none)

/-- No key comes twice. -/
def HasDistinctKeys (ms : Members) : Prop := (ms.map Prod.fst).Nodup

@[simp] theorem last?_nil (key : String) : last? key [] = none := rfl

theorem last?_append (key : String) (ms ns : Members) :
    last? key (ms ++ ns) = (last? key ns).or (last? key ms) := by
  induction ms with
  | nil => simp
  | cons m ms ih =>
    obtain ⟨k, v⟩ := m
    simp only [List.cons_append, last?, ih, Option.or_assoc]

theorem last?_eq_none {key : String} {ms : Members} (h : key ∉ ms.map Prod.fst) :
    last? key ms = none := by
  induction ms with
  | nil => rfl
  | cons m ms ih =>
    obtain ⟨k, v⟩ := m
    simp only [List.map_cons, List.mem_cons, not_or] at h
    simp [last?, ih h.2, Ne.symm h.1]

theorem last?_insert_of_ne {key key' : String} (h : key' ≠ key) (value : Json) (ms : Members) :
    last? key' (ms.insert key value) = last? key' ms := by
  induction ms with
  | nil => simp [insert, last?, Ne.symm h]
  | cons m ms ih =>
    obtain ⟨k, v⟩ := m
    by_cases hk : k = key
    · subst hk
      simp [insert, last?, Ne.symm h]
    · simp [insert, hk, last?, ih]

theorem last?_rewrite (key : String) (ms : Members) :
    last? key (ms.rewrite f) = (last? key ms).map (Json.rewrite f) := by
  induction ms with
  | nil => rfl
  | cons m ms ih =>
    obtain ⟨k, v⟩ := m
    by_cases hk : k = key
    · simp [last?, ih, hk]
    · simp [last?, ih, hk]

theorem map_fst_insert (key : String) (value : Json) (ms : Members) :
    (ms.insert key value).map Prod.fst =
      if key ∈ ms.map Prod.fst then ms.map Prod.fst else ms.map Prod.fst ++ [key] := by
  induction ms with
  | nil => rfl
  | cons m ms ih =>
    obtain ⟨k, v⟩ := m
    by_cases hk : k = key
    · simp [insert, hk]
    · by_cases hmem : key ∈ ms.map Prod.fst
      · simp only [insert, hk, if_false, List.map_cons, ih, if_pos hmem,
          List.mem_cons_of_mem k hmem, if_true]
      · have hnot : key ∉ k :: ms.map Prod.fst := by simp [Ne.symm hk, hmem]
        simp only [insert, hk, if_false, List.map_cons, ih, if_neg hmem, if_neg hnot,
          List.cons_append]

namespace HasDistinctKeys

variable {ms : Members}

theorem insert (h : ms.HasDistinctKeys) (key : String) (value : Json) :
    (ms.insert key value).HasDistinctKeys := by
  unfold HasDistinctKeys at h ⊢
  rw [map_fst_insert]
  split
  · exact h
  · rename_i hnew
    refine List.nodup_append.mpr ⟨h, by simp, ?_⟩
    rintro k hk _ hkey rfl
    exact hnew (List.mem_singleton.mp hkey ▸ hk)

theorem last?_insert_self (h : ms.HasDistinctKeys) (key : String) (value : Json) :
    last? key (ms.insert key value) = some value := by
  induction ms with
  | nil => simp [Members.insert, last?]
  | cons m ms ih =>
    obtain ⟨k, v⟩ := m
    obtain ⟨hnot, hrest⟩ := List.nodup_cons.mp h
    by_cases hk : k = key
    · subst hk
      simp [Members.insert, last?, last?_eq_none hnot]
    · simp [Members.insert, hk, last?, ih hrest]

end HasDistinctKeys

end Members

/-! ## Places -/

namespace Json

/-- A step into a container. -/
inductive Step where
  | key (name : String)
  | item (index : Nat)
deriving DecidableEq, Repr

/-- What stands at a place. -/
def at? : List Step → Json → Option Json
  | [], j => some j
  | .key name :: rest, .obj ms => (Members.last? name ms).bind (at? rest)
  | .item index :: rest, .arr items => (items[index]?).bind (at? rest)
  | _ :: _, _ => none

theorem at?_key_eq_some {name : String} {rest : List Step} {j w : Json}
    (h : j.at? (.key name :: rest) = some w) :
    ∃ ms v, j = .obj ms ∧ Members.last? name ms = some v ∧ v.at? rest = some w := by
  cases j with
  | obj ms =>
    obtain ⟨v, hv, hw⟩ := Option.bind_eq_some_iff.mp h
    exact ⟨ms, v, rfl, hv, hw⟩
  | _ => cases h

theorem at?_item_eq_some {index : Nat} {rest : List Step} {j w : Json}
    (h : j.at? (.item index :: rest) = some w) :
    ∃ items v, j = .arr items ∧ items[index]? = some v ∧ v.at? rest = some w := by
  cases j with
  | arr items =>
    obtain ⟨v, hv, hw⟩ := Option.bind_eq_some_iff.mp h
    exact ⟨items, v, rfl, hv, hw⟩
  | _ => cases h

/-! ## Rewriting -/

theorem rewriteItems_eq_map (items : List Json) : rewriteItems f items = items.map (rewrite f) := by
  induction items with
  | nil => rfl
  | cons x xs ih => rw [rewriteItems_cons, ih, List.map_cons]

theorem at?_rewrite (place : List Step) (j : Json) :
    (j.rewrite f).at? place = (j.at? place).map (rewrite f) := by
  induction place generalizing j with
  | nil => rfl
  | cons step rest ih =>
    cases step with
    | key name =>
      cases j with
      | obj ms =>
        simp only [rewrite_obj, at?, Members.last?_rewrite]
        cases Members.last? name ms with
        | none => rfl
        | some v => exact ih v
      | str s => simp [at?]
      | _ => rfl
    | item index =>
      cases j with
      | arr items =>
        simp only [rewrite_arr, at?, rewriteItems_eq_map, List.getElem?_map]
        cases items[index]? with
        | none => rfl
        | some v => exact ih v
      | str s => simp [at?]
      | _ => rfl

end Json

/-! ## What a reader keeps -/

namespace Outline

theorem toMembers?_last? : ∀ {ms before after : Members},
    toMembers? before (ofMembers ms) = some after → before.HasDistinctKeys →
      (∀ key v, ms.last? key = some v →
        ∃ w, (ofJson v).toJson? = some w ∧ after.last? key = some w) ∧
      ∀ key, ms.last? key = none → after.last? key = before.last? key
  | [], before, after, h, _ => by
    cases h
    exact ⟨fun _ _ hv => absurd hv (by simp), fun _ _ => rfl⟩
  | (k, v) :: ms, before, after, h, hbefore => by
    obtain ⟨w, hw, hrest⟩ := Option.bind_eq_some_iff.mp h
    obtain ⟨hsome, hnone⟩ := toMembers?_last? hrest (hbefore.insert k w)
    constructor
    · intro key u hu
      cases hlater : Members.last? key ms with
      | some later =>
        obtain rfl : later = u := by simpa [Members.last?, hlater] using hu
        exact hsome key later hlater
      | none =>
        simp only [Members.last?, hlater, Option.none_or, Option.ite_none_right_eq_some,
          Option.some.injEq] at hu
        obtain ⟨rfl, rfl⟩ := hu
        exact ⟨w, hw, by rw [hnone k hlater, hbefore.last?_insert_self]⟩
    · intro key hkey
      simp only [Members.last?, Option.or_eq_none_iff, ite_eq_right_iff, reduceCtorEq,
        imp_false] at hkey
      rw [hnone key hkey.1, Members.last?_insert_of_ne (Ne.symm hkey.2)]

theorem toItems?_getElem? : ∀ {items kept : List Json}, toItems? (ofItems items) = some kept →
    ∀ {i : Nat} {v : Json}, items[i]? = some v →
      ∃ w, (ofJson v).toJson? = some w ∧ kept[i]? = some w
  | [], _, _, i, v, hv => by simp at hv
  | x :: xs, kept, h, i, v, hv => by
    obtain ⟨w, hw, hrest⟩ := Option.bind_eq_some_iff.mp h
    obtain ⟨ws, hws, rfl⟩ := Option.map_eq_some_iff.mp hrest
    cases i with
    | zero =>
      obtain rfl : x = v := by simpa using hv
      exact ⟨w, hw, rfl⟩
    | succ i => simpa using toItems?_getElem? hws (i := i) (by simpa using hv)

end Outline

/-- What stands at a place of a document is kept there, as far as it is kept at all. -/
theorem Json.at?_toJson? {j kept : Json} (h : (Outline.ofJson j).toJson? = some kept)
    {place : List Step} {v : Json} (hv : j.at? place = some v) :
    ∃ w, (Outline.ofJson v).toJson? = some w ∧ kept.at? place = some w := by
  induction place generalizing j kept with
  | nil =>
    obtain rfl := Option.some.inj hv
    exact ⟨kept, h, rfl⟩
  | cons step rest ih =>
    cases step with
    | key name =>
      obtain ⟨ms, u, rfl, hu, hrest⟩ := at?_key_eq_some hv
      obtain ⟨after, hafter, rfl⟩ : ∃ after, Outline.toMembers? [] (Outline.ofMembers ms) =
          some after ∧ .obj after = kept := by
        simpa [Outline.ofJson, Outline.toJson?] using h
      have hempty : Members.HasDistinctKeys [] := List.nodup_nil
      obtain ⟨x, hx, hlast⟩ := (Outline.toMembers?_last? hafter hempty).1 name u hu
      simpa [at?, hlast] using ih hx hrest
    | item index =>
      obtain ⟨items, u, rfl, hu, hrest⟩ := at?_item_eq_some hv
      obtain ⟨after, hafter, rfl⟩ : ∃ after, Outline.toItems? (Outline.ofItems items) =
          some after ∧ .arr after = kept := by
        simpa [Outline.ofJson, Outline.toJson?] using h
      obtain ⟨x, hx, hitem⟩ := Outline.toItems?_getElem? hafter hu
      simpa [at?, hitem] using ih hx hrest

end UplinkFlow
