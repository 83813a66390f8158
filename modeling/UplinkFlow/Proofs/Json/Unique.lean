import UplinkFlow.Proofs.Json.Pointer

/-!
# Documents whose keys are unique

* `Json.HasUniqueKeys` — no object in a document has a key twice.
* `Outline.hasUniqueKeys_of_toJson?` — **what a reader keeps has unique keys**, whatever it has met.
* `Outline.toJson?_ofJson` — a document with unique keys is kept as it is.
-/

set_option autoImplicit false

namespace UplinkFlow

variable {f : String → Option String}

@[simp] theorem Members.map_fst_rewrite (ms : Members) :
    (Members.rewrite f ms).map Prod.fst = ms.map Prod.fst := by
  induction ms with
  | nil => rfl
  | cons m ms ih =>
    obtain ⟨k, v⟩ := m
    rw [rewrite_cons, List.map_cons, ih, List.map_cons]

namespace Json

mutual
/-- No object in a document has a key twice. -/
def HasUniqueKeys : Json → Prop
  | .arr items => itemsHaveUniqueKeys items
  | .obj ms => (ms.map Prod.fst).Nodup ∧ valuesHaveUniqueKeys ms
  | .null | .bool _ | .num _ | .str _ => True
def itemsHaveUniqueKeys : List Json → Prop
  | [] => True
  | x :: xs => x.HasUniqueKeys ∧ itemsHaveUniqueKeys xs
def valuesHaveUniqueKeys : List (String × Json) → Prop
  | [] => True
  | (_, v) :: ms => v.HasUniqueKeys ∧ valuesHaveUniqueKeys ms
end

@[simp] theorem hasUniqueKeys_str (s : String) : (str s).HasUniqueKeys := by
  simp [HasUniqueKeys]

theorem hasUniqueKeys_arr {items : List Json} :
    (arr items).HasUniqueKeys ↔ ∀ x ∈ items, x.HasUniqueKeys := by
  rw [HasUniqueKeys]
  induction items with
  | nil => simp [itemsHaveUniqueKeys]
  | cons x xs ih => simp [itemsHaveUniqueKeys, ih]

theorem hasUniqueKeys_obj {ms : Members} :
    (obj ms).HasUniqueKeys ↔ ms.HasDistinctKeys ∧ ∀ m ∈ ms, m.2.HasUniqueKeys := by
  have hvalues (ms : Members) :
      valuesHaveUniqueKeys ms ↔ ∀ m ∈ ms, m.2.HasUniqueKeys := by
    induction ms with
    | nil => simp [valuesHaveUniqueKeys]
    | cons m ms ih => rw [valuesHaveUniqueKeys, ih, List.forall_mem_cons]
  rw [HasUniqueKeys, hvalues]
  rfl

mutual
theorem HasUniqueKeys.rewrite : ∀ {j : Json}, j.HasUniqueKeys → (j.rewrite f).HasUniqueKeys
  | .null, _ | .bool _, _ | .num _, _ => by simp [HasUniqueKeys]
  | .str s, _ => by simp
  | .arr items, h => by
    rw [rewrite_arr, HasUniqueKeys]
    exact itemsHaveUniqueKeys_rewrite h
  | .obj ms, h => by
    rw [rewrite_obj, HasUniqueKeys]
    exact ⟨Members.map_fst_rewrite ms ▸ h.1, valuesHaveUniqueKeys_rewrite h.2⟩
theorem itemsHaveUniqueKeys_rewrite : ∀ {items : List Json}, itemsHaveUniqueKeys items →
    itemsHaveUniqueKeys (rewriteItems f items)
  | [], _ => by simp [itemsHaveUniqueKeys]
  | x :: xs, h => by
    rw [rewriteItems_cons, itemsHaveUniqueKeys]
    exact ⟨h.1.rewrite, itemsHaveUniqueKeys_rewrite h.2⟩
theorem valuesHaveUniqueKeys_rewrite : ∀ {ms : List (String × Json)}, valuesHaveUniqueKeys ms →
    valuesHaveUniqueKeys (Members.rewrite f ms)
  | [], _ => by simp [valuesHaveUniqueKeys]
  | (k, v) :: ms, h => by
    rw [Members.rewrite_cons, valuesHaveUniqueKeys]
    exact ⟨h.1.rewrite, valuesHaveUniqueKeys_rewrite h.2⟩
end

end Json

namespace Members

variable {ms : Members}

theorem mem_insert {key : String} {value : Json} {m : String × Json}
    (h : m ∈ ms.insert key value) : m = (key, value) ∨ m ∈ ms := by
  induction ms with
  | nil => exact .inl (List.mem_singleton.mp h)
  | cons m' ms ih =>
    obtain ⟨k, v⟩ := m'
    by_cases hk : k = key
    · subst hk
      rw [insert, if_pos rfl] at h
      rcases List.mem_cons.mp h with rfl | h
      · exact .inl rfl
      · exact .inr (List.mem_cons_of_mem _ h)
    · rw [insert, if_neg hk] at h
      rcases List.mem_cons.mp h with rfl | h
      · exact .inr List.mem_cons_self
      · exact (ih h).imp_right (List.mem_cons_of_mem _)

theorem hasUniqueKeys_insert (h : (Json.obj ms).HasUniqueKeys) {value : Json}
    (hvalue : value.HasUniqueKeys) (key : String) :
    (Json.obj (ms.insert key value)).HasUniqueKeys := by
  rw [Json.hasUniqueKeys_obj] at h ⊢
  refine ⟨h.1.insert key value, fun m hm => ?_⟩
  rcases mem_insert hm with rfl | hm
  · exact hvalue
  · exact h.2 m hm

theorem hasUniqueKeys_nil : (Json.obj []).HasUniqueKeys :=
  ⟨List.nodup_nil, trivial⟩

/-- The key of a member is not among those before it, if all keys are unique. -/
theorem notMem_before {before : Members} {m : String × Json}
    (h : ((before ++ m :: ms).map Prod.fst).Nodup) : m.1 ∉ before.map Prod.fst := by
  rw [List.map_append, List.nodup_append] at h
  exact fun hm => h.2.2 m.1 hm m.1 List.mem_cons_self rfl

theorem insert_of_notMem {key : String} (h : key ∉ ms.map Prod.fst) (value : Json) :
    ms.insert key value = ms ++ [(key, value)] := by
  induction ms with
  | nil => rfl
  | cons m ms ih =>
    obtain ⟨k, v⟩ := m
    simp only [List.map_cons, List.mem_cons, not_or] at h
    rw [insert, if_neg (Ne.symm h.1), ih h.2, List.cons_append]

end Members

namespace Outline

mutual
theorem hasUniqueKeys_of_toJson? : ∀ {o : Outline} {j : Json}, o.toJson? = some j → j.HasUniqueKeys
  | .missing, _, h | .unreadable, _, h => by cases h
  | .null, _, h | .bool _, _, h | .num _, _, h | .str _, _, h => by
    cases h
    simp [Json.HasUniqueKeys]
  | .arr deep items whole, j, h => by
    rw [toJson?] at h
    split at h
    · cases h
    · obtain ⟨xs, hxs, rfl⟩ := Option.map_eq_some_iff.mp h
      exact Json.hasUniqueKeys_arr.mpr (hasUniqueKeys_of_toItems? hxs)
  | .obj deep members whole, j, h => by
    rw [toJson?] at h
    split at h
    · cases h
    · obtain ⟨ms, hms, rfl⟩ := Option.map_eq_some_iff.mp h
      exact hasUniqueKeys_of_toMembers? Members.hasUniqueKeys_nil hms
theorem hasUniqueKeys_of_toItems? : ∀ {items : List Outline} {xs : List Json},
    toItems? items = some xs → ∀ x ∈ xs, x.HasUniqueKeys
  | [], xs, h => by
    cases h
    nofun
  | item :: items, xs, h => by
    obtain ⟨x, hx, h⟩ := Option.bind_eq_some_iff.mp h
    obtain ⟨rest, hrest, rfl⟩ := Option.map_eq_some_iff.mp h
    intro y hy
    rcases List.mem_cons.mp hy with rfl | hy
    · exact hasUniqueKeys_of_toJson? hx
    · exact hasUniqueKeys_of_toItems? hrest y hy
theorem hasUniqueKeys_of_toMembers? : ∀ {members : List (Option String × Outline)}
    {before after : Members}, (Json.obj before).HasUniqueKeys →
    toMembers? before members = some after → (Json.obj after).HasUniqueKeys
  | [], before, after, hbefore, h => by
    cases h
    exact hbefore
  | (none, _) :: _, before, after, _, h => by cases h
  | (some k, o) :: members, before, after, hbefore, h => by
    obtain ⟨v, hv, h⟩ := Option.bind_eq_some_iff.mp h
    exact hasUniqueKeys_of_toMembers?
      (Members.hasUniqueKeys_insert hbefore (hasUniqueKeys_of_toJson? hv) k) h
end

mutual
/-- A document with unique keys is kept as it is. -/
theorem toJson?_ofJson : ∀ {j : Json}, j.HasUniqueKeys → (ofJson j).toJson? = some j
  | .null, _ | .bool _, _ | .num _, _ | .str _, _ => rfl
  | .arr items, h => by
    simp [ofJson, toJson?, toItems?_ofItems h]
  | .obj ms, h => by
    have hms : toMembers? [] (ofMembers ms) = some ([] ++ ms) :=
      toMembers?_ofMembers (by simpa using h.1) h.2
    simp [ofJson, toJson?, hms]
theorem toItems?_ofItems : ∀ {items : List Json}, Json.itemsHaveUniqueKeys items →
    toItems? (ofItems items) = some items
  | [], _ => rfl
  | x :: xs, h => by
    simp [ofItems, toItems?, toJson?_ofJson h.1, toItems?_ofItems h.2]
theorem toMembers?_ofMembers : ∀ {ms before : Members}, ((before ++ ms).map Prod.fst).Nodup →
    Json.valuesHaveUniqueKeys ms → toMembers? before (ofMembers ms) = some (before ++ ms)
  | [], before, _, _ => by simp [ofMembers, toMembers?]
  | (k, v) :: ms, before, hkeys, h => by
    have hnew : k ∉ before.map Prod.fst := Members.notMem_before hkeys
    rw [List.append_cons] at hkeys ⊢
    rw [← Members.insert_of_notMem hnew v] at hkeys ⊢
    rw [ofMembers, toMembers?, toJson?_ofJson h.1, Option.bind_some]
    exact toMembers?_ofMembers hkeys h.2
end

end Outline

/-- A document that is kept from a text has unique keys. -/
theorem Json.hasUniqueKeys_of_ofText? {text : String} {j : Json} (h : Json.ofText? text = some j) :
    j.HasUniqueKeys := by
  simp only [Json.ofText?] at h
  split at h
  · exact Outline.hasUniqueKeys_of_toJson? h
  · cases h

end UplinkFlow
