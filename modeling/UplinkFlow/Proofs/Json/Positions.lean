import Mathlib.Data.List.Nodup
import UplinkFlow.Proofs.Json.Pointer
import UplinkFlow.Proofs.Json.Strings

/-!
# Positions in a document

Unlike the keys of a place, the indices of a position tell the members of an object apart even if
two of them have one key.

* `Json.below?` — what stands at a position, which is given by the indices that lead to it.
* `Json.placedStrings` — every string value of a document with its position, in order;
  `mem_placedStrings_iff`, `nodup_placedStrings` — **all of them are listed, each position once.**
* `Json.below?_rewrite` — rewriting the strings of a document rewrites what stands at each position.
-/

set_option autoImplicit false

namespace UplinkFlow.Json

variable {f : String → Option String} {i first : Nat} {position : List Nat} {s : String}

/-- The values in a container, in order. -/
def children : Json → List Json
  | .arr items => items
  | .obj ms => ms.map Prod.snd
  | .null | .bool _ | .num _ | .str _ => []

/-- What stands at a position. -/
def below? : List Nat → Json → Option Json
  | [], j => some j
  | i :: rest, j => (j.children[i]?).bind (below? rest)

/-- A string with its position seen from outside the container's value with an index. -/
def placedIn (i : Nat) (placed : List Nat × String) : List Nat × String :=
  (i :: placed.1, placed.2)

mutual
/-- The string values in a document with their positions, in order. -/
def placedStrings : Json → List (List Nat × String)
  | .str s => [([], s)]
  | .arr items => placedItems 0 items
  | .obj ms => placedMembers 0 ms
  | .null | .bool _ | .num _ => []
/-- The string values in array elements, the first of which has an index. -/
def placedItems (first : Nat) : List Json → List (List Nat × String)
  | [] => []
  | x :: xs => (placedStrings x).map (placedIn first) ++ placedItems (first + 1) xs
/-- The string values in the values of members, the first of which has an index. -/
def placedMembers (first : Nat) : List (String × Json) → List (List Nat × String)
  | [] => []
  | (_, v) :: ms => (placedStrings v).map (placedIn first) ++ placedMembers (first + 1) ms
end

theorem placedMembers_eq (ms : List (String × Json)) :
    placedMembers first ms = placedItems first (ms.map Prod.snd) := by
  induction ms generalizing first with
  | nil => rfl
  | cons m ms ih => rw [placedMembers, ih, List.map_cons, placedItems]

/-- A string in array elements is a string in the element with the index that its position begins
with. -/
theorem mem_placedItems_iff {items : List Json} :
    (position, s) ∈ placedItems first items ↔ ∃ i rest x, position = (first + i) :: rest ∧
      items[i]? = some x ∧ (rest, s) ∈ placedStrings x := by
  induction items generalizing first with
  | nil => simp [placedItems]
  | cons x xs ih =>
    rw [placedItems, List.mem_append, List.mem_map, ih]
    constructor
    · rintro (⟨⟨rest, t⟩, hrest, heq⟩ | ⟨i, rest, y, rfl, hy, hrest⟩)
      · obtain ⟨rfl, rfl⟩ := Prod.mk.inj heq
        exact ⟨0, rest, x, rfl, rfl, hrest⟩
      · exact ⟨i + 1, rest, y, by rw [Nat.add_right_comm, Nat.add_assoc], by simpa using hy, hrest⟩
    · rintro ⟨i, rest, y, rfl, hy, hrest⟩
      cases i with
      | zero =>
        obtain rfl : x = y := by simpa using hy
        exact .inl ⟨(rest, s), hrest, rfl⟩
      | succ i =>
        exact .inr ⟨i, rest, y, by rw [Nat.add_right_comm, Nat.add_assoc], by simpa using hy, hrest⟩

/-- A document is a string itself, or its strings are those of its values. -/
theorem placedStrings_eq (j : Json) :
    j.placedStrings = (j.asString?.map fun s => ([], s)).toList ++ placedItems 0 j.children := by
  cases j with
  | obj ms => exact placedMembers_eq ms
  | _ => rfl

/-- **Exactly the strings of a document are listed with their positions.** -/
theorem mem_placedStrings_iff {j : Json} :
    (position, s) ∈ j.placedStrings ↔ j.below? position = some (.str s) := by
  induction position generalizing j with
  | nil =>
    rw [placedStrings_eq, List.mem_append, mem_placedItems_iff]
    cases j <;> simp [asString?, below?, eq_comm]
  | cons i rest ih =>
    rw [placedStrings_eq, List.mem_append, mem_placedItems_iff, below?, Option.bind_eq_some_iff]
    constructor
    · rintro (hself | ⟨k, rest', x, heq, hx, hmem⟩)
      · simp at hself
      · rw [Nat.zero_add] at heq
        obtain ⟨rfl, rfl⟩ := List.cons.inj heq
        exact ⟨x, hx, ih.mp hmem⟩
    · rintro ⟨x, hx, hbelow⟩
      exact .inr ⟨i, rest, x, by rw [Nat.zero_add], hx, ih.mpr hbelow⟩

/-- The positions in array elements that follow begin with later indices. -/
theorem first_le_of_mem_placedItems {items : List Json}
    (h : (i :: position, s) ∈ placedItems first items) : first ≤ i := by
  obtain ⟨k, rest, x, heq, -, -⟩ := mem_placedItems_iff.mp h
  obtain ⟨rfl, -⟩ := List.cons.inj heq
  exact Nat.le_add_right first k

theorem map_fst_placedIn (placed : List (List Nat × String)) :
    (placed.map (placedIn i)).map Prod.fst = (placed.map Prod.fst).map (i :: ·) := by
  rw [List.map_map, List.map_map]
  rfl

/-- Positions in one value and in those that follow are different. -/
theorem disjoint_placedItems (x : Json) (xs : List Json) :
    (((x.placedStrings).map (placedIn first)).map Prod.fst).Disjoint
      ((placedItems (first + 1) xs).map Prod.fst) := by
  intro position hfront hlater
  rw [map_fst_placedIn] at hfront
  obtain ⟨rest, -, rfl⟩ := List.mem_map.mp hfront
  obtain ⟨⟨-, s⟩, hmem, rfl⟩ := List.mem_map.mp hlater
  exact absurd (first_le_of_mem_placedItems hmem) (Nat.not_succ_le_self first)

mutual
/-- **No position is listed twice.** -/
theorem nodup_placedStrings : ∀ j : Json, (j.placedStrings.map Prod.fst).Nodup
  | .null => List.nodup_nil
  | .bool _ => List.nodup_nil
  | .num _ => List.nodup_nil
  | .str _ => List.nodup_singleton _
  | .arr items => nodup_placedItems 0 items
  | .obj ms => nodup_placedMembers 0 ms
theorem nodup_placedItems : ∀ (first : Nat) (items : List Json),
    ((placedItems first items).map Prod.fst).Nodup
  | _, [] => List.nodup_nil
  | first, x :: xs => by
    have hx : ((x.placedStrings.map (placedIn first)).map Prod.fst).Nodup := by
      rw [map_fst_placedIn]
      exact (nodup_placedStrings x).map (List.cons_injective (a := first))
    rw [placedItems, List.map_append]
    exact hx.append (nodup_placedItems (first + 1) xs) (disjoint_placedItems x xs)
theorem nodup_placedMembers : ∀ (first : Nat) (ms : List (String × Json)),
    ((placedMembers first ms).map Prod.fst).Nodup
  | _, [] => List.nodup_nil
  | first, (_, v) :: ms => by
    have hv : ((v.placedStrings.map (placedIn first)).map Prod.fst).Nodup := by
      rw [map_fst_placedIn]
      exact (nodup_placedStrings v).map (List.cons_injective (a := first))
    rw [placedMembers, List.map_append]
    refine hv.append (nodup_placedMembers (first + 1) ms) ?_
    rw [placedMembers_eq]
    exact disjoint_placedItems v (ms.map Prod.snd)
end

/-! ## The strings without their positions -/

mutual
/-- Without their positions the strings are listed as before. -/
theorem map_snd_placedStrings : ∀ j : Json, j.placedStrings.map Prod.snd = j.strings
  | .null => rfl
  | .bool _ => rfl
  | .num _ => rfl
  | .str _ => rfl
  | .arr items => map_snd_placedItems 0 items
  | .obj ms => map_snd_placedMembers 0 ms
theorem map_snd_placedItems : ∀ (first : Nat) (items : List Json),
    (placedItems first items).map Prod.snd = itemStrings items
  | _, [] => rfl
  | first, x :: xs => by
    rw [placedItems, itemStrings, List.map_append, List.map_map, map_snd_placedItems (first + 1) xs,
      ← map_snd_placedStrings x]
    rfl
theorem map_snd_placedMembers : ∀ (first : Nat) (ms : List (String × Json)),
    (placedMembers first ms).map Prod.snd = memberStrings ms
  | _, [] => rfl
  | first, (_, v) :: ms => by
    rw [placedMembers, memberStrings, List.map_append, List.map_map,
      map_snd_placedMembers (first + 1) ms, ← map_snd_placedStrings v]
    rfl
end

/-! ## Rewriting -/

theorem children_rewrite (j : Json) : (j.rewrite f).children = j.children.map (rewrite f) := by
  cases j with
  | arr items => exact rewriteItems_eq_map items
  | obj ms =>
    rw [rewrite_obj, children, children]
    induction ms with
    | nil => rfl
    | cons m ms ih => rw [Members.rewrite_cons, List.map_cons, List.map_cons, List.map_cons, ih]
  | str s => rw [rewrite_str]; rfl
  | _ => rfl

theorem below?_rewrite (position : List Nat) (j : Json) :
    (j.rewrite f).below? position = (j.below? position).map (rewrite f) := by
  induction position generalizing j with
  | nil => rfl
  | cons i rest ih =>
    rw [below?, below?, children_rewrite, List.getElem?_map]
    cases j.children[i]? with
    | none => rfl
    | some x => exact ih x

theorem rewrite_eq_str_iff {j : Json} {t : String} :
    j.rewrite f = .str t ↔ ∃ s, j = .str s ∧ t = rewriteText f s := by
  cases j <;> simp [eq_comm]

end UplinkFlow.Json
