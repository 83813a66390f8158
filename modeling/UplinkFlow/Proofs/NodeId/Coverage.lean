import Mathlib.Data.Set.Card
import UplinkFlow.Proofs.Json.Positions
import UplinkFlow.Proofs.Json.Replacement

/-!
# Every string once

* `Json.movedPositions` — where the strings of a document stand on which a function is defined;
  `Json.mapStrings_eq_ncard` — the number that comes with a rewritten document is that of these
  positions.
* `Json.shiftNodeIds_covers` — **a shift visits every string value of a document once, and nothing
  else.**
-/

set_option autoImplicit false

namespace UplinkFlow.Json

variable {f : String → Option String} {j : Json}

/-- The positions of the strings on which a function is defined. -/
def movedPositions (f : String → Option String) (j : Json) : Set (List Nat) :=
  {position | ∃ s t, j.below? position = some (.str s) ∧ f s = some t}

/-- These positions in order. -/
def movedList (f : String → Option String) (j : Json) : List (List Nat) :=
  (j.placedStrings.filter fun placed => (f placed.2).isSome).map Prod.fst

theorem mem_movedList_iff {position : List Nat} :
    position ∈ j.movedList f ↔ position ∈ j.movedPositions f := by
  constructor
  · intro h
    obtain ⟨⟨_, s⟩, hmem, rfl⟩ := List.mem_map.mp h
    obtain ⟨hplaced, hsome⟩ := List.mem_filter.mp hmem
    obtain ⟨t, ht⟩ := Option.isSome_iff_exists.mp hsome
    exact ⟨s, t, mem_placedStrings_iff.mp hplaced, ht⟩
  · rintro ⟨s, t, hs, ht⟩
    have hplaced : (position, s) ∈ j.placedStrings := mem_placedStrings_iff.mpr hs
    exact List.mem_map.mpr ⟨_, List.mem_filter.mpr ⟨hplaced, by simp [ht]⟩, rfl⟩

theorem nodup_movedList : (j.movedList f).Nodup :=
  (List.filter_sublist.map Prod.fst).nodup (nodup_placedStrings j)

/-- **What is counted are these positions.** -/
theorem mapStrings_eq_ncard : (j.mapStrings f).2 = (j.movedPositions f).ncard := by
  have hset : j.movedPositions f = ((j.movedList f).toFinset : Set (List Nat)) := by
    ext position
    rw [List.coe_toFinset, Set.mem_ofPred_eq, mem_movedList_iff]
  have hlength : (j.movedList f).length = j.strings.countP fun s => (f s).isSome := by
    rw [movedList, List.length_map, ← List.countP_eq_length_filter, ← map_snd_placedStrings,
      List.countP_map]
    rfl
  rw [hset, Set.ncard_coe_finset, List.toFinset_card_of_nodup nodup_movedList, hlength,
    mapStrings_count]

/-- **A shift visits every string value of a document once, and nothing else.**  The document keeps
its arrays and objects with all their values and keys in order, its numbers and its other values;
at every position where a string stood stands what the offset makes of it, or the same string if
that is not defined; and what is counted are the positions where it is defined. -/
theorem shiftNodeIds_covers (document : Json) (p : NodeIdPattern) (n : Nat) :
    document.Replaced (p.shift? n) (document.shiftNodeIds p n).1 ∧
    (∀ position t, (document.shiftNodeIds p n).1.below? position = some (.str t) ↔
      ∃ s, document.below? position = some (.str s) ∧ t = (p.shift? n s).getD s) ∧
    (document.shiftNodeIds p n).2 = (document.movedPositions (p.shift? n)).ncard := by
  refine ⟨replaced_rewrite document, fun position t => ?_, mapStrings_eq_ncard⟩
  show (document.rewrite (p.shift? n)).below? position = _ ↔ _
  rw [below?_rewrite, Option.map_eq_some_iff]
  constructor
  · rintro ⟨part, hpart, hmoved⟩
    obtain ⟨s, rfl, rfl⟩ := rewrite_eq_str_iff.mp hmoved
    exact ⟨s, hpart, rfl⟩
  · rintro ⟨s, hs, rfl⟩
    exact ⟨.str s, hs, rewrite_str s⟩

/-- A key that is written like an identifier stays, and so does a string beside it that is none. -/
example : (Json.obj [("aaaaaaaa.000009", .str "key stays"),
      ("wires", .arr [.arr [.str "aaaaaaaa.00000f"], .arr []])]).shiftNodeIds .legacy 1 =
    (.obj [("aaaaaaaa.000009", .str "key stays"),
      ("wires", .arr [.arr [.str "aaaaaaaa.000010"], .arr []])], 1) := by
  have hmoved : NodeIdPattern.legacy.shift? 1 "aaaaaaaa.00000f" = some "aaaaaaaa.000010" := by
    decide +kernel
  have hkept : NodeIdPattern.legacy.shift? 1 "key stays" = none := by decide +kernel
  simp [shiftNodeIds, mapStrings, mapStringItems, mapStringMembers, hmoved, hkept]

end UplinkFlow.Json
