import UplinkFlow.Proofs.Json.Rewriting

/-!
# The strings of a document

* `Json.strings` — every string value of a document, at any depth, in order; keys are not among
  them.
* `Json.strings_rewrite` — rewriting maps them and keeps their number and order.
* `Json.rewrite_congr` — a rewritten document depends only on what becomes of them.
* `Json.rewrite_rewrite` — two rewritings one after the other are one.
* `Json.mapStrings_count` — **the number that comes with a rewritten document is that of its strings
  on which the function is defined.**
-/

set_option autoImplicit false

namespace UplinkFlow.Json

variable {f g : String → Option String}

mutual
/-- The string values in a document, in order. -/
def strings : Json → List String
  | .str s => [s]
  | .arr items => itemStrings items
  | .obj ms => memberStrings ms
  | .null | .bool _ | .num _ => []
def itemStrings : List Json → List String
  | [] => []
  | x :: xs => strings x ++ itemStrings xs
def memberStrings : List (String × Json) → List String
  | [] => []
  | (_, v) :: ms => strings v ++ memberStrings ms
end

/-! ## What is rewritten -/

mutual
theorem strings_rewrite : ∀ j : Json, (j.rewrite f).strings = j.strings.map (rewriteText f)
  | .null => rfl
  | .bool _ => rfl
  | .num _ => rfl
  | .str s => by rw [rewrite_str, strings, strings, List.map_singleton]
  | .arr items => by rw [rewrite_arr, strings, strings, itemStrings_rewrite items]
  | .obj ms => by rw [rewrite_obj, strings, strings, memberStrings_rewrite ms]
theorem itemStrings_rewrite : ∀ items : List Json,
    itemStrings (rewriteItems f items) = (itemStrings items).map (rewriteText f)
  | [] => rfl
  | x :: xs => by
    rw [rewriteItems_cons, itemStrings, itemStrings, strings_rewrite x, itemStrings_rewrite xs,
      List.map_append]
theorem memberStrings_rewrite : ∀ ms : List (String × Json),
    memberStrings (Members.rewrite f ms) = (memberStrings ms).map (rewriteText f)
  | [] => rfl
  | (_, v) :: ms => by
    rw [Members.rewrite_cons, memberStrings, memberStrings, strings_rewrite v,
      memberStrings_rewrite ms, List.map_append]
end

mutual
/-- Functions that agree on the strings of a document rewrite it alike. -/
theorem rewrite_congr : ∀ j : Json, (∀ s ∈ j.strings, rewriteText f s = rewriteText g s) →
    j.rewrite f = j.rewrite g
  | .null, _ => rfl
  | .bool _, _ => rfl
  | .num _, _ => rfl
  | .str s, h => by rw [rewrite_str, rewrite_str, h s (List.mem_singleton.mpr rfl)]
  | .arr items, h => by rw [rewrite_arr, rewrite_arr, rewriteItems_congr items h]
  | .obj ms, h => by rw [rewrite_obj, rewrite_obj, rewriteMembers_congr ms h]
theorem rewriteItems_congr : ∀ items : List Json,
    (∀ s ∈ itemStrings items, rewriteText f s = rewriteText g s) →
      rewriteItems f items = rewriteItems g items
  | [], _ => rfl
  | x :: xs, h => by
    obtain ⟨hx, hxs⟩ := List.forall_mem_append.mp h
    rw [rewriteItems_cons, rewriteItems_cons, rewrite_congr x hx, rewriteItems_congr xs hxs]
theorem rewriteMembers_congr : ∀ ms : List (String × Json),
    (∀ s ∈ memberStrings ms, rewriteText f s = rewriteText g s) →
      Members.rewrite f ms = Members.rewrite g ms
  | [], _ => rfl
  | (_, v) :: ms, h => by
    obtain ⟨hv, hms⟩ := List.forall_mem_append.mp h
    rw [Members.rewrite_cons, Members.rewrite_cons, rewrite_congr v hv, rewriteMembers_congr ms hms]
end

mutual
theorem rewrite_rewrite : ∀ j : Json,
    (j.rewrite f).rewrite g = j.rewrite fun s => some (rewriteText g (rewriteText f s))
  | .null => rfl
  | .bool _ => rfl
  | .num _ => rfl
  | .str s => by
    rw [rewrite_str, rewrite_str, rewrite_str]
    rfl
  | .arr items => by rw [rewrite_arr, rewrite_arr, rewrite_arr, rewriteItems_rewriteItems items]
  | .obj ms => by rw [rewrite_obj, rewrite_obj, rewrite_obj, rewriteMembers_rewrite ms]
theorem rewriteItems_rewriteItems : ∀ items : List Json,
    rewriteItems g (rewriteItems f items) =
      rewriteItems (fun s => some (rewriteText g (rewriteText f s))) items
  | [] => rfl
  | x :: xs => by
    rw [rewriteItems_cons, rewriteItems_cons, rewriteItems_cons, rewrite_rewrite x,
      rewriteItems_rewriteItems xs]
theorem rewriteMembers_rewrite : ∀ ms : List (String × Json),
    Members.rewrite g (Members.rewrite f ms) =
      Members.rewrite (fun s => some (rewriteText g (rewriteText f s))) ms
  | [] => rfl
  | (_, v) :: ms => by
    rw [Members.rewrite_cons, Members.rewrite_cons, Members.rewrite_cons, rewrite_rewrite v,
      rewriteMembers_rewrite ms]
end

/-! ## What is counted -/

mutual
/-- **Each string on which the function is defined is counted**, wherever it stands. -/
theorem mapStrings_count : ∀ j : Json,
    (j.mapStrings f).2 = j.strings.countP fun s => (f s).isSome
  | .null => rfl
  | .bool _ => rfl
  | .num _ => rfl
  | .str s => by
    rw [mapStrings, strings, List.countP_singleton]
    cases f s <;> rfl
  | .arr items => mapStringItems_count items
  | .obj ms => mapStringMembers_count ms
theorem mapStringItems_count : ∀ items : List Json,
    (mapStringItems f items).2 = (itemStrings items).countP fun s => (f s).isSome
  | [] => rfl
  | x :: xs => by
    rw [itemStrings, List.countP_append, ← mapStrings_count x, ← mapStringItems_count xs]
    rfl
theorem mapStringMembers_count : ∀ ms : List (String × Json),
    (mapStringMembers f ms).2 = (memberStrings ms).countP fun s => (f s).isSome
  | [] => rfl
  | (_, v) :: ms => by
    rw [memberStrings, List.countP_append, ← mapStrings_count v, ← mapStringMembers_count ms]
    rfl
end

end UplinkFlow.Json
