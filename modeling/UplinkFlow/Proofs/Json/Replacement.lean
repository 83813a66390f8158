import Mathlib.Data.List.Forall2
import UplinkFlow.Proofs.Json.Unique

/-!
# A document beside the same document with strings replaced

* `Json.Replaced` — two documents that differ in nothing but their string values, each of which is
  replaced where a function is defined.
* `Members.Replaced` — the same for the members of an object.
* `Json.replaced_iff`, `Members.replaced_iff` — **rewriting replaces every string value and changes
  nothing else**, and there is no other document of which that could be said.
-/

set_option autoImplicit false

namespace UplinkFlow

variable {f : String → Option String}

/-- A document, and what becomes of it when its string values are replaced.

* `moved`, `kept` — a string is replaced where `f` is defined, and stays otherwise;
* `arr`, `obj` — the values in a container stay in order, and none is added or lost; the keys of an
  object stay as they are. -/
inductive Json.Replaced (f : String → Option String) : Json → Json → Prop where
  | null : Replaced f .null .null
  | bool (b : Bool) : Replaced f (.bool b) (.bool b)
  | num (n : Number) : Replaced f (.num n) (.num n)
  | moved {s s' : String} (h : f s = some s') : Replaced f (.str s) (.str s')
  | kept {s : String} (h : f s = none) : Replaced f (.str s) (.str s)
  | arr {items items' : List Json} (values : List.Forall₂ (Replaced f) items items') :
      Replaced f (.arr items) (.arr items')
  | obj {ms ms' : List (String × Json)} (keys : ms'.map Prod.fst = ms.map Prod.fst)
      (values : List.Forall₂ (Replaced f) (ms.map Prod.snd) (ms'.map Prod.snd)) :
      Replaced f (.obj ms) (.obj ms')

/-- Members, and what becomes of them when the string values in them are replaced. -/
structure Members.Replaced (f : String → Option String) (ms ms' : Members) : Prop where
  keys : ms'.map Prod.fst = ms.map Prod.fst
  values : List.Forall₂ (Json.Replaced f) (ms.map Prod.snd) (ms'.map Prod.snd)

/-! ## Rewriting -/

mutual
theorem Json.replaced_rewrite : ∀ j : Json, j.Replaced f (j.rewrite f)
  | .null => .null
  | .bool b => .bool b
  | .num n => .num n
  | .str s => by
    rw [rewrite_str, rewriteText]
    cases h : f s with
    | none => exact .kept h
    | some s' => exact .moved h
  | .arr items => .arr (replaced_rewriteItems items)
  | .obj ms => .obj (Members.map_fst_rewrite ms) (replaced_rewriteMembers ms)
theorem Json.replaced_rewriteItems :
    ∀ items : List Json, List.Forall₂ (Json.Replaced f) items (rewriteItems f items)
  | [] => .nil
  | x :: xs => .cons (replaced_rewrite x) (replaced_rewriteItems xs)
theorem Json.replaced_rewriteMembers : ∀ ms : List (String × Json),
    List.Forall₂ (Json.Replaced f) (ms.map Prod.snd) ((Members.rewrite f ms).map Prod.snd)
  | [] => .nil
  | (_, v) :: ms => .cons (replaced_rewrite v) (replaced_rewriteMembers ms)
end

/-! ## Nothing else -/

mutual
theorem Json.Replaced.eq_rewrite : ∀ {j j' : Json}, j.Replaced f j' → j' = j.rewrite f
  | .null, _, .null => rfl
  | .bool _, _, .bool _ => rfl
  | .num _, _, .num _ => rfl
  | .str _, _, .moved h => by rw [rewrite_str, rewriteText, h, Option.getD_some]
  | .str _, _, .kept h => by rw [rewrite_str, rewriteText, h, Option.getD_none]
  | .arr _, _, .arr values => congrArg Json.arr (eq_rewriteItems values)
  | .obj _, _, .obj keys values => congrArg Json.obj (eq_rewriteMembers keys values)
theorem Json.Replaced.eq_rewriteItems : ∀ {items items' : List Json},
    List.Forall₂ (Json.Replaced f) items items' → items' = rewriteItems f items
  | [], _, .nil => rfl
  | _ :: _, _, .cons x xs => by rw [rewriteItems_cons, ← x.eq_rewrite, ← eq_rewriteItems xs]
theorem Json.Replaced.eq_rewriteMembers : ∀ {ms ms' : List (String × Json)},
    ms'.map Prod.fst = ms.map Prod.fst →
      List.Forall₂ (Json.Replaced f) (ms.map Prod.snd) (ms'.map Prod.snd) →
        ms' = Members.rewrite f ms
  | [], [], _, _ => rfl
  | (k, v) :: ms, (k', v') :: ms', keys, .cons value values => by
    have hkeys : k' = k ∧ ms'.map Prod.fst = ms.map Prod.fst := by simpa using keys
    rw [Members.rewrite_cons, ← value.eq_rewrite, ← eq_rewriteMembers hkeys.2 values, hkeys.1]
end

/-- **Rewriting replaces every string value and changes nothing else.** -/
theorem Json.replaced_iff {j j' : Json} : j.Replaced f j' ↔ j' = j.rewrite f := by
  constructor
  · intro h
    exact h.eq_rewrite
  · rintro rfl
    exact replaced_rewrite j

theorem Members.replaced_iff {ms ms' : Members} : ms.Replaced f ms' ↔ ms' = ms.rewrite f := by
  constructor
  · intro h
    exact Json.Replaced.eq_rewriteMembers h.keys h.values
  · rintro rfl
    exact ⟨map_fst_rewrite ms, Json.replaced_rewriteMembers ms⟩

end UplinkFlow
