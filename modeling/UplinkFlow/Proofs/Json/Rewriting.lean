import UplinkFlow.Json.Reader
import UplinkFlow.NodeId.Shift

/-!
# Rewriting the strings of a document before it is read

* `Json.rewrite` — a document with its string values replaced where a function is defined.
* `toJson?_rewrite` — what a reader keeps of a rewritten document is the rewritten form of what it
  keeps of the document.
* `members_rewrite` — a record read from rewritten members is the rewritten record, if each of its
  slots is compatible with rewriting.
-/

set_option autoImplicit false

namespace UplinkFlow

variable {f : String → Option String}

/-! ## Documents -/

namespace Json

/-- A string, replaced where the function is defined. -/
def rewriteText (f : String → Option String) (s : String) : String := (f s).getD s

/-- A document with its string values replaced. -/
def rewrite (f : String → Option String) (j : Json) : Json := (j.mapStrings f).1

def rewriteItems (f : String → Option String) (items : List Json) : List Json :=
  (mapStringItems f items).1

@[simp] theorem rewrite_null : rewrite f .null = .null := rfl
@[simp] theorem rewrite_bool (b : Bool) : rewrite f (.bool b) = .bool b := rfl
@[simp] theorem rewrite_num (n : Number) : rewrite f (.num n) = .num n := rfl

@[simp] theorem rewrite_str (s : String) : rewrite f (.str s) = .str (rewriteText f s) := by
  simp only [rewrite, mapStrings, rewriteText]
  cases f s <;> rfl

@[simp] theorem rewrite_arr (items : List Json) :
    rewrite f (.arr items) = .arr (rewriteItems f items) := rfl

@[simp] theorem rewriteItems_nil : rewriteItems f [] = [] := rfl

@[simp] theorem rewriteItems_cons (x : Json) (xs : List Json) :
    rewriteItems f (x :: xs) = rewrite f x :: rewriteItems f xs := rfl

end Json

/-- Members with the string values in them replaced; keys stay. -/
def Members.rewrite (f : String → Option String) (ms : Members) : Members :=
  (Json.mapStringMembers f ms).1

namespace Members

@[simp] theorem rewrite_nil : rewrite f [] = [] := rfl

@[simp] theorem rewrite_cons (k : String) (v : Json) (ms : Members) :
    rewrite f ((k, v) :: ms) = (k, v.rewrite f) :: rewrite f ms := rfl

@[simp] theorem rewrite_insert (k : String) (v : Json) (ms : Members) :
    rewrite f (ms.insert k v) = (rewrite f ms).insert k (v.rewrite f) := by
  induction ms with
  | nil => rfl
  | cons m ms ih =>
    obtain ⟨k', v'⟩ := m
    by_cases h : k' = k
    · simp [insert, h]
    · simp [insert, h, ih]

end Members

@[simp] theorem Json.rewrite_obj (ms : List (String × Json)) :
    Json.rewrite f (.obj ms) = .obj (Members.rewrite f ms) := rfl

/-! ## What a reader keeps -/

namespace Outline

mutual
theorem toJson?_rewrite : ∀ j : Json,
    (ofJson (j.rewrite f)).toJson? = (ofJson j).toJson?.map (Json.rewrite f)
  | .null => rfl
  | .bool _ => rfl
  | .num _ => rfl
  | .str s => by simp [ofJson, toJson?]
  | .arr items => by
    simp only [Json.rewrite_arr, ofJson, toJson?, Bool.not_true, Bool.or_self, Bool.false_eq_true,
      if_false, toItems?_rewrite items, Option.map_map]
    rfl
  | .obj ms => by
    simp only [Json.rewrite_obj, ofJson, toJson?, Bool.not_true, Bool.or_self, Bool.false_eq_true,
      if_false, Option.map_map]
    rw [show ([] : Members) = Members.rewrite f [] from rfl, toMembers?_rewrite ms, Option.map_map]
    rfl
theorem toItems?_rewrite : ∀ items : List Json,
    toItems? (ofItems (Json.rewriteItems f items)) =
      (toItems? (ofItems items)).map (Json.rewriteItems f)
  | [] => rfl
  | x :: xs => by
    simp only [Json.rewriteItems_cons, ofItems, toItems?, toJson?_rewrite x, toItems?_rewrite xs]
    cases (ofJson x).toJson? <;> cases toItems? (ofItems xs) <;> simp
theorem toMembers?_rewrite : ∀ (ms : List (String × Json)) (before : Members),
    toMembers? (before.rewrite f) (ofMembers (Members.rewrite f ms)) =
      (toMembers? before (ofMembers ms)).map (Members.rewrite f)
  | [], _ => rfl
  | (k, v) :: ms, before => by
    simp only [Members.rewrite_cons, ofMembers, toMembers?, toJson?_rewrite v]
    cases hv : (ofJson v).toJson? with
    | none => rfl
    | some w =>
      have ih := toMembers?_rewrite ms (before.insert k w)
      rw [Members.rewrite_insert] at ih
      simpa using ih
end

end Outline

/-! ## Reading -/

namespace Reader

variable {σ : Type}

theorem string_rewrite (j : Json) :
    string (Outline.ofJson (j.rewrite f)) =
      (string (Outline.ofJson j)).map (Json.rewriteText f) := by
  cases j <;> simp [Outline.ofJson, string, refuse, Except.map]

theorem optional_string_rewrite (j : Json) :
    string.optional (Outline.ofJson (j.rewrite f)) =
      (string.optional (Outline.ofJson j)).map (Option.map (Json.rewriteText f)) := by
  cases j <;> simp [Outline.ofJson, optional, string, refuse, Except.map]

theorem json_rewrite (j : Json) :
    json (Outline.ofJson (j.rewrite f)) = (json (Outline.ofJson j)).map (Json.rewrite f) := by
  simp only [json, Outline.toJson?_rewrite]
  cases (Outline.ofJson j).toJson? <;> rfl

/-- A slot that takes a rewritten value to the rewritten record; `g` rewrites records. -/
structure Slot.Rewrites (slot : Slot σ) (f : String → Option String) (g : σ → σ) : Prop where
  isFilled : ∀ s, slot.isFilled (g s) = slot.isFilled s
  fill : ∀ j s, slot.fill (Outline.ofJson (j.rewrite f)) (g s) =
    (slot.fill (Outline.ofJson j) s).map g

theorem members_rewrite {slots : List (Slot σ)}
    {other : String → Outline → σ → Except ReadFault σ} {g : σ → σ}
    (hslots : ∀ slot ∈ slots, slot.Rewrites f g)
    (hother : ∀ k j s, other k (Outline.ofJson (j.rewrite f)) (g s) =
      (other k (Outline.ofJson j) s).map g) (ms : List (String × Json)) (s : σ) :
    members slots other (Outline.ofMembers (Members.rewrite f ms)) (g s) =
      (members slots other (Outline.ofMembers ms) s).map g := by
  induction ms generalizing s with
  | nil => rfl
  | cons m ms ih =>
    obtain ⟨k, v⟩ := m
    simp only [Members.rewrite_cons, Outline.ofMembers, members]
    cases hfind : slots.find? fun slot => slot.key == k with
    | none =>
      simp only [hother, bind, Except.bind]
      cases other k (Outline.ofJson v) s with
      | error e => rfl
      | ok s => exact ih s
    | some slot =>
      have hslot := hslots slot (List.mem_of_find?_eq_some hfind)
      simp only [hslot.isFilled, hslot.fill, bind, Except.bind]
      cases slot.isFilled s with
      | true => rfl
      | false =>
        cases slot.fill (Outline.ofJson v) s with
        | error e => rfl
        | ok s => exact ih s

theorem list_rewrite {α : Type} {reader : Reader α} {g : α → α}
    (hreader : ∀ j : Json, reader (Outline.ofJson (j.rewrite f)) =
      (reader (Outline.ofJson j)).map g) (items : List Json) :
    (Outline.ofItems (Json.rewriteItems f items)).mapM reader =
      ((Outline.ofItems items).mapM reader).map (List.map g) := by
  induction items with
  | nil => rfl
  | cons x xs ih =>
    simp only [Json.rewriteItems_cons, Outline.ofItems, List.mapM_cons, hreader, ih]
    cases reader (Outline.ofJson x) with
    | error e => rfl
    | ok a => cases (Outline.ofItems xs).mapM reader <;> rfl

end Reader

end UplinkFlow
