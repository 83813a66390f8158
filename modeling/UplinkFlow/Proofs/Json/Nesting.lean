import UplinkFlow.Proofs.Json.Unique

/-!
# How deep documents are nested

* `Json.nesting` — the number of containers that are nested in each other.
* `Outline.FitsAt` — a container that a reader follows lies inside fewer than `maxDepth` others.
* `Outline.Progress.Fits.step`, `Outline.Progress.Fits.foldl` — every token keeps to that, and so do
  all tokens of a text.
* `Json.nesting_le_of_ofText?` — **a document that is kept from a text is nested no deeper than a
  reader follows.**
-/

set_option autoImplicit false

namespace UplinkFlow

open Json (Token)
open Outline (maxDepth)

/-! ## Documents -/

namespace Json

mutual
/-- The number of containers that are nested in each other. -/
def nesting : Json → Nat
  | .arr items => itemNesting items + 1
  | .obj ms => memberNesting ms + 1
  | .null | .bool _ | .num _ | .str _ => 0
def itemNesting : List Json → Nat
  | [] => 0
  | x :: xs => max (nesting x) (itemNesting xs)
def memberNesting : List (String × Json) → Nat
  | [] => 0
  | (_, v) :: ms => max (nesting v) (memberNesting ms)
end

theorem itemNesting_le {items : List Json} {n : Nat} :
    itemNesting items ≤ n ↔ ∀ x ∈ items, x.nesting ≤ n := by
  induction items with
  | nil => simp [itemNesting]
  | cons x xs ih => rw [itemNesting, Nat.max_le, ih, List.forall_mem_cons]

theorem memberNesting_le {ms : Members} {n : Nat} :
    memberNesting ms ≤ n ↔ ∀ m ∈ ms, m.2.nesting ≤ n := by
  induction ms with
  | nil => simp [memberNesting]
  | cons m ms ih => rw [memberNesting, Nat.max_le, ih, List.forall_mem_cons]

theorem nesting_arr_le {items : List Json} {n : Nat} :
    (arr items).nesting ≤ n + 1 ↔ ∀ x ∈ items, x.nesting ≤ n := by
  rw [nesting, Nat.add_le_add_iff_right, itemNesting_le]

theorem nesting_obj_le {ms : Members} {n : Nat} :
    (obj ms).nesting ≤ n + 1 ↔ ∀ m ∈ ms, m.2.nesting ≤ n := by
  rw [nesting, Nat.add_le_add_iff_right, memberNesting_le]

mutual
/-- Strings in the place of others leave the containers alone. -/
theorem nesting_rewrite (f : String → Option String) : ∀ j : Json, (j.rewrite f).nesting = j.nesting
  | .null | .bool _ | .num _ => rfl
  | .str s => by simp [nesting]
  | .arr items => by rw [rewrite_arr, nesting, nesting, itemNesting_rewriteItems f items]
  | .obj ms => by rw [rewrite_obj, nesting, nesting, memberNesting_rewrite f ms]
theorem itemNesting_rewriteItems (f : String → Option String) : ∀ items : List Json,
    itemNesting (rewriteItems f items) = itemNesting items
  | [] => rfl
  | x :: xs => by
    rw [rewriteItems_cons, itemNesting, itemNesting, nesting_rewrite f x,
      itemNesting_rewriteItems f xs]
theorem memberNesting_rewrite (f : String → Option String) : ∀ ms : List (String × Json),
    memberNesting (Members.rewrite f ms) = memberNesting ms
  | [] => rfl
  | (k, v) :: ms => by
    rw [Members.rewrite_cons, memberNesting, memberNesting, nesting_rewrite f v,
      memberNesting_rewrite f ms]
end

end Json

/-! ## Outlines -/

namespace Outline

mutual
/-- Whether every container of an outline that lies inside `depth` others is marked as deep if a
reader does not follow it.  A member without a key has no value. -/
def FitsAt (depth : Nat) : Outline → Prop
  | .arr deep items _ => (deep = false → depth < maxDepth) ∧ ItemsFitAt (depth + 1) items
  | .obj deep members _ => (deep = false → depth < maxDepth) ∧ MembersFitAt (depth + 1) members
  | _ => True
def ItemsFitAt (depth : Nat) : List Outline → Prop
  | [] => True
  | x :: xs => FitsAt depth x ∧ ItemsFitAt depth xs
def MembersFitAt (depth : Nat) : List (Option String × Outline) → Prop
  | [] => True
  | (key, v) :: ms => (key.isSome → FitsAt depth v) ∧ MembersFitAt depth ms
end

theorem itemsFitAt_iff {depth : Nat} {items : List Outline} :
    ItemsFitAt depth items ↔ ∀ x ∈ items, x.FitsAt depth := by
  induction items with
  | nil => simp [ItemsFitAt]
  | cons x xs ih => rw [ItemsFitAt, ih, List.forall_mem_cons]

theorem membersFitAt_iff {depth : Nat} {members : List (Option String × Outline)} :
    MembersFitAt depth members ↔ ∀ m ∈ members, m.1.isSome → m.2.FitsAt depth := by
  induction members with
  | nil => simp [MembersFitAt]
  | cons m ms ih => rw [MembersFitAt, ih, List.forall_mem_cons]

mutual
theorem nesting_of_toJson? : ∀ {o : Outline} {depth : Nat} {j : Json}, o.FitsAt depth →
    o.toJson? = some j → j.nesting ≤ maxDepth - depth
  | .missing, _, _, _, h | .unreadable, _, _, _, h => by cases h
  | .null, _, _, _, h | .bool _, _, _, _, h | .num _, _, _, _, h | .str _, _, _, _, h => by
    cases h
    simp [Json.nesting]
  | .arr deep items whole, depth, j, hfits, h => by
    rw [toJson?] at h
    split at h
    · cases h
    · rename_i hwhole
      simp only [Bool.or_eq_true, not_or, Bool.not_eq_true] at hwhole
      obtain ⟨xs, hxs, rfl⟩ := Option.map_eq_some_iff.mp h
      have hdepth := hfits.1 hwhole.1
      have hitems := itemNesting_of_toItems? hfits.2 hxs
      rw [Json.nesting]
      omega
  | .obj deep members whole, depth, j, hfits, h => by
    rw [toJson?] at h
    split at h
    · cases h
    · rename_i hwhole
      simp only [Bool.or_eq_true, not_or, Bool.not_eq_true] at hwhole
      obtain ⟨ms, hms, rfl⟩ := Option.map_eq_some_iff.mp h
      have hdepth := hfits.1 hwhole.1
      have hmembers := memberNesting_of_toMembers? (Nat.zero_le _) hfits.2 hms
      rw [Json.nesting]
      omega
theorem itemNesting_of_toItems? : ∀ {items : List Outline} {depth : Nat} {xs : List Json},
    ItemsFitAt depth items → toItems? items = some xs → Json.itemNesting xs ≤ maxDepth - depth
  | [], _, _, _, h => by
    cases h
    exact Nat.zero_le _
  | item :: items, depth, xs, hfits, h => by
    obtain ⟨x, hx, h⟩ := Option.bind_eq_some_iff.mp h
    obtain ⟨rest, hrest, rfl⟩ := Option.map_eq_some_iff.mp h
    rw [Json.itemNesting]
    exact Nat.max_le.mpr ⟨nesting_of_toJson? hfits.1 hx, itemNesting_of_toItems? hfits.2 hrest⟩
theorem memberNesting_of_toMembers? : ∀ {members : List (Option String × Outline)} {depth : Nat}
    {before after : Members}, Json.memberNesting before ≤ maxDepth - depth →
    MembersFitAt depth members → toMembers? before members = some after →
      Json.memberNesting after ≤ maxDepth - depth
  | [], _, before, after, hbefore, _, h => by
    cases h
    exact hbefore
  | (none, _) :: _, _, _, _, _, _, h => by cases h
  | (some k, o) :: members, depth, before, after, hbefore, hfits, h => by
    obtain ⟨v, hv, h⟩ := Option.bind_eq_some_iff.mp h
    have hvalue := nesting_of_toJson? (hfits.1 rfl) hv
    refine memberNesting_of_toMembers? (Json.memberNesting_le.mpr fun m hm => ?_) hfits.2 h
    rcases Members.mem_insert hm with rfl | hm
    · exact hvalue
    · exact Json.memberNesting_le.mp hbefore m hm
end

/-! ## Texts -/

/-- A container is marked if it lies inside `maxDepth` others. -/
theorem isDeep_eq (stack : List Frame) : isDeep stack = decide (maxDepth ≤ stack.length) := by
  rw [isDeep, Bool.eq_iff_iff, Bool.not_eq_true', List.isEmpty_eq_false_iff, Ne,
    List.drop_eq_nil_iff, decide_eq_true_iff]
  simp only [maxDepth]
  omega

theorem length_lt_of_isDeep {stack : List Frame} (h : isDeep stack = false) :
    stack.length < maxDepth := by
  rw [isDeep_eq, decide_eq_false_iff_not] at h
  omega

/-- The contents of an unfinished container fit. -/
def Frame.FitsAt (depth : Nat) : Frame → Prop
  | .array items => ∀ x ∈ items, x.FitsAt depth
  | .object members | .member members _ => ∀ m ∈ members, m.1.isSome → m.2.FitsAt depth

/-- The contents of unfinished containers fit, the innermost first. -/
def StackFits : List Frame → Prop
  | [] => True
  | frame :: stack => frame.FitsAt (stack.length + 1) ∧ StackFits stack

namespace Progress

/-- What has been read so far fits; of a text that breaks off no document is kept. -/
def Fits : Progress → Prop
  | .within _ stack => StackFits stack
  | .complete document => document.FitsAt 0
  | .exceeded _ => True
  | .broken document => document.toJson? = none

end Progress

theorem toJson?_breakOff {stack : List Frame} : ∀ {inner : Option Outline},
    (inner.getD .missing).toJson? = none → (breakOff inner stack).toJson? = none := by
  induction stack with
  | nil => exact id
  | cons frame stack ih =>
    intro inner _
    cases frame <;> exact ih (by simp [toJson?])

theorem fits_breakOff (stack : List Frame) : (Progress.broken (breakOff none stack)).Fits :=
  toJson?_breakOff rfl

theorem fits_place {value : Outline} {stack : List Frame} (hvalue : value.FitsAt stack.length)
    (h : StackFits stack) : (place value stack).Fits := by
  cases stack with
  | nil => exact hvalue
  | cons frame stack =>
    cases frame with
    | array items => exact ⟨List.forall_mem_cons.mpr ⟨hvalue, h.1⟩, h.2⟩
    | object members => exact ⟨List.forall_mem_cons.mpr ⟨nofun, h.1⟩, h.2⟩
    | member members key =>
      refine ⟨List.forall_mem_cons.mpr ⟨?_, h.1⟩, h.2⟩
      cases key with
      | none => nofun
      | some key => exact fun _ => hvalue

theorem fits_ofScalar? {token : Token} {value : Outline} (h : ofScalar? token = some value)
    (depth : Nat) : value.FitsAt depth := by
  cases token <;> simp only [ofScalar?, Option.some.injEq, reduceCtorEq] at h
  all_goals subst h
  case num value => cases value <;> simp [FitsAt]
  case str value => cases value <;> simp [FitsAt]
  all_goals simp [FitsAt]

theorem fits_readValue {stack : List Frame} (h : StackFits stack) (token : Token) :
    (readValue stack token).Fits := by
  unfold readValue
  split
  · exact ⟨nofun, h⟩
  · exact ⟨nofun, h⟩
  · split
    · rename_i value hvalue
      exact fits_place (fits_ofScalar? hvalue _) h
    · exact fits_breakOff stack

theorem fits_readKey {stack : List Frame} (h : StackFits stack) (token : Token) :
    (readKey stack token).Fits := by
  unfold readKey
  split
  · exact h
  · exact fits_breakOff _
  · exact fits_breakOff _

theorem fits_readNext {stack : List Frame} (h : StackFits stack) (token : Token) :
    (readNext stack token).Fits := by
  unfold readNext
  split
  · exact h
  · exact h
  · rename_i items rest
    refine fits_place ⟨length_lt_of_isDeep, itemsFitAt_iff.mpr fun x hx => ?_⟩ h.2
    exact h.1 x (List.mem_reverse.mp hx)
  · rename_i members rest
    refine fits_place ⟨length_lt_of_isDeep, membersFitAt_iff.mpr fun m hm => ?_⟩ h.2
    exact h.1 m (List.mem_reverse.mp hm)
  · exact fits_breakOff _

/-- **Every token keeps containers within the depth that a reader follows.** -/
theorem Progress.Fits.step {progress : Progress} (h : progress.Fits) (token : Token) :
    (progress.step token).Fits := by
  cases progress with
  | within place stack =>
    cases place with
    | value => exact fits_readValue h token
    | firstItem =>
      simp only [Progress.step]
      split
      · exact fits_readNext h _
      · exact fits_readValue h token
    | firstKey =>
      simp only [Progress.step]
      split
      · exact fits_readNext h _
      · exact fits_readKey h token
    | key => exact fits_readKey h token
    | colon =>
      simp only [Progress.step]
      split
      · exact h
      · exact fits_breakOff stack
    | next => exact fits_readNext h token
  | complete document => trivial
  | exceeded document => trivial
  | broken document => exact h

theorem Progress.Fits.foldl {progress : Progress} (h : progress.Fits) (tokens : List Token) :
    (tokens.foldl Progress.step progress).Fits := by
  induction tokens generalizing progress with
  | nil => exact h
  | cons token tokens ih => exact ih (h.step token)

theorem nesting_of_ofText {s : String} {j : Json} (halone : (ofText s).alone = true)
    (h : (ofText s).document.toJson? = some j) : j.nesting ≤ maxDepth := by
  have hstart : (Progress.within .value []).Fits := trivial
  have hfits := hstart.foldl (Json.tokens s)
  rw [ofText, ofTokens] at halone h
  generalize (Json.tokens s).foldl Progress.step (.within .value []) = progress at hfits halone h
  cases progress with
  | within place stack =>
    rw [show (Progress.within place stack).finish.document.toJson? = none from
      fits_breakOff stack] at h
    cases h
  | complete document => exact nesting_of_toJson? hfits h
  | exceeded document => cases halone
  | broken document =>
    rw [show (Progress.broken document).finish.document.toJson? = none from hfits] at h
    cases h

end Outline

/-- **A document that is kept from a text is nested no deeper than a reader follows.** -/
theorem Json.nesting_le_of_ofText? {s : String} {j : Json} (h : Json.ofText? s = some j) :
    j.nesting ≤ maxDepth := by
  simp only [Json.ofText?] at h
  split at h
  · rename_i halone
    exact Outline.nesting_of_ofText halone h
  · cases h

end UplinkFlow
