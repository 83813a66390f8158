import UplinkFlow.Proofs.Flow.Reading

/-!
# Reading a record

* `Reader.members_slot`, `Reader.members_other` — what the first member of an object does.
* `Reader.record_invariant` — **what every slot preserves holds of the record that is read**, in
  either form.
-/

set_option autoImplicit false

namespace UplinkFlow

namespace Reader

variable {α σ : Type} {slots : List (Slot σ)} {other : String → Outline → σ → Except ReadFault σ}
  {key : String} {o : Outline} {rest : List (Option String × Outline)} {s s' : σ}

/-! ## Values -/

theorem string_eq_ok {o : Outline} {s : String} : string o = .ok s ↔ o = .str s := by
  cases o <;> simp [string]

theorem toJson?_of_optional_string {o : Outline} {s : Option String}
    (h : string.optional o = .ok s) : o.toJson? = some ((s.map Json.str).getD .null) := by
  cases o <;> simp [optional, string, Except.map] at h
  all_goals
    subst h
    rfl

/-- A list is read from an array that is whole and not too deep, one element after the other. -/
theorem list_eq_ok {reader : Reader α} {o : Outline} {xs : List α} :
    reader.list o = .ok xs ↔ ∃ items, o = .arr false items true ∧ items.mapM reader = .ok xs := by
  cases o with
  | arr deep items whole =>
    cases deep with
    | true => simp [list, bind, Except.bind]
    | false =>
      cases hitems : items.mapM reader <;> cases whole <;> simp [list, bind, Except.bind, hitems]
  | _ => simp [list]

theorem forall_of_mapM {reader : Reader α} {P : α → Prop}
    (hreader : ∀ o x, reader o = .ok x → P x) :
    ∀ {items : List Outline} {xs : List α}, items.mapM reader = .ok xs → ∀ x ∈ xs, P x
  | [], xs, h => by
    cases h
    nofun
  | o :: items, xs, h => by
    rw [List.mapM_cons] at h
    obtain ⟨x, hx, h⟩ := bind_eq_ok_iff.mp h
    obtain ⟨rest, hrest, h⟩ := bind_eq_ok_iff.mp h
    cases h
    exact List.forall_mem_cons.mpr ⟨hreader o x hx, forall_of_mapM hreader hrest⟩

theorem forall_of_list {reader : Reader α} {P : α → Prop} {o : Outline} {xs : List α}
    (hreader : ∀ o x, reader o = .ok x → P x) (h : reader.list o = .ok xs) : ∀ x ∈ xs, P x := by
  obtain ⟨items, -, hitems⟩ := list_eq_ok.mp h
  exact forall_of_mapM hreader hitems

theorem list_ofJson {reader : Reader α} {toJson : α → Json} {xs : List α}
    (h : ∀ x ∈ xs, reader (Outline.ofJson (toJson x)) = .ok x) :
    reader.list (Outline.ofJson (.arr (xs.map toJson))) = .ok xs := by
  refine list_eq_ok.mpr ⟨Outline.ofItems (xs.map toJson), rfl, ?_⟩
  induction xs with
  | nil => rfl
  | cons x xs ih =>
    obtain ⟨hx, hxs⟩ := List.forall_mem_cons.mp h
    rw [List.map_cons, Outline.ofItems, List.mapM_cons, hx, ih hxs]
    rfl

theorem ofText_eq_ok {reader : Reader α} {text : String} {a : α} : reader.ofText text = .ok a ↔
    (Outline.ofText text).alone = true ∧ reader (Outline.ofText text).document = .ok a := by
  cases hread : reader (Outline.ofText text).document <;>
    cases halone : (Outline.ofText text).alone <;>
    simp [ofText, ofFound, bind, Except.bind, hread, halone]

/-! ## Members -/

/-- A member that has a slot fills it, and the slot has been empty. -/
theorem members_slot {reader : Reader α} {get : σ → Option α} {set : α → σ → σ}
    (hfind : (slots.find? fun slot => slot.key == key) = some (slot key reader get set))
    (h : members slots other ((some key, o) :: rest) s = .ok s') :
    get s = none ∧ ∃ a, reader o = .ok a ∧ members slots other rest (set a s) = .ok s' := by
  rw [members, hfind] at h
  simp only [slot] at h
  cases hget : get s with
  | some b => simp [hget, bind, Except.bind] at h
  | none =>
    cases hread : reader o with
    | error e => simp [hget, hread, bind, Except.bind, Except.map] at h
    | ok a => exact ⟨rfl, a, rfl, by simpa [hget, hread, bind, Except.bind, Except.map] using h⟩

theorem members_other (hfind : (slots.find? fun slot => slot.key == key) = none)
    (h : members slots other ((some key, o) :: rest) s = .ok s') :
    ∃ s₁, other key o s = .ok s₁ ∧ members slots other rest s₁ = .ok s' := by
  rw [members, hfind] at h
  exact bind_eq_ok_iff.mp h

/-- A record is read from an object or from an array that is whole and not too deep. -/
theorem record_cases {empty : σ} {finish : σ → Option α} {a : α}
    (h : record slots empty finish o = .ok a) : ∃ s, finish s = some a ∧
      ((∃ ms, o = .obj false ms true ∧ members slots skip ms empty = .ok s) ∨
        ∃ items, o = .arr false items true ∧ elements slots items empty = .ok s) := by
  cases o with
  | obj deep ms whole =>
    cases hread : members slots skip ms empty <;> cases deep <;> cases whole <;>
      simp only [record, pure, Except.pure, bind, Except.bind, hread, Bool.false_eq_true, if_false,
        if_true, Bool.not_true, Bool.not_false, reduceCtorEq] at h
    rename_i s
    cases hfinish : finish s with
    | none => simp [hfinish] at h
    | some b => exact ⟨s, by simpa [hfinish] using h, .inl ⟨ms, rfl, hread⟩⟩
  | arr deep items whole =>
    cases hread : elements slots items empty <;> cases deep <;> cases whole <;>
      simp only [record, pure, Except.pure, bind, Except.bind, hread, Bool.false_eq_true, if_false,
        if_true, Bool.not_true, Bool.not_false, reduceCtorEq] at h
    rename_i s
    cases hfinish : finish s with
    | none => simp [hfinish] at h
    | some b => exact ⟨s, by simpa [hfinish] using h, .inr ⟨items, rfl, hread⟩⟩
  | _ => simp [record, bind, Except.bind] at h

/-! ## Invariants -/

variable {I : σ → Prop} (hfill : ∀ slot ∈ slots, ∀ o s s', I s → slot.fill o s = .ok s' → I s')

include hfill

theorem skipped_invariant : ∀ {ms : List (Option String × Outline)} {s s' : σ}, I s →
    members slots skip ms s = .ok s' → I s'
  | [], s, s', hI, h => by
    cases h
    exact hI
  | (none, _) :: _, _, _, _, h => by cases h
  | (some key, o) :: ms, s, s', hI, h => by
    rw [members] at h
    split at h
    · obtain ⟨s₁, hskip, h⟩ := bind_eq_ok_iff.mp h
      unfold skip at hskip
      split at hskip
      · cases hskip
      · cases hskip
        exact skipped_invariant hI h
    · rename_i slot hfind
      split at h
      · cases h
      · obtain ⟨s₁, hslot, h⟩ := bind_eq_ok_iff.mp h
        exact skipped_invariant (hfill slot (List.mem_of_find?_eq_some hfind) o s s₁ hI hslot) h

theorem elements_invariant : ∀ {items : List Outline} {s s' : σ}, I s →
    elements slots items s = .ok s' → I s' := by
  induction slots with
  | nil =>
    intro items s s' hI h
    cases items with
    | nil =>
      cases h
      exact hI
    | cons => cases h
  | cons slot slots ih =>
    intro items s s' hI h
    cases items with
    | nil =>
      cases h
      exact hI
    | cons o items =>
      obtain ⟨s₁, hslot, h⟩ := bind_eq_ok_iff.mp h
      exact ih (fun other hother => hfill other (List.mem_cons_of_mem slot hother))
        (hfill slot List.mem_cons_self o s s₁ hI hslot) h

/-- What every slot preserves holds of the record that is read. -/
theorem record_invariant {empty : σ} {finish : σ → Option α} {o : Outline} {a : α} (hI : I empty)
    (h : record slots empty finish o = .ok a) : ∃ s, I s ∧ finish s = some a := by
  obtain ⟨s, hfinish, ⟨ms, -, hread⟩ | ⟨items, -, hread⟩⟩ := record_cases h
  · exact ⟨s, skipped_invariant hfill hI hread, hfinish⟩
  · exact ⟨s, elements_invariant hfill hI hread, hfinish⟩

end Reader

end UplinkFlow
