import UplinkFlow.Proofs.Flow.Shape
import UplinkFlow.Proofs.Json.ReadBack
import UplinkFlow.Sensor

/-!
# A sensor's document

* `Tags.IsSorted` — tags in strictly ascending order of their keys, as every reading leaves them.
* `Sensor.reader_toJson` — a sensor with such tags is read from its own document.
* `Sensor.rereading_toJson` — **every sensor that has been read is read again as it is**, from what
  is written of it.
-/

set_option autoImplicit false

namespace UplinkFlow

/-! ## Tags -/

namespace Tags

variable {tags : Tags} {key value : String}

/-- Tags in strictly ascending order of their keys. -/
def IsSorted (tags : Tags) : Prop := tags.Pairwise fun a b => a.1 < b.1

theorem mem_insert {tag : String × String} (h : tag ∈ tags.insert key value) :
    tag = (key, value) ∨ tag ∈ tags := by
  induction tags with
  | nil => exact .inl (List.mem_singleton.mp h)
  | cons first rest ih =>
    obtain ⟨k, v⟩ := first
    rw [insert] at h
    split at h
    · exact (List.mem_cons.mp h).imp_right (List.mem_cons_of_mem _)
    · split at h
      · exact List.mem_cons.mp h
      · rcases List.mem_cons.mp h with rfl | h
        · exact .inr List.mem_cons_self
        · exact (ih h).imp_right (List.mem_cons_of_mem _)

theorem IsSorted.insert (h : tags.IsSorted) (key value : String) :
    (tags.insert key value).IsSorted := by
  induction tags with
  | nil => exact List.pairwise_singleton _ _
  | cons first rest ih =>
    obtain ⟨k, v⟩ := first
    obtain ⟨hfirst, hrest⟩ := List.pairwise_cons.mp h
    rw [Tags.insert]
    split
    · rename_i heq
      subst heq
      exact List.pairwise_cons.mpr ⟨hfirst, hrest⟩
    · rename_i hne
      split
      · rename_i hlt
        refine List.pairwise_cons.mpr ⟨fun tag htag => ?_, h⟩
        rcases List.mem_cons.mp htag with rfl | htag
        · exact hlt
        · exact String.lt_trans hlt (hfirst tag htag)
      · rename_i hle
        have hlt : k < key := Std.lt_of_le_of_ne hle (Ne.symm hne)
        refine List.pairwise_cons.mpr ⟨fun tag htag => ?_, ih hrest⟩
        rcases mem_insert htag with rfl | htag
        · exact hlt
        · exact hfirst tag htag

/-- A tag whose key is greater than all others is stored behind them. -/
theorem insert_of_greatest (h : ∀ tag ∈ tags, tag.1 < key) :
    tags.insert key value = tags ++ [(key, value)] := by
  induction tags with
  | nil => rfl
  | cons first rest ih =>
    obtain ⟨k, v⟩ := first
    obtain ⟨hfirst, hrest⟩ := List.forall_mem_cons.mp h
    have hne : key ≠ k := fun heq => String.lt_irrefl k (heq ▸ hfirst)
    rw [insert, if_neg hne, if_neg (String.lt_asymm hfirst), ih hrest, List.cons_append]

theorem isSorted_of_readMembers : ∀ {ms : List (Option String × Outline)} {before after : Tags},
    before.IsSorted → readMembers ms before = .ok after → after.IsSorted
  | [], before, after, hbefore, h => by
    cases h
    exact hbefore
  | (none, _) :: _, _, _, _, h => by cases h
  | (some key, o) :: ms, before, after, hbefore, h => by
    obtain ⟨text, -, h⟩ := bind_eq_ok_iff.mp h
    exact isSorted_of_readMembers (hbefore.insert key text) h

theorem isSorted_of_reader {o : Outline} (h : reader o = .ok tags) : tags.IsSorted := by
  cases o with
  | obj deep ms whole =>
    cases hread : readMembers ms [] <;> cases deep <;> cases whole <;>
      simp only [reader, bind, Except.bind, hread, Bool.false_eq_true, if_false, if_true,
        reduceCtorEq, Except.ok.injEq] at h
    subst h
    exact isSorted_of_readMembers List.Pairwise.nil hread
  | _ => simp [reader] at h

theorem readMembers_toJson : ∀ {tags before : Tags}, (before ++ tags).IsSorted →
    readMembers (Outline.ofMembers (tags.map fun (key, value) => (key, .str value))) before =
      .ok (before ++ tags)
  | [], before, _ => by
    rw [List.append_nil]
    rfl
  | (key, value) :: tags, before, h => by
    have hgreatest : ∀ tag ∈ before, tag.1 < key := fun tag htag =>
      (List.pairwise_append.mp h).2.2 tag htag (key, value) List.mem_cons_self
    rw [List.append_cons, ← insert_of_greatest hgreatest] at h ⊢
    exact readMembers_toJson h

theorem reader_toJson (h : tags.IsSorted) : reader (Outline.ofJson tags.toJson) = .ok tags := by
  have hread : readMembers (Outline.ofMembers (tags.map fun (key, value) => (key, .str value))) [] =
      .ok ([] ++ tags) := readMembers_toJson h
  rw [toJson, Outline.ofJson, reader, hread]
  rfl

theorem readsBackWithin_toJson (tags : Tags) : tags.toJson.ReadsBackWithin 1 := by
  rw [toJson, Json.readsBackWithin_obj, List.forall_mem_map]
  exact fun tag _ => Json.readsBackWithin_str tag.2

end Tags

/-! ## Sensors -/

namespace Sensor

variable {sensor : Sensor}

theorem isSorted_of_reader {o : Outline} (h : reader o = .ok sensor) : sensor.tags.IsSorted := by
  have hfill : ∀ slot ∈ slots, ∀ o (d d' : Draft), (∀ tags ∈ d.tags, tags.IsSorted) →
      slot.fill o d = .ok d' → ∀ tags ∈ d'.tags, tags.IsSorted := by
    intro slot hslot o d d' hd hfill
    simp only [slots, List.mem_cons, List.not_mem_nil, or_false] at hslot
    rcases hslot with rfl | rfl | rfl | rfl | rfl
    all_goals obtain ⟨a, hread, rfl⟩ := Reader.slot_fill_eq_ok hfill
    case inr.inr.inr.inr =>
      rintro tags ⟨⟩
      exact Tags.isSorted_of_reader hread
    all_goals exact hd
  obtain ⟨d, hd, hfinish⟩ := Reader.record_invariant hfill (by nofun) h
  split at hfinish
  · rename_i tags
    cases hfinish
    cases tags with
    | none => exact List.Pairwise.nil
    | some tags => exact hd tags rfl
  · cases hfinish

theorem reader_toJson (h : sensor.tags.IsSorted) :
    reader (Outline.ofJson sensor.toJson) = .ok sensor := by
  obtain ⟨id, kind, version, binding, tags⟩ := sensor
  cases tags with
  | nil => rfl
  | cons tag tags =>
    have htags := Tags.reader_toJson h
    have hslot : Reader.members slots Reader.skip
        [(some "tags", Outline.ofJson (Tags.toJson (tag :: tags)))]
        ⟨some id, some kind, some version, some binding, none⟩ =
          .ok ⟨some id, some kind, some version, some binding, some (tag :: tags)⟩ := by
      simp [Reader.members, slots, Reader.slot, htags, Except.map, bind, Except.bind]
    show (Reader.members slots Reader.skip
      [(some "tags", Outline.ofJson (Tags.toJson (tag :: tags)))]
        ⟨some id, some kind, some version, some binding, none⟩ >>= _) = _
    rw [hslot]
    rfl

theorem readsBack_toJson (sensor : Sensor) : sensor.toJson.ReadsBack := by
  have hbinding : sensor.binding.toJson.ReadsBackWithin 1 := by simp [Binding.toJson]
  have htags := Tags.readsBackWithin_toJson sensor.tags
  have hall : sensor.toJson.ReadsBackWithin 2 := by
    rw [toJson, Json.readsBackWithin_obj]
    split <;> simp [hbinding, htags]
  exact hall.mono (by decide)

/-- **Every sensor that has been read is read again as it is.** -/
theorem rereading_toJson {o : Outline} (h : reader o = .ok sensor) {found : Option Sensor}
    (hfound : reader.Rereading sensor.toJson found) : found = some sensor := by
  rw [hfound.eq_ofJson? (readsBack_toJson sensor)]
  exact Reader.ofJson?_eq_some.mpr (reader_toJson (isSorted_of_reader h))

end Sensor

end UplinkFlow
