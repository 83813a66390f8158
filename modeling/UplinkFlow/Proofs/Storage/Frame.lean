import UplinkFlow.Proofs.Except
import UplinkFlow.Storage.Basic

/-!
# What file operations do and leave alone

* `lookup_put_self`, `lookup_put_of_ne`, `lookup_remove_of_ne` — an operation on one location shows
  there and nowhere else.
* `reach_eq_ok_iff`, `find_eq_ok_iff` — a place is found exactly if its path is sound and every
  folder on the way is there.
* `makeFolders_spec` — making folders turns missing entries into folders and does nothing else.
* `openFile_cases`, `read_eq_ok`, `replace_spec`, `rename_spec` — everything that a
  successful operation on one file does.
-/

set_option autoImplicit false

namespace UplinkFlow

namespace Location

theorem key_inj {l m : Location} : l.key = m.key ↔ l = m := by
  simp only [key, Prod.mk.injEq]
  exact ⟨fun h => h.2, fun h => by subst h; exact ⟨rfl, rfl⟩⟩

/-- The locations of folders that lie one inside the other. -/
def way (outer : Location) : List String → List Location
  | [] => []
  | name :: rest => outer.enter name :: way (outer.enter name) rest

end Location

namespace Storage

variable {s s' : Storage} {l m : Location} {e : Entry} {p : Place}

/-! ## Entries -/

theorem list_lookup_filter_of_ne {k : Nat × Location} (hk : k ≠ l.key) :
    ∀ entries : List ((Nat × Location) × Entry),
      (entries.filter fun pair => pair.1 != l.key).lookup k = entries.lookup k
  | [] => rfl
  | (k', e) :: rest => by
    have ih := list_lookup_filter_of_ne hk rest
    by_cases hkey : k' = l.key
    · have hne : (k == k') = false := by simpa [hkey] using hk
      simp [hkey, List.lookup_cons, ih, hkey ▸ hne]
    · simp [hkey, List.lookup_cons, ih]

theorem lookup_put_of_ne (h : m ≠ l) : (s.put l e).lookup m = s.lookup m := by
  have hk : m.key ≠ l.key := fun hk => h (Location.key_inj.mp hk)
  have hb : (m.key == l.key) = false := by simpa using hk
  unfold lookup put
  split
  · rfl
  · rw [List.lookup_cons, hb, list_lookup_filter_of_ne hk]

theorem lookup_put_self (h : l.isFixed = false) : (s.put l e).lookup l = some e := by
  simp [lookup, put, h]

theorem lookup_of_isFixed (h : l.isFixed = true) : s.lookup l = some .folder := by
  simp [lookup, h]

theorem lookup_remove_of_ne (h : m ≠ l) : (s.remove l).lookup m = s.lookup m := by
  have hk : m.key ≠ l.key := fun hk => h (Location.key_inj.mp hk)
  unfold lookup remove
  split
  · rfl
  · rw [list_lookup_filter_of_ne hk]

/-- Where something other than a folder stands, entries can come and go. -/
theorem isFixed_of_lookup_ne (h : s.lookup l ≠ some .folder) : l.isFixed = false := by
  cases hf : l.isFixed with
  | false => rfl
  | true => exact absurd (lookup_of_isFixed hf) h

/-! ## Finding a place -/

theorem reach_eq_ok_iff (outer : Location) (names : List String) :
    s.reach outer names = .ok () ↔ ∀ l ∈ outer.way names, s.lookup l = some .folder := by
  induction names generalizing outer with
  | nil => simp [reach, Location.way]
  | cons name rest ih =>
    simp only [reach, Location.way, List.mem_cons, forall_eq_or_imp]
    split
    · rename_i hf
      rw [ih]
      simp [hf]
    · rename_i hf
      simp [hf]
    · rename_i hn
      split <;> simp [hn]

/-- A path that something can have. -/
structure IsSound (p : Place) : Prop where
  path : checkPath p.text = .ok ()
  text : p.text.isEmpty = false
  name : p.name.utf8ByteSize ≤ maxName

theorem find_eq_ok_iff {found : Option Entry} :
    s.find p = .ok found ↔
      IsSound p ∧ (∀ l ∈ p.start.way p.folders, s.lookup l = some .folder) ∧
        found = s.lookup p.location := by
  unfold find
  constructor
  · intro h
    cases hpath : checkPath p.text with
    | error fault => simp [hpath, bind, Except.bind] at h
    | ok =>
      cases hreach : s.reach p.start p.folders with
      | error fault =>
        by_cases htext : p.text.isEmpty = true <;>
          simp [hpath, hreach, htext, bind, Except.bind] at h
      | ok =>
        by_cases htext : p.text.isEmpty = true
        · simp [hpath, htext, bind, Except.bind] at h
        · by_cases hname : maxName < p.name.utf8ByteSize
          · simp [hpath, hreach, htext, hname, bind, Except.bind] at h
          · simp [hpath, hreach, htext, hname, bind, Except.bind] at h
            exact ⟨⟨hpath, by simpa using htext, by omega⟩, (reach_eq_ok_iff _ _).mp hreach, h.symm⟩
  · rintro ⟨hsound, hway, rfl⟩
    have hreach := (reach_eq_ok_iff _ _).mpr hway
    have hname : ¬ maxName < p.name.utf8ByteSize := by have := hsound.name; omega
    simp [hsound.path, hsound.text, hreach, hname, bind, Except.bind]

/-! ## Making folders -/

/-- Folders have been made where nothing was, and nothing else has changed. -/
structure GainsFolders (s s' : Storage) : Prop where
  entry : ∀ l, s'.lookup l = s.lookup l ∨ (s.lookup l = none ∧ s'.lookup l = some .folder)
  locked : s'.locked = s.locked

theorem GainsFolders.refl (s : Storage) : GainsFolders s s := ⟨fun _ => .inl rfl, rfl⟩

theorem GainsFolders.trans {s₁ s₂ s₃ : Storage} (h : GainsFolders s₁ s₂)
    (h' : GainsFolders s₂ s₃) : GainsFolders s₁ s₃ := by
  refine ⟨fun l => ?_, h'.locked.trans h.locked⟩
  rcases h'.entry l with e' | ⟨e', f'⟩ <;> rcases h.entry l with e | ⟨e, f⟩
  · exact .inl (e'.trans e)
  · exact .inr ⟨e, e'.trans f⟩
  · exact .inr ⟨e ▸ e', f'⟩
  · simp [f] at e'

theorem GainsFolders.folder (h : GainsFolders s s') (hf : s.lookup l = some .folder) :
    s'.lookup l = some .folder := by
  rcases h.entry l with e | ⟨e, f⟩
  · exact e.trans hf
  · exact f

theorem gainsFolders_put (h : s.lookup l = none) : GainsFolders s (s.put l .folder) := by
  refine ⟨fun m => ?_, rfl⟩
  by_cases hm : m = l
  · subst hm
    exact .inr ⟨h, lookup_put_self (isFixed_of_lookup_ne (s := s) (by simp [h]))⟩
  · exact .inl (lookup_put_of_ne hm)

theorem makeFoldersIn_spec (names : List String) (s : Storage) (outer : Location) :
    GainsFolders s (s.makeFoldersIn outer names).2 ∧
      ((s.makeFoldersIn outer names).1 = .ok () →
        ∀ l ∈ outer.way names, (s.makeFoldersIn outer names).2.lookup l = some .folder) := by
  induction names generalizing s outer with
  | nil => exact ⟨.refl s, fun _ l hl => by simp [Location.way] at hl⟩
  | cons name rest ih =>
    rw [makeFoldersIn]
    split
    · rename_i hf
      obtain ⟨hgain, hway⟩ := ih s (outer.enter name)
      refine ⟨hgain, fun hok l hl => ?_⟩
      rcases List.mem_cons.mp hl with rfl | hl
      · exact hgain.folder hf
      · exact hway hok l hl
    · exact ⟨.refl s, fun hok => by simp at hok⟩
    · rename_i hn
      split
      · exact ⟨.refl s, fun hok => by simp at hok⟩
      · have hput := gainsFolders_put hn
        obtain ⟨hgain, hway⟩ := ih (s.put (outer.enter name) .folder) (outer.enter name)
        refine ⟨hput.trans hgain, fun hok l hl => ?_⟩
        rcases List.mem_cons.mp hl with rfl | hl
        · exact hgain.folder (lookup_put_self (isFixed_of_lookup_ne (s := s) (by simp [hn])))
        · exact hway hok l hl

/-- **Making the folders of a place leaves every file alone**, and if it succeeds all folders on
the way are there. -/
theorem makeFolders_spec (s : Storage) (p : Place) :
    GainsFolders s (s.makeFolders p).2 ∧
      ((s.makeFolders p).1 = .ok () →
        ∀ l ∈ p.start.way p.folders, (s.makeFolders p).2.lookup l = some .folder) := by
  unfold makeFolders
  split
  · exact ⟨.refl s, fun hok => by simp at hok⟩
  · exact makeFoldersIn_spec p.folders s p.start

/-! ## Operations on one file -/

theorem openFile_cases (h : s.openFile p = .ok s') :
    IsSound p ∧ (∀ l ∈ p.start.way p.folders, s.lookup l = some .folder) ∧
      (s' = s ∨ (s.lookup p.location = none ∧ s' = s.put p.location (.file []))) := by
  obtain ⟨found, hfind, h⟩ := bind_eq_ok_iff.mp h
  obtain ⟨hsound, hway, hfound⟩ := find_eq_ok_iff.mp hfind
  refine ⟨hsound, hway, ?_⟩
  split at h
  · exact .inl (Except.ok.inj h).symm
  · cases h
  · exact .inr ⟨hfound.symm, (Except.ok.inj h).symm⟩

theorem read_eq_ok {bytes : List UInt8} (h : s.read p = .ok bytes) :
    s.lookup p.location = some (.file bytes) := by
  obtain ⟨found, hfind, h⟩ := bind_eq_ok_iff.mp h
  obtain ⟨-, -, rfl⟩ := find_eq_ok_iff.mp hfind
  split at h
  · rename_i hfile
    cases h
    exact hfile
  · cases h
  · cases h

theorem replace_spec {bytes : List UInt8} (h : s.replace p bytes = .ok s') :
    s.lookup p.location ≠ some .folder ∧ s' = s.put p.location (.file bytes) := by
  obtain ⟨found, hfind, h⟩ := bind_eq_ok_iff.mp h
  obtain ⟨-, -, rfl⟩ := find_eq_ok_iff.mp hfind
  split at h
  · cases h
  · rename_i hne
    exact ⟨hne, (Except.ok.inj h).symm⟩

theorem replace_eq_ok {found : Option Entry} {bytes : List UInt8} (hfind : s.find p = .ok found)
    (hne : found ≠ some .folder) : s.replace p bytes = .ok (s.put p.location (.file bytes)) := by
  unfold replace
  rw [hfind]
  simp only [bind, Except.bind]

theorem rename_spec {source target : Place} (h : s.rename source target = .ok s') :
    ∃ bytes, s.lookup source.location = some (.file bytes) ∧ IsSound target ∧
      (∀ l ∈ target.start.way target.folders, s.lookup l = some .folder) ∧
      s.lookup target.location ≠ some .folder ∧
      s' = (s.remove source.location).put target.location (.file bytes) := by
  obtain ⟨bytes, hread, h⟩ := bind_eq_ok_iff.mp h
  obtain ⟨found, htarget, h⟩ := bind_eq_ok_iff.mp h
  obtain ⟨hsound, hway, rfl⟩ := find_eq_ok_iff.mp htarget
  split at h
  · cases h
  · rename_i hne
    exact ⟨bytes, read_eq_ok hread, hsound, hway, hne, (Except.ok.inj h).symm⟩

/-- A file can take the place of another, but not that of a folder. -/
theorem rename_eq_ok {source target : Place} {found : Option Entry} {bytes : List UInt8}
    (hsource : s.find source = .ok (some (.file bytes))) (htarget : s.find target = .ok found)
    (hne : found ≠ some .folder) : s.rename source target =
      .ok ((s.remove source.location).put target.location (.file bytes)) := by
  unfold rename read
  rw [hsource, htarget]
  simp only [bind, Except.bind]

end Storage

end UplinkFlow
