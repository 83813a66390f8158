import UplinkFlow.Proofs.Counter.Run
import UplinkFlow.Proofs.Text.WholeNumber

/-!
# What stands in a counter's file

* `Counter.StandsFor` — the number that a content stands for: zero if there is nothing but blanks,
  and otherwise the whole number between blanks, of at most 64 bits.
* `Counter.parse_eq_ok_iff`, `Counter.parse_eq_error_iff` — a content is read as this number, and is
  damaged if there is none.
* `Counter.CanStore`, `Counter.store_eq_ok_iff` — when a number can be stored.
* `Counter.file_format` — **exactly the contents that stand for a number are read as that number**,
  and every number that has been stored is read again.
-/

set_option autoImplicit false

namespace UplinkFlow.Counter

variable {c : Counter} {s s' : Storage} {content raw : String} {n : Nat}

/-! ## Contents -/

/-- The number that the content of a counter's file stands for. -/
inductive StandsFor (content : String) : Nat → Prop where
  | blank (blanks : ∀ ch ∈ content.toList, Text.isBlank ch = true) : StandsFor content 0
  | number {n : Nat} (holds : Text.Holds content n) (fits : n < 2 ^ 64) : StandsFor content n

theorem isEmpty_trim_iff :
    (Text.trim content).isEmpty = true ↔ ∀ ch ∈ content.toList, Text.isBlank ch = true := by
  have hempty : (Text.trim content).isEmpty = true ↔ Text.trimChars content.toList = [] := by
    rw [Text.trim, String.isEmpty_iff, ← String.toList_inj, String.toList_ofList, String.toList_empty]
  rw [hempty]
  constructor
  · intro hnil
    obtain ⟨before, after, hcontent, hblank⟩ := Text.exists_trimChars content.toList
    rw [hnil, List.append_nil] at hcontent
    rwa [hcontent]
  · intro hblank
    have hbetween : Text.trimChars (content.toList ++ [] ++ []) = [] :=
      Text.trimChars_between (by simp) (by simpa using hblank)
    simpa using hbetween

theorem not_holds_of_blank (h : ∀ ch ∈ content.toList, Text.isBlank ch = true) :
    ¬Text.Holds content n := by
  rintro ⟨before, number, after, hcontent, -, hwhole⟩
  obtain ⟨ch, hch⟩ : ∃ ch, ch ∈ number := by
    cases hwhole with
    | plain hne => exact List.exists_mem_of_ne_nil _ hne
    | plus => exact ⟨_, List.mem_cons_self⟩
  have hblank : Text.isBlank ch = true := h ch (by simp [hcontent, hch])
  rw [hwhole.isBlank_eq_false ch hch] at hblank
  cases hblank

theorem parse_eq (content : String) : parse content =
    if (Text.trim content).isEmpty then .ok 0
    else (Text.readWord (Text.trim content)).mapError fun _ => Text.trim content := rfl

/-- **A content is read as the number that it stands for.** -/
theorem parse_eq_ok_iff : parse content = .ok n ↔ StandsFor content n := by
  have hfits : n ≤ Text.maxWord ↔ n < 2 ^ 64 := by
    rw [Text.maxWord]
    omega
  rw [parse_eq]
  split
  · rename_i hempty
    have hblank := isEmpty_trim_iff.mp hempty
    constructor
    · rintro ⟨⟩
      exact .blank hblank
    · intro h
      cases h with
      | blank => rfl
      | number holds => exact absurd holds (not_holds_of_blank hblank)
  · rename_i hempty
    rw [mapError_eq_ok_iff, Text.readWord_trim_eq_ok_iff, hfits]
    constructor
    · rintro ⟨holds, fits⟩
      exact .number holds fits
    · intro h
      cases h with
      | blank blanks => exact absurd (isEmpty_trim_iff.mpr blanks) hempty
      | number holds fits => exact ⟨holds, fits⟩

/-- A content that stands for no number is damaged, and is shown without the blanks around it. -/
theorem parse_eq_error_iff :
    parse content = .error raw ↔ raw = Text.trim content ∧ ∀ n, ¬StandsFor content n := by
  have hnone : (∀ n, ¬StandsFor content n) ↔ ∀ n, parse content ≠ .ok n := by
    simp only [ne_eq, parse_eq_ok_iff]
  rw [hnone, parse_eq]
  split
  · simp
  · simp only [mapError_eq_error_iff, ne_eq, mapError_eq_ok_iff]
    cases Text.readWord (Text.trim content) with
    | error fault => simp
    | ok n => simp

theorem read_eq (h : s.readText c.place = .ok content) :
    c.read s = (parse content).mapError (CounterFault.corrupt c.place.text) := by
  unfold read
  rw [h]

/-! ## Storing -/

/-- A number can be stored: the paths of the counter's file and of the draft are sound, their
folders are there, and neither of them is a folder itself. -/
structure CanStore (c : Counter) (s : Storage) : Prop where
  sound : Storage.IsSound c.place
  draftSound : Storage.IsSound c.draftPlace
  folders : c.HasFolders s
  noFolder : s.lookup c.place.location ≠ some .folder
  draftNoFolder : s.lookup c.draftPlace.location ≠ some .folder

theorem CanStore.of_store (h : c.store n s = (.ok (), s')) : c.CanStore s := by
  have hstores := store_ok h
  unfold store at h
  split at h
  · cases h
  · rename_i written hwritten
    obtain ⟨hdraft, rfl⟩ := Storage.replace_spec hwritten
    obtain ⟨found, hfind, -⟩ := bind_eq_ok_iff.mp hwritten
    split at h
    · cases h
    · rename_i renamed hrename
      obtain ⟨-, -, -, -, htarget, -⟩ := Storage.rename_spec hrename
      rw [Storage.lookup_put_of_ne draftPlace_location_ne.symm] at htarget
      exact ⟨hstores.sound, (Storage.find_eq_ok_iff.mp hfind).1, hstores.before, htarget, hdraft⟩

/-- Writing where no folder stands takes none of the folders away. -/
theorem HasFolders.put {l : Location} {e : Entry} (h : c.HasFolders s)
    (hl : s.lookup l ≠ some .folder) : c.HasFolders (s.put l e) := by
  intro m hm
  have hne : m ≠ l := by
    rintro rfl
    exact hl (h m hm)
  rw [Storage.lookup_put_of_ne hne]
  exact h m hm

theorem CanStore.exists_store (h : c.CanStore s) (n : Nat) :
    ∃ s', c.store n s = (.ok (), s') := by
  obtain ⟨bytes, hbytes⟩ : ∃ bytes, bytes = Text.utf8Bytes (Text.decimal n) := ⟨_, rfl⟩
  have hreplace : s.replace c.draftPlace bytes = .ok (s.put c.draftPlace.location (.file bytes)) :=
    Storage.replace_eq_ok (Storage.find_eq_ok_iff.mpr ⟨h.draftSound, h.folders, rfl⟩)
      h.draftNoFolder
  have hfolders := h.folders.put (e := .file bytes) h.draftNoFolder
  have hfile : (s.put c.draftPlace.location (.file bytes)).lookup c.draftPlace.location =
      some (.file bytes) :=
    Storage.lookup_put_self (Storage.isFixed_of_lookup_ne h.draftNoFolder)
  have htarget : (s.put c.draftPlace.location (.file bytes)).lookup c.place.location ≠
      some .folder := by
    rw [Storage.lookup_put_of_ne draftPlace_location_ne.symm]
    exact h.noFolder
  have hrename := Storage.rename_eq_ok
    (Storage.find_eq_ok_iff.mpr ⟨h.draftSound, hfolders, hfile.symm⟩)
    (Storage.find_eq_ok_iff.mpr ⟨h.sound, hfolders, rfl⟩) htarget
  rw [store, ← hbytes, hreplace]
  simp only [hrename]
  exact ⟨_, rfl⟩

/-- **When a number can be stored.** -/
theorem store_eq_ok_iff : (∃ s', c.store n s = (.ok (), s')) ↔ c.CanStore s :=
  ⟨fun ⟨_, h⟩ => .of_store h, fun h => h.exists_store n⟩

theorem Stores.readText (h : Stores c n s s') : s'.readText c.place = .ok (Text.decimal n) := by
  have hfind : s'.find c.place = .ok (some (.file (Text.utf8Bytes (Text.decimal n)))) :=
    Storage.find_eq_ok_iff.mpr ⟨h.sound, h.after, h.entry.symm⟩
  unfold Storage.readText Storage.read
  rw [hfind]
  simp only [bind, Except.bind, Text.ofUtf8?_utf8Bytes]

/-! ## The file -/

/-- **Exactly the contents that stand for a number are read as that number.**  Every other text is
reported as damaged, without the blanks around it.  A number of 64 bits can be stored wherever the
paths, the folders and the two files allow it, and is read again. -/
theorem file_format (c : Counter) :
    (∀ s content, s.readText c.place = .ok content →
      (∀ n, c.read s = .ok n ↔ StandsFor content n) ∧
      ∀ fault, c.read s = .error fault ↔
        fault = .corrupt c.place.text (Text.trim content) ∧ ∀ n, ¬StandsFor content n) ∧
    ∀ n < 2 ^ 64, ∀ s, ((∃ s', c.store n s = (.ok (), s')) ↔ c.CanStore s) ∧
      ∀ s', c.store n s = (.ok (), s') →
        s'.readText c.place = .ok (Text.decimal n) ∧ c.read s' = .ok n := by
  constructor
  · intro s content hcontent
    rw [read_eq hcontent]
    refine ⟨fun n => mapError_eq_ok_iff.trans parse_eq_ok_iff, fun fault => ?_⟩
    rw [mapError_eq_error_iff]
    constructor
    · rintro ⟨raw, hraw, rfl⟩
      obtain ⟨rfl, hnone⟩ := parse_eq_error_iff.mp hraw
      exact ⟨rfl, hnone⟩
    · rintro ⟨rfl, hnone⟩
      exact ⟨_, parse_eq_error_iff.mpr ⟨rfl, hnone⟩, rfl⟩
  · intro n hn s
    refine ⟨store_eq_ok_iff, fun s' hs' => ?_⟩
    have hdecimal := (store_ok hs').readText
    have hfits : n ≤ Text.maxWord := Nat.le_of_lt_succ hn
    refine ⟨hdecimal, ?_⟩
    rw [read_eq hdecimal, parse_decimal hfits]
    rfl

/-- A file of a counter in the working folder. -/
def fileWith (content : String) : Storage :=
  ⟨[((1, ["count"]), .file (Text.utf8Bytes content))], []⟩

theorem readText_fileWith (content : String) :
    (fileWith content).readText (atPath "count" 1000).place = .ok content := by
  have hread : (fileWith content).read (atPath "count" 1000).place =
      .ok (Text.utf8Bytes content) := rfl
  unfold Storage.readText
  rw [hread]
  simp only [bind, Except.bind, Text.ofUtf8?_utf8Bytes]

/-- The greatest number is read behind a plus sign and zeros, and between blanks; the next one is
damage, and the greatest one can be stored in its place. -/
theorem file_format_greatest :
    let c := atPath "count" 1000
    (fileWith "\u2003+0018446744073709551615\n").readText c.place =
        .ok "\u2003+0018446744073709551615\n" ∧
      c.read (fileWith "\u2003+0018446744073709551615\n") = .ok 18446744073709551615 ∧
      c.read (fileWith "18446744073709551616\n") =
        .error (.corrupt "count" "18446744073709551616") ∧
      ∃ s', c.store 18446744073709551615 (fileWith "18446744073709551616\n") = (.ok (), s') ∧
        c.read s' = .ok 18446744073709551615 := by
  intro c
  obtain ⟨hcontents, hnumbers⟩ := file_format c
  have hgreatest : StandsFor "\u2003+0018446744073709551615\n" 18446744073709551615 :=
    parse_eq_ok_iff.mp rfl
  have hdamage := parse_eq_error_iff.mp
    (show parse "18446744073709551616\n" = .error "18446744073709551616" from rfl)
  have hpath {path : String} (hnul : path.toList.contains '\x00' = false)
      (hsize : ¬Storage.maxPath < path.utf8ByteSize) : Storage.checkPath path = .ok () := by
    rw [Storage.checkPath, hnul, if_neg hsize]
    rfl
  have hcan : c.CanStore (fileWith "18446744073709551616\n") :=
    { sound := ⟨hpath (by decide +kernel) (by decide +kernel), by decide +kernel, by decide +kernel⟩
      draftSound :=
        ⟨hpath (by decide +kernel) (by decide +kernel), by decide +kernel, by decide +kernel⟩
      folders := nofun
      noFolder := by decide +kernel
      draftNoFolder := by decide +kernel }
  obtain ⟨s', hs'⟩ := (hnumbers 18446744073709551615 (by decide) _).1.mpr hcan
  have hread := hcontents _ _ (readText_fileWith "\u2003+0018446744073709551615\n")
  have hrefused := hcontents _ _ (readText_fileWith "18446744073709551616\n")
  refine ⟨readText_fileWith _, (hread.1 _).mpr hgreatest, (hrefused.2 _).mpr ⟨?_, hdamage.2⟩, s', hs',
    ((hnumbers _ (by decide) _).2 s' hs').2⟩
  rw [← hdamage.1]
  rfl

end UplinkFlow.Counter
