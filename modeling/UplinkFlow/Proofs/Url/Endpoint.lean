import UplinkFlow.Url.Basic

/-!
# Endpoints

* `IsPlainSegment` — a segment that names neither the same nor the outer folder, and all of whose
  characters a path keeps.
* `Path.stem` — what stands before the segments that are added to a path.
* `Path.IsMountedAt` — this is the path itself, of which a slash at the end does not count.
* `Path.addAll_chars` — **plain segments stand behind that as they are, each after a slash.**
-/

set_option autoImplicit false

namespace UplinkFlow.Url

/-- A segment that is written as it is. -/
structure IsPlainSegment (s : String) : Prop where
  all_kept : s.toList.all keepsInSegment = true
  notEmpty : s ≠ ""
  notSame : s ≠ "."
  notOuter : s ≠ ".."

theorem IsPlainSegment.kept {s : String} (h : IsPlainSegment s) {c : Char} (hc : c ∈ s.toList) :
    keepsInSegment c = true :=
  List.all_eq_true.mp h.all_kept c hc

theorem isIgnored_of_keepsInSegment {c : Char} (h : keepsInSegment c = true) :
    isIgnored c = false := by
  have hprintable : 0x20 ≤ c.toNat := by
    simp [keepsInSegment, keepsInPath, keepsInFragment, isPrintableAscii] at h
    omega
  have hne : ∀ d : Char, d.toNat < 0x20 → c ≠ d := by
    rintro d hd rfl
    omega
  simp [isIgnored, hne '\t' (by decide), hne '\n' (by decide), hne '\r' (by decide)]

theorem ne_percent_of_keepsInSegment {c : Char} (h : keepsInSegment c = true) : c ≠ '%' := by
  rintro rfl
  exact absurd h (by decide)

theorem percentEncode_eq_self {keep : Char → Bool} {cs : List Char}
    (h : ∀ c ∈ cs, keep c = true) : Text.percentEncode keep cs = cs := by
  induction cs with
  | nil => rfl
  | cons c rest ih =>
    have hc : Text.percentChar keep c = [c] := by simp [Text.percentChar, h c]
    have hrest := ih fun d hd => h d (List.mem_cons_of_mem c hd)
    rw [Text.percentEncode] at hrest ⊢
    rw [List.flatMap_cons, hc, hrest, List.singleton_append]

namespace Path

theorem undot_cons {c : Char} (h : c ≠ '%') (rest : List Char) :
    undot (c :: rest) = c :: undot rest := by
  rw [undot.eq_def]
  split
  · rename_i heq
    exact absurd (List.cons.inj heq).1 h
  · rename_i heq
    obtain ⟨rfl, rfl⟩ := List.cons.inj heq
    rfl
  · rename_i heq
    cases heq

theorem undot_eq_self {cs : List Char} (h : ∀ c ∈ cs, c ≠ '%') : undot cs = cs := by
  induction cs with
  | nil => rfl
  | cons c rest ih =>
    rw [undot_cons (h c List.mem_cons_self), ih fun d hd => h d (List.mem_cons_of_mem c hd)]

theorem chars_cons (last before : List Char) (outer : List (List Char)) :
    (⟨last, before :: outer⟩ : Path).chars = (⟨before, outer⟩ : Path).chars ++ '/' :: last := by
  simp [chars]

/-! ## What stands before segments -/

/-- What stands before the segments that are added to a path. -/
def stem (p : Path) : List Char := if p = root then [] else p.chars

/-- A folder is written as its stem and a slash, but for the empty folder of the root. -/
theorem chars_folder {p : Path} (h : p.last = []) :
    (p.chars = ['/', '/'] ∧ p.dropEmpty.stem = []) ∨
      (p.chars = p.dropEmpty.stem ++ ['/'] ∧ p.chars ≠ ['/', '/']) := by
  obtain ⟨last, outer⟩ := p
  obtain rfl : last = [] := h
  cases outer with
  | nil => exact .inr ⟨rfl, by decide⟩
  | cons before outer =>
    rw [chars_cons]
    by_cases hroot : (⟨before, outer⟩ : Path) = root
    · left
      rw [hroot]
      exact ⟨rfl, by simp [dropEmpty, stem, hroot]⟩
    · right
      have hstem : (dropEmpty ⟨[], before :: outer⟩).stem = (⟨before, outer⟩ : Path).chars := by
        simp [dropEmpty, stem, hroot]
      refine ⟨by rw [hstem], fun heq => hroot ?_⟩
      have hslash : (⟨before, outer⟩ : Path).chars = ['/'] :=
        List.append_cancel_right (show _ ++ ['/'] = ['/'] ++ ['/'] from heq)
      cases outer with
      | nil => simpa [chars, root] using hslash
      | cons outside outer =>
        rw [chars_cons] at hslash
        have hlength := congrArg List.length hslash
        simp [chars] at hlength
        omega

/-- Where the endpoints behind a path begin: at the path, of which a slash at its end does not
count.  The empty folder of the root stands for the root. -/
inductive IsMountedAt (p : Path) (mount : String) : Prop where
  | file (last : p.last ≠ []) (text : p.text = mount)
  | folder (last : p.last = []) (proper : p.text ≠ "//") (text : p.text = mount ++ "/")
  | emptyFolder (text : p.text = "//") (root : mount = "")

theorem isMountedAt_stem (p : Path) : p.IsMountedAt (String.ofList p.dropEmpty.stem) := by
  by_cases hlast : p.last = []
  · rcases chars_folder hlast with ⟨hchars, hstem⟩ | ⟨hchars, hproper⟩
    · exact .emptyFolder (congrArg String.ofList hchars) (congrArg String.ofList hstem)
    · refine .folder hlast (fun htext => hproper (String.ofList_injective htext)) ?_
      rw [text, hchars, String.ofList_append]
  · obtain ⟨last, outer⟩ := p
    obtain ⟨c, cs, rfl⟩ := List.exists_cons_of_ne_nil hlast
    exact .file hlast rfl

/-! ## Segments that are added -/

theorem add_plain (p : Path) {s : String} (h : IsPlainSegment s) :
    (p.add s).chars = p.stem ++ '/' :: s.toList ∧ p.add s ≠ root := by
  have hkept : s.toList.filter (!isIgnored ·) = s.toList :=
    List.filter_eq_self.mpr fun c hc => by simp [isIgnored_of_keepsInSegment (h.kept hc)]
  have hundot : undot s.toList = s.toList :=
    undot_eq_self fun c hc => ne_percent_of_keepsInSegment (h.kept hc)
  have hsame : isSame s.toList = false := by
    have : s.toList ≠ ".".toList := fun heq => h.notSame (String.toList_inj.mp heq)
    simpa [isSame, hundot] using this
  have houter : isOuter s.toList = false := by
    have : s.toList ≠ "..".toList := fun heq => h.notOuter (String.toList_inj.mp heq)
    simpa [isOuter, hundot] using this
  have hne : s.toList ≠ [] := fun heq => h.notEmpty (String.toList_inj.mp heq)
  have hadd : p.add s = ⟨s.toList, if p = root then [] else p.last :: p.outer⟩ := by
    unfold add
    rw [if_neg (by simp [h.notSame, h.notOuter]), hkept, percentEncode_eq_self fun c hc => h.kept hc]
    by_cases hroot : p = root
    · simp [hroot, root, finish, hsame, houter]
    · simp [hroot, finish, hsame, houter]
  rw [hadd]
  refine ⟨?_, fun heq => hne (congrArg Path.last heq)⟩
  unfold stem chars
  by_cases hroot : p = root
  · simp [hroot]
  · simp [hroot]

/-- Plain segments that are added stand one behind the other, each after a slash. -/
theorem foldl_add_stem (p : Path) {segments : List String}
    (h : ∀ s ∈ segments, IsPlainSegment s) :
    (segments.foldl add p).stem = p.stem ++ segments.flatMap fun s => '/' :: s.toList := by
  induction segments generalizing p with
  | nil => simp
  | cons s rest ih =>
    obtain ⟨hchars, hroot⟩ := p.add_plain (h s List.mem_cons_self)
    have hstem : (p.add s).stem = p.stem ++ '/' :: s.toList := by rw [stem, if_neg hroot, hchars]
    rw [List.foldl_cons, ih _ fun s' hs' => h s' (List.mem_cons_of_mem s hs'), hstem,
      List.flatMap_cons, List.append_assoc]

/-- The text of a path with plain segments behind it. -/
theorem addAll_chars (p : Path) (s : String) (segments : List String)
    (h : ∀ s' ∈ s :: segments, IsPlainSegment s') :
    (p.addAll (s :: segments)).chars =
      p.dropEmpty.stem ++ (s :: segments).flatMap fun s => '/' :: s.toList := by
  have hstem := p.dropEmpty.foldl_add_stem h
  -- only the root has an empty stem
  have hroot : (s :: segments).foldl add p.dropEmpty ≠ root := by
    intro hroot
    rw [hroot, List.flatMap_cons] at hstem
    simp [stem] at hstem
  rw [stem, if_neg hroot] at hstem
  exact hstem

end Path

end UplinkFlow.Url
