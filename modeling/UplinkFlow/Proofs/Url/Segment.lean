import UplinkFlow.Proofs.Text.Percent
import UplinkFlow.Proofs.Url.Endpoint

/-!
# Segments that come back as they are

* `IsWholeSegment` — a segment that names neither the same nor the outer folder and has no character
  that URLs ignore.
* `decodedSegment?` — the text that a segment of a URL stands for.
* `Path.add_of_whole` — a whole segment stands encoded behind a slash, whatever its characters.
* `Path.LeadsTo` — a path is that of a folder with a name and one more segment behind it.
* `Path.leadsTo_iff` — **exactly the whole segments are found behind a folder, unless that is the
  empty folder of the root.**
-/

set_option autoImplicit false

namespace UplinkFlow.Url

variable {cs ds : List Char} {s name : String}

/-- A segment that comes back as it is. -/
structure IsWholeSegment (s : String) : Prop where
  noneIgnored : s.toList.any isIgnored = false
  notSame : s ≠ "."
  notOuter : s ≠ ".."

instance : DecidablePred IsWholeSegment := fun s =>
  decidable_of_iff (s.toList.any isIgnored = false ∧ s ≠ "." ∧ s ≠ "..")
    ⟨fun h => ⟨h.1, h.2.1, h.2.2⟩, fun h => ⟨h.noneIgnored, h.notSame, h.notOuter⟩⟩

/-- The text that a segment stands for. -/
def decodedSegment? (segment : List Char) : Option String :=
  Text.ofUtf8? (Text.percentDecode (Text.utf8Bytes (String.ofList segment)))

/-! ## Encoded segments -/

theorem isPrintableAscii_of_keepsInSegment {c : Char} (h : keepsInSegment c = true) :
    isPrintableAscii c = true := by
  simp only [keepsInSegment, keepsInPath, keepsInFragment, Bool.and_eq_true] at h
  exact h.1.1.1

theorem isKept_keepsInSegment : Text.IsKept keepsInSegment := by
  intro c hc
  have hprintable := isPrintableAscii_of_keepsInSegment hc
  simp only [isPrintableAscii, Bool.and_eq_true, decide_eq_true_eq] at hprintable
  exact ⟨by omega, ne_percent_of_keepsInSegment hc⟩

/-- The form of characters in a segment. -/
def encoded (cs : List Char) : List Char := Text.percentEncode keepsInSegment cs

theorem decodedSegment?_encoded (cs : List Char) :
    decodedSegment? (encoded cs) = some (String.ofList cs) :=
  Text.ofUtf8?_percentDecode isKept_keepsInSegment cs

theorem encoded_inj (h : encoded cs = encoded ds) : cs = ds := by
  have hdecoded := congrArg decodedSegment? h
  rw [decodedSegment?_encoded, decodedSegment?_encoded] at hdecoded
  exact String.ofList_injective (Option.some.inj hdecoded)

theorem upperHexDigit_ne_percent : ∀ d, d < 16 → Text.upperHexDigit d ≠ '%' := by decide

theorem upperHexDigit_ne_slash : ∀ d, d < 16 → Text.upperHexDigit d ≠ '/' := by decide

theorem slash_notMem_encoded (cs : List Char) : '/' ∉ encoded cs := by
  intro hmem
  obtain ⟨c, -, hmem⟩ := List.mem_flatMap.mp hmem
  unfold Text.percentChar at hmem
  split at hmem
  · rename_i hkept
    rw [← List.mem_singleton.mp hmem] at hkept
    exact absurd hkept (by decide)
  · obtain ⟨b, -, hmem⟩ := List.mem_flatMap.mp hmem
    have hlt := b.toNat_lt
    simp only [Text.percentByte, List.mem_cons, List.not_mem_nil, or_false] at hmem
    rcases hmem with h | h | h
    · exact absurd h (by decide)
    · exact upperHexDigit_ne_slash _ (by omega) h.symm
    · exact upperHexDigit_ne_slash _ (by omega) h.symm

/-! ## Dots

A dot stands for itself, so that no encoded segment has an encoded dot in it. -/

/-- The digits of a byte other than the dot are not those of an encoded dot. -/
theorem upperHexDigits_ne_dot : ∀ high, high < 16 → ∀ low, low < 16 → high * 16 + low ≠ 0x2e →
    ¬(Text.upperHexDigit high = '2' ∧
      (Text.upperHexDigit low = 'e' ∨ Text.upperHexDigit low = 'E')) := by
  decide

/-- An encoded byte other than the dot stays when encoded dots are resolved. -/
theorem undot_percentByte {b : UInt8} {rest : List Char} (hb : b ≠ 0x2e)
    (hrest : Path.undot rest = rest) :
    Path.undot (Text.percentByte b ++ rest) = Text.percentByte b ++ rest := by
  have hlt := b.toNat_lt
  have hne : b.toNat / 16 * 16 + b.toNat % 16 ≠ 0x2e := by
    intro heq
    apply hb
    apply UInt8.toNat_inj.mp
    show b.toNat = 46
    omega
  have hhigh := upperHexDigit_ne_percent (b.toNat / 16) (by omega)
  have hlow := upperHexDigit_ne_percent (b.toNat % 16) (by omega)
  have hdigits := upperHexDigits_ne_dot (b.toNat / 16) (by omega) (b.toNat % 16) (by omega) hne
  simp only [Text.percentByte, List.cons_append, List.nil_append]
  generalize Text.upperHexDigit (b.toNat / 16) = high at hhigh hdigits ⊢
  generalize Text.upperHexDigit (b.toNat % 16) = low at hlow hdigits ⊢
  have htail : Path.undot (high :: low :: rest) = high :: low :: rest := by
    rw [Path.undot_cons hhigh, Path.undot_cons hlow, hrest]
  rw [Path.undot.eq_def]
  split
  · rename_i e tail heq
    obtain ⟨-, rfl, rfl, rfl⟩ : '%' = '%' ∧ high = '2' ∧ low = e ∧ rest = tail := by
      simpa using heq
    rw [if_neg fun he => hdigits ⟨rfl, he⟩]
  · rename_i heq
    obtain ⟨rfl, rfl⟩ := List.cons.inj heq
    rw [htail]
  · rename_i heq
    cases heq

theorem undot_percentBytes {bytes : List UInt8} {rest : List Char} (hbytes : ∀ b ∈ bytes, b ≠ 0x2e)
    (hrest : Path.undot rest = rest) :
    Path.undot (bytes.flatMap Text.percentByte ++ rest) =
      bytes.flatMap Text.percentByte ++ rest := by
  induction bytes with
  | nil => exact hrest
  | cons b bytes ih =>
    rw [List.flatMap_cons, List.append_assoc]
    exact undot_percentByte (hbytes b List.mem_cons_self)
      (ih fun d hd => hbytes d (List.mem_cons_of_mem b hd))

theorem ne_dot_of_mem_utf8EncodeChar {c : Char} (hc : c ≠ '.') {b : UInt8}
    (hb : b ∈ String.utf8EncodeChar c) : b ≠ 0x2e := by
  have hnat : c.val.toNat ≠ 0x2e := fun heq => hc (Char.toNat_inj.mp heq)
  have hne : ∀ n < 256, n ≠ 0x2e → UInt8.ofNat n ≠ 0x2e := by
    intro n hn hdot heq
    apply hdot
    have := congrArg UInt8.toNat heq
    rwa [UInt8.toNat_ofNat_of_lt' hn] at this
  unfold String.utf8EncodeChar at hb
  generalize c.val.toNat = v at hnat hb
  simp only at hb
  split at hb
  · rw [List.mem_singleton.mp hb]
    exact hne v (by omega) hnat
  split at hb
  · simp only [List.mem_cons, List.not_mem_nil, or_false] at hb
    rcases hb with rfl | rfl <;> exact hne _ (by omega) (by omega)
  split at hb
  · simp only [List.mem_cons, List.not_mem_nil, or_false] at hb
    rcases hb with rfl | rfl | rfl <;> exact hne _ (by omega) (by omega)
  · simp only [List.mem_cons, List.not_mem_nil, or_false] at hb
    rcases hb with rfl | rfl | rfl | rfl <;> exact hne _ (by omega) (by omega)

theorem undot_encoded (cs : List Char) : Path.undot (encoded cs) = encoded cs := by
  induction cs with
  | nil => rfl
  | cons c cs ih =>
    unfold encoded Text.percentEncode at ih ⊢
    rw [List.flatMap_cons, Text.percentChar]
    split
    · rename_i hc
      rw [List.singleton_append, Path.undot_cons (ne_percent_of_keepsInSegment hc), ih]
    · rename_i hc
      have hdot : c ≠ '.' := by
        rintro rfl
        exact hc rfl
      exact undot_percentBytes (fun b hb => ne_dot_of_mem_utf8EncodeChar hdot hb) ih

theorem encoded_dots (n : Nat) : encoded (List.replicate n '.') = List.replicate n '.' :=
  percentEncode_eq_self fun c hc => by rw [List.eq_of_mem_replicate hc]; rfl

theorem isSame_encoded : Path.isSame (encoded cs) = true ↔ cs = ['.'] := by
  have hdot : encoded ['.'] = ['.'] := encoded_dots 1
  rw [Path.isSame, undot_encoded, beq_iff_eq]
  constructor
  · intro h
    exact encoded_inj (h.trans hdot.symm)
  · rintro rfl
    exact hdot

theorem isOuter_encoded : Path.isOuter (encoded cs) = true ↔ cs = ['.', '.'] := by
  have hdots : encoded ['.', '.'] = ['.', '.'] := encoded_dots 2
  rw [Path.isOuter, undot_encoded, beq_iff_eq]
  constructor
  · intro h
    exact encoded_inj (h.trans hdots.symm)
  · rintro rfl
    exact hdots

/-! ## Adding a segment -/

/-- The characters of a segment that URLs do not ignore. -/
def kept (s : String) : List Char := s.toList.filter (!isIgnored ·)

theorem kept_eq_toList_iff : kept s = s.toList ↔ s.toList.any isIgnored = false := by
  rw [kept, List.filter_eq_self, List.any_eq_false]
  simp

namespace Path

variable {p : Path}

/-- A segment that is added stands encoded behind the path, where a folder is still resolved. -/
theorem add_eq (hp : p ≠ root) (hs : ¬(s = "." ∨ s = "..")) :
    p.add s = (⟨encoded (kept s), p.last :: p.outer⟩ : Path).finish false := by
  unfold add
  rw [if_neg hs, if_neg hp]
  rfl

/-- A segment that is added is left out, names a folder once its ignored characters are dropped, or
stands encoded behind a slash. -/
theorem add_cases (hp : p ≠ root) (s : String) :
    ((s = "." ∨ s = "..") ∧ p.add s = p) ∨ ((p.add s).last = [] ∧ kept s ≠ []) ∨
      ((s ≠ "." ∧ s ≠ "..") ∧ (p.add s).chars = p.chars ++ '/' :: encoded (kept s)) := by
  by_cases hdots : s = "." ∨ s = ".."
  · exact .inl ⟨hdots, if_pos hdots⟩
  · right
    rw [add_eq hp hdots]
    unfold finish
    split
    · rename_i houter
      left
      rw [isOuter_encoded.mp houter, leave]
      refine ⟨?_, by simp⟩
      split
      · rfl
      · split <;> rfl
    · split
      · rename_i hsame
        left
        rw [isSame_encoded.mp hsame]
        exact ⟨rfl, by simp⟩
      · exact .inr ⟨not_or.mp hdots, chars_cons _ _ _⟩

theorem add_of_whole (hp : p ≠ root) (hs : IsWholeSegment s) :
    (p.add s).chars = p.chars ++ '/' :: encoded s.toList := by
  have hkept : kept s = s.toList := kept_eq_toList_iff.mpr hs.noneIgnored
  have hsame : ¬isSame (encoded s.toList) = true := fun h =>
    hs.notSame (String.toList_inj.mp (isSame_encoded.mp h))
  have houter : ¬isOuter (encoded s.toList) = true := fun h =>
    hs.notOuter (String.toList_inj.mp (isOuter_encoded.mp h))
  rw [add_eq hp (not_or.mpr ⟨hs.notSame, hs.notOuter⟩), hkept, finish, if_neg houter, if_neg hsame]
  exact chars_cons _ _ _

/-! ## A segment behind a folder -/

/-- What stands behind the last slash of a path that ends with a slash. -/
theorem eq_nil_of_slash {front segment : List Char} (hlast : p.last = []) (hsegment : '/' ∉ segment)
    (h : p.chars = front ++ '/' :: segment) : segment = [] := by
  rcases List.eq_nil_or_concat segment with rfl | ⟨before, c, rfl⟩
  · rfl
  · have hend : p.chars.getLast? = some '/' := by simp [chars, hlast]
    have hchars : p.chars = (front ++ '/' :: before) ++ [c] := by simpa using h
    rw [hchars, List.getLast?_concat] at hend
    rw [Option.some.inj hend] at hsegment
    simp at hsegment

/-- A path is that of a folder with a name and one more segment behind it, which stands for `s`. -/
def LeadsTo (folder path : Path) (name s : String) : Prop :=
  ∃ segment, '/' ∉ segment ∧ path.chars = folder.chars ++ name.toList ++ '/' :: segment ∧
    decodedSegment? segment = some s

theorem addAll_of_whole (hname : IsPlainSegment name) (hs : IsWholeSegment s) :
    (p.addAll [name, s]).chars =
      p.dropEmpty.stem ++ '/' :: name.toList ++ '/' :: encoded s.toList := by
  obtain ⟨hchars, hroot⟩ := p.dropEmpty.add_plain hname
  show ((p.dropEmpty.add name).add s).chars = _
  rw [add_of_whole hroot hs, hchars]

theorem leadsTo_of_whole (hname : IsPlainSegment name) (hfolder : p.last = [])
    (hbase : p.chars ≠ ['/', '/']) (hs : IsWholeSegment s) :
    p.LeadsTo (p.addAll [name, s]) name s := by
  refine ⟨encoded s.toList, slash_notMem_encoded _, ?_, ?_⟩
  · rcases chars_folder hfolder with ⟨hempty, -⟩ | ⟨hchars, -⟩
    · exact absurd hempty hbase
    · rw [addAll_of_whole hname hs, hchars]
      simp
  · rw [decodedSegment?_encoded, String.ofList_toList]

/-- **Exactly the whole segments are found behind a folder**, unless that is the empty folder of the
root, behind which nothing is. -/
theorem leadsTo_iff (hname : IsPlainSegment name) (hfolder : p.last = []) :
    p.LeadsTo (p.addAll [name, s]) name s ↔ p.chars ≠ ['/', '/'] ∧ IsWholeSegment s := by
  constructor
  · rintro ⟨segment, hsegment, hpath, hdecoded⟩
    obtain ⟨hchars, hroot⟩ := p.dropEmpty.add_plain hname
    have hadd : p.addAll [name, s] = (p.dropEmpty.add name).add s := rfl
    rw [hadd] at hpath
    have hlength : p.dropEmpty.stem.length < p.chars.length := by
      rcases chars_folder hfolder with ⟨hempty, hstem⟩ | ⟨hfolder, -⟩
      · simp [hempty, hstem]
      · simp [hfolder]
    rcases add_cases hroot s with ⟨-, hsame⟩ | ⟨hlast, hkept⟩ | ⟨hdots, hadded⟩
    · -- the segment is left out, so that the path is too short
      rw [hsame, hchars] at hpath
      have := congrArg List.length hpath
      simp at this
      omega
    · -- the path ends with a slash, so that the segment is empty
      exfalso
      obtain rfl : segment = [] := eq_nil_of_slash hlast hsegment hpath
      have hnone : decodedSegment? [] = some "" := rfl
      obtain rfl : "" = s := Option.some.inj (hnone.symm.trans hdecoded)
      exact hkept rfl
    · rw [hadded, hchars] at hpath
      rcases chars_folder hfolder with ⟨hempty, hstem⟩ | ⟨hfolder, hbase⟩
      · -- behind the empty folder there is one slash too few
        exfalso
        have hne : name.toList ≠ [] := fun h => hname.notEmpty (String.toList_inj.mp h)
        obtain ⟨c, rest, hcons⟩ := List.exists_cons_of_ne_nil hne
        have hkept : keepsInSegment c = true := hname.kept (hcons ▸ List.mem_cons_self)
        rw [hempty, hstem, hcons] at hpath
        have hslash : c = '/' := (List.cons.inj (List.cons.inj hpath).2).1
        rw [hslash] at hkept
        exact absurd hkept (by decide)
      · rw [hfolder] at hpath
        have hsegment : encoded (kept s) = segment := by simpa using hpath
        rw [← hsegment, decodedSegment?_encoded] at hdecoded
        have hkept : kept s = s.toList := by
          rw [← String.toList_ofList (l := kept s), Option.some.inj hdecoded]
        exact ⟨hbase, kept_eq_toList_iff.mp hkept, hdots.1, hdots.2⟩
  · rintro ⟨hbase, hs⟩
    exact leadsTo_of_whole hname hfolder hbase hs

end Path

end UplinkFlow.Url
