import UplinkFlow.Proofs.Json.Nesting
import UplinkFlow.Proofs.Json.Numeral

/-!
# What a reader meets in the text of a document

* `Json.stream` — the tokens of a document's text; `run_compactChars`, `run_prettyChars` — of either
  text.
* `Outline.ofPrinted` — the outline of a document's text: that of the document, but for the numbers,
  which are what their texts denote, and for what is nested too deep.
* `Outline.ofText_compact`, `Outline.ofText_pretty` — **reading what has been written.**
-/

set_option autoImplicit false

namespace UplinkFlow

open Text (Stops)

namespace Json

/-! ## Tokens -/

mutual
/-- The tokens of a document's text. -/
def stream : Json → List Token
  | .null => [.null]
  | .bool b => [.bool b]
  | .num n => [.num (Number.ofLexeme? n.chars)]
  | .str s => [.str (some s)]
  | .arr [] => [.openArray, .closeArray]
  | .arr (x :: xs) => .openArray :: (stream x ++ itemStream xs)
  | .obj [] => [.openObject, .closeObject]
  | .obj ((k, v) :: ms) => .openObject :: .str (some k) :: .colon :: (stream v ++ memberStream ms)
/-- The tokens of the elements after the first, and of the closing bracket. -/
def itemStream : List Json → List Token
  | [] => [.closeArray]
  | x :: xs => .comma :: (stream x ++ itemStream xs)
/-- The tokens of the members after the first, and of the closing brace. -/
def memberStream : List (String × Json) → List Token
  | [] => [.closeObject]
  | (k, v) :: ms => .comma :: .str (some k) :: .colon :: (stream v ++ memberStream ms)
end

theorem stops_items (xs : List Json) (rest : List Char) :
    Stops goesOn (compactItems xs ++ rest) := by
  cases xs <;> exact .cons rfl

theorem stops_members (ms : Members) (rest : List Char) :
    Stops goesOn (compactMembers ms ++ rest) := by
  cases ms <;> exact .cons rfl

mutual
theorem run_compactChars : ∀ (j : Json) {rest : List Char}, Stops goesOn rest →
    Scan.between.run (j.compactChars ++ rest) = j.stream ++ Scan.between.run rest
  | .null, rest, _ => rfl
  | .bool b, rest, _ => by cases b <;> rfl
  | .num n, rest, hrest => run_number n hrest
  | .str s, rest, _ => run_literal s rest
  | .arr [], rest, _ => rfl
  | .arr (x :: xs), rest, _ => by
    have hx := run_compactChars x (stops_items xs rest)
    rw [run_compactItems] at hx
    simp only [compactChars, stream, List.cons_append, List.append_assoc]
    exact congrArg (Token.openArray :: ·) hx
  | .obj [], rest, _ => rfl
  | .obj ((k, v) :: ms), rest, _ => by
    have hv := run_compactChars v (stops_members ms rest)
    rw [run_compactMembers] at hv
    have hk := run_literal k (':' :: (v.compactChars ++ (compactMembers ms ++ rest)))
    simp only [compactChars, stream, List.cons_append, List.append_assoc]
    refine congrArg (Token.openObject :: ·) (hk.trans ?_)
    exact congrArg (Token.str (some k) :: Token.colon :: ·) hv
theorem run_compactItems : ∀ (xs : List Json) {rest : List Char},
    Scan.between.run (compactItems xs ++ rest) = itemStream xs ++ Scan.between.run rest
  | [], rest => rfl
  | x :: xs, rest => by
    have hx := run_compactChars x (stops_items xs rest)
    rw [run_compactItems] at hx
    simp only [compactItems, itemStream, List.cons_append, List.append_assoc]
    exact congrArg (Token.comma :: ·) hx
theorem run_compactMembers : ∀ (ms : List (String × Json)) {rest : List Char},
    Scan.between.run (compactMembers ms ++ rest) = memberStream ms ++ Scan.between.run rest
  | [], rest => rfl
  | (k, v) :: ms, rest => by
    have hv := run_compactChars v (stops_members ms rest)
    rw [run_compactMembers] at hv
    have hk := run_literal k (':' :: (v.compactChars ++ (compactMembers ms ++ rest)))
    simp only [compactMembers, memberStream, List.cons_append, List.append_assoc]
    refine congrArg (Token.comma :: ·) (hk.trans ?_)
    exact congrArg (Token.str (some k) :: Token.colon :: ·) hv
end

/-! ## Blanks -/

theorem run_blanks {blanks : List Char} (h : ∀ c ∈ blanks, isSpace c = true) (rest : List Char) :
    Scan.between.run (blanks ++ rest) = Scan.between.run rest := by
  induction blanks with
  | nil => rfl
  | cons c cs ih =>
    obtain ⟨hc, hcs⟩ := List.forall_mem_cons.mp h
    simp only [List.cons_append, Scan.run, Scan.step, Scan.start, hc, if_true, List.nil_append,
      ih hcs]

theorem run_newline (level : Nat) (rest : List Char) :
    Scan.between.run (newline level ++ rest) = Scan.between.run rest :=
  run_blanks (List.forall_mem_cons.mpr ⟨rfl, fun _ hc => List.eq_of_mem_replicate hc ▸ rfl⟩) rest

theorem stops_prettyItems (level : Nat) (xs : List Json) (rest : List Char) :
    Stops goesOn (prettyItems level xs ++ rest) := by
  cases xs <;> exact .cons rfl

theorem stops_prettyMembers (level : Nat) (ms : Members) (rest : List Char) :
    Stops goesOn (prettyMembers level ms ++ rest) := by
  cases ms <;> exact .cons rfl

mutual
theorem run_prettyChars (level : Nat) : ∀ (j : Json) {rest : List Char}, Stops goesOn rest →
    Scan.between.run (j.prettyChars level ++ rest) = j.stream ++ Scan.between.run rest
  | .null, rest, _ => rfl
  | .bool b, rest, _ => by cases b <;> rfl
  | .num n, rest, hrest => run_number n hrest
  | .str s, rest, _ => run_literal s rest
  | .arr [], rest, _ => rfl
  | .arr (x :: xs), rest, _ => by
    have hx := run_prettyChars (level + 1) x (stops_prettyItems level xs rest)
    rw [run_prettyItems, ← run_newline (level + 1)] at hx
    simp only [prettyChars, stream, List.cons_append, List.append_assoc]
    exact congrArg (Token.openArray :: ·) hx
  | .obj [], rest, _ => rfl
  | .obj ((k, v) :: ms), rest, _ => by
    have hv := run_prettyChars (level + 1) v (stops_prettyMembers level ms rest)
    rw [run_prettyMembers] at hv
    have hk := run_literal k
      (':' :: ' ' :: (v.prettyChars (level + 1) ++ (prettyMembers level ms ++ rest)))
    rw [← run_newline (level + 1)] at hk
    simp only [prettyChars, stream, List.cons_append, List.append_assoc, List.nil_append]
    refine congrArg (Token.openObject :: ·) (hk.trans ?_)
    exact congrArg (Token.str (some k) :: Token.colon :: ·) hv
theorem run_prettyItems (level : Nat) : ∀ (xs : List Json) {rest : List Char},
    Scan.between.run (prettyItems level xs ++ rest) = itemStream xs ++ Scan.between.run rest
  | [], rest => by
    rw [prettyItems, List.append_assoc, run_newline]
    rfl
  | x :: xs, rest => by
    have hx := run_prettyChars (level + 1) x (stops_prettyItems level xs rest)
    rw [run_prettyItems, ← run_newline (level + 1)] at hx
    simp only [prettyItems, itemStream, List.cons_append, List.append_assoc]
    exact congrArg (Token.comma :: ·) hx
theorem run_prettyMembers (level : Nat) : ∀ (ms : List (String × Json)) {rest : List Char},
    Scan.between.run (prettyMembers level ms ++ rest) = memberStream ms ++ Scan.between.run rest
  | [], rest => by
    rw [prettyMembers, List.append_assoc, run_newline]
    rfl
  | (k, v) :: ms, rest => by
    have hv := run_prettyChars (level + 1) v (stops_prettyMembers level ms rest)
    rw [run_prettyMembers] at hv
    have hk := run_literal k
      (':' :: ' ' :: (v.prettyChars (level + 1) ++ (prettyMembers level ms ++ rest)))
    rw [← run_newline (level + 1)] at hk
    simp only [prettyMembers, memberStream, List.cons_append, List.append_assoc, List.nil_append]
    refine congrArg (Token.comma :: ·) (hk.trans ?_)
    exact congrArg (Token.str (some k) :: Token.colon :: ·) hv
end

end Json

/-! ## Outlines -/

namespace Outline

open Json (Token stream itemStream memberStream)

mutual
/-- The outline of a document's text inside of `depth` containers. -/
def ofPrinted (depth : Nat) : Json → Outline
  | .null => .null
  | .bool b => .bool b
  | .num n => ((Number.ofLexeme? n.chars).map .num).getD .unreadable
  | .str s => .str s
  | .arr items => .arr (decide (maxDepth ≤ depth)) (ofPrintedItems (depth + 1) items) true
  | .obj members => .obj (decide (maxDepth ≤ depth)) (ofPrintedMembers (depth + 1) members) true
def ofPrintedItems (depth : Nat) : List Json → List Outline
  | [] => []
  | x :: xs => ofPrinted depth x :: ofPrintedItems depth xs
def ofPrintedMembers (depth : Nat) : List (String × Json) → List (Option String × Outline)
  | [] => []
  | (k, v) :: ms => (some k, ofPrinted depth v) :: ofPrintedMembers depth ms
end

/-- Where an element may come first, a value is read as anywhere. -/
theorem foldl_firstItem (j : Json) (stack : List Frame) (rest : List Token) :
    (j.stream ++ rest).foldl Progress.step (.within .firstItem stack) =
      (j.stream ++ rest).foldl Progress.step (.within .value stack) := by
  cases j with
  | arr xs => cases xs <;> rfl
  | obj ms => rcases ms with _ | ⟨⟨k, v⟩, ms⟩ <;> rfl
  | _ => rfl

mutual
/-- The tokens of a document put its outline where a value has to come. -/
theorem foldl_stream : ∀ (j : Json) (stack : List Frame),
    j.stream.foldl Progress.step (.within .value stack) = place (ofPrinted stack.length j) stack
  | .null, stack => rfl
  | .bool b, stack => rfl
  | .num n, stack => rfl
  | .str s, stack => rfl
  | .arr [], stack => by
    rw [ofPrinted, ← isDeep_eq]
    rfl
  | .arr (x :: xs), stack => by
    have hx := foldl_stream x (.array [] :: stack)
    have hxs := foldl_itemStream xs stack [ofPrinted (stack.length + 1) x]
    rw [ofPrinted, ← isDeep_eq]
    simp only [stream, List.foldl_cons]
    refine (foldl_firstItem x (.array [] :: stack) (itemStream xs)).trans ?_
    rw [List.foldl_append, hx]
    exact hxs
  | .obj [], stack => by
    rw [ofPrinted, ← isDeep_eq]
    rfl
  | .obj ((k, v) :: ms), stack => by
    have hv := foldl_stream v (.member [] (some k) :: stack)
    have hms := foldl_memberStream ms stack [(some k, ofPrinted (stack.length + 1) v)]
    rw [ofPrinted, ← isDeep_eq]
    simp only [stream, List.foldl_cons, List.foldl_append]
    refine (congrArg (List.foldl Progress.step · (memberStream ms)) hv).trans hms
theorem foldl_itemStream : ∀ (xs : List Json) (stack : List Frame) (before : List Outline),
    (itemStream xs).foldl Progress.step (.within .next (.array before :: stack)) =
      place (.arr (isDeep stack) (before.reverse ++ ofPrintedItems (stack.length + 1) xs) true)
        stack
  | [], stack, before => by
    rw [ofPrintedItems, List.append_nil]
    rfl
  | x :: xs, stack, before => by
    have hx := foldl_stream x (.array before :: stack)
    have hxs := foldl_itemStream xs stack (ofPrinted (stack.length + 1) x :: before)
    rw [List.reverse_cons, List.append_assoc, List.singleton_append] at hxs
    simp only [itemStream, List.foldl_cons, List.foldl_append]
    exact (congrArg (List.foldl Progress.step · (itemStream xs)) hx).trans hxs
theorem foldl_memberStream : ∀ (ms : List (String × Json)) (stack : List Frame)
    (before : List (Option String × Outline)),
    (memberStream ms).foldl Progress.step (.within .next (.object before :: stack)) =
      place (.obj (isDeep stack) (before.reverse ++ ofPrintedMembers (stack.length + 1) ms) true)
        stack
  | [], stack, before => by
    rw [ofPrintedMembers, List.append_nil]
    rfl
  | (k, v) :: ms, stack, before => by
    have hv := foldl_stream v (.member before (some k) :: stack)
    have hms := foldl_memberStream ms stack ((some k, ofPrinted (stack.length + 1) v) :: before)
    rw [List.reverse_cons, List.append_assoc, List.singleton_append] at hms
    simp only [memberStream, List.foldl_cons, List.foldl_append]
    exact (congrArg (List.foldl Progress.step · (memberStream ms)) hv).trans hms
end

theorem ofText_of_stream {cs : List Char} {j : Json} (h : Json.Scan.between.run cs = j.stream) :
    Outline.ofText (String.ofList cs) = ⟨ofPrinted 0 j, true⟩ := by
  rw [Outline.ofText, ofTokens, Json.tokens, String.toList_ofList, h, foldl_stream]
  rfl

theorem ofText_compact (j : Json) : Outline.ofText j.compact = ⟨ofPrinted 0 j, true⟩ := by
  refine ofText_of_stream ?_
  have h := j.run_compactChars Stops.nil
  rwa [List.append_nil, Json.Scan.run, Json.Scan.finish, List.append_nil] at h

theorem ofText_pretty (j : Json) {blanks : String}
    (hblanks : ∀ c ∈ blanks.toList, Json.isSpace c = true) :
    Outline.ofText (j.pretty ++ blanks) = ⟨ofPrinted 0 j, true⟩ := by
  have hend : Json.Scan.between.run blanks.toList = [] := by
    simpa [Json.Scan.run, Json.Scan.finish] using Json.run_blanks hblanks []
  have hstops : Stops Json.goesOn blanks.toList := by
    intro c hc
    have hspace := hblanks c (List.mem_of_mem_head? hc)
    simp only [Json.isSpace, Bool.or_eq_true, beq_iff_eq] at hspace
    rcases hspace with ((rfl | rfl) | rfl) | rfl <;> rfl
  have h := j.run_prettyChars 0 hstops
  rw [hend, List.append_nil] at h
  have htext : j.pretty ++ blanks = String.ofList (j.prettyChars 0 ++ blanks.toList) := by
    apply String.toList_inj.mp
    simp [Json.pretty]
  rw [htext]
  exact ofText_of_stream h

end Outline

end UplinkFlow
