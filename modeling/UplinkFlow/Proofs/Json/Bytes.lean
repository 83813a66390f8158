import UplinkFlow.Json.Reader
import UplinkFlow.Proofs.Text.Utf8

/-!
# Bytes that need not be a text

* `tokensOfBytes_utf8Bytes`, `Reader.ofBytes_utf8Bytes` — the bytes of a text are read as the text.
* `readAll_quoted` — a string ends at its quote whatever bytes stand in it; it has a value exactly if
  all of them are characters.  So a reader that passes over a string does not mind them.
-/

set_option autoImplicit false

namespace UplinkFlow

namespace Json

/-! ## The bytes of a text -/

theorem Scan.readAll_map_some (scan : Scan) (cs : List Char) :
    scan.readAll (cs.map some) = scan.run cs := by
  induction cs generalizing scan with
  | nil => rfl
  | cons c cs ih =>
    rw [List.map_cons, readAll, run]
    exact congrArg ((scan.step c).2 ++ ·) (ih _)

theorem tokensOfBytes_utf8Bytes (s : String) : tokensOfBytes (Text.utf8Bytes s) = tokens s := by
  rw [tokensOfBytes, Text.symbols_utf8Bytes, Scan.readAll_map_some, tokens]

/-! ## Strings -/

/-- The piece of a string that a symbol is. -/
def Piece.ofSymbol : Option Char → Piece
  | some c => .char c
  | none => .stray

theorem assemble_map_ofSymbol (xs : List (Option Char)) :
    assemble (xs.map Piece.ofSymbol) = xs.mapM id := by
  induction xs with
  | nil => rfl
  | cons x xs ih =>
    cases x with
    | none => rfl
    | some c =>
      simp only [List.map_cons, Piece.ofSymbol, assemble, ih, List.mapM_cons, id]
      cases xs.mapM id <;> rfl

/-- No symbol ends a string or begins an escape. -/
def Literally (xs : List (Option Char)) : Prop :=
  ∀ c, some c ∈ xs → c ≠ '"' ∧ c ≠ '\\' ∧ 0x20 ≤ c.toNat

theorem Literally.tail {x : Option Char} {xs : List (Option Char)} (h : Literally (x :: xs)) :
    Literally xs :=
  fun c hc => h c (List.mem_cons_of_mem x hc)

theorem Scan.read_literally {x : Option Char} {xs : List (Option Char)} (h : Literally (x :: xs))
    (reversed : List Piece) :
    (Scan.text reversed).read x = (.text (.ofSymbol x :: reversed), []) := by
  cases x with
  | none => rfl
  | some c =>
    obtain ⟨hquote, hbackslash, hprintable⟩ := h c List.mem_cons_self
    simp [read, step, Piece.ofSymbol, hquote, hbackslash, Nat.not_lt.mpr hprintable]

theorem Scan.readAll_literally {xs : List (Option Char)} (h : Literally xs)
    (reversed : List Piece) (rest : List (Option Char)) :
    (Scan.text reversed).readAll (xs ++ rest) =
      (Scan.text ((xs.map Piece.ofSymbol).reverse ++ reversed)).readAll rest := by
  induction xs generalizing reversed with
  | nil => rfl
  | cons x xs ih =>
    rw [List.cons_append, readAll, read_literally h]
    simp only [List.nil_append, ih h.tail, List.map_cons, List.reverse_cons, List.append_assoc,
      List.singleton_append]

/-- **A string ends at its quote whatever bytes stand in it, and it has a value exactly if all of
them are characters.** -/
theorem readAll_quoted {xs : List (Option Char)} (h : Literally xs) (rest : List (Option Char)) :
    Scan.between.readAll (some '"' :: xs ++ some '"' :: rest) =
      .str ((xs.mapM id).map String.ofList) :: Scan.between.readAll rest := by
  have hstart : Scan.between.readAll (some '"' :: xs ++ some '"' :: rest) =
      (Scan.text []).readAll (xs ++ some '"' :: rest) := rfl
  rw [hstart, Scan.readAll_literally h]
  simp [Scan.readAll, Scan.read, Scan.step, Token.ofPieces, assemble_map_ofSymbol]

example : tokensOfBytes (Text.utf8Bytes "\"caf" ++ [0xe9, 0x22]) = [.str none] := by rfl

end Json

/-! ## Readers -/

theorem Outline.ofBytes_utf8Bytes (s : String) : ofBytes (Text.utf8Bytes s) = ofText s := by
  rw [ofBytes, Json.tokensOfBytes_utf8Bytes, ofText]

theorem Reader.ofBytes_utf8Bytes {α : Type} (reader : Reader α) (s : String) :
    reader.ofBytes (Text.utf8Bytes s) = reader.ofText s := by
  rw [ofBytes, Outline.ofBytes_utf8Bytes, ofText]

end UplinkFlow
