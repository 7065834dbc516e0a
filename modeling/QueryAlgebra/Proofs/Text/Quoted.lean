import QueryAlgebra.Proofs.Text.Numeral
import QueryAlgebra.Text.Quoted

/-!
A text in quotes is told from whatever follows it. Each character inside is read back from the
characters it was written as, and the quote that ends the text is none of them.
-/

namespace QueryAlgebra

/-- A way of writing characters between quotes, and the reader that takes the first one off. -/
structure Escapes (write : Char → List Char) (read? : List Char → Option (Char × List Char)) :
    Prop where
  reads : ∀ c rest, read? (write c ++ rest) = some (c, rest)
  inside : ∀ c rest rest', write c ++ rest ≠ '"' :: rest'

namespace Escapes

variable {write : Char → List Char} {read? : List Char → Option (Char × List Char)}

theorem char_inj (escapes : Escapes write read?) (c d : Char) (rest rest' : List Char)
    (same : write c ++ rest = write d ++ rest') : c = d ∧ rest = rest' := by
  have read : some (c, rest) = some (d, rest') := by
    rw [← escapes.reads, ← escapes.reads, same]
  simpa using read

theorem text_inj (escapes : Escapes write read?) (text text' rest rest' : List Char)
    (same : text.flatMap write ++ '"' :: rest = text'.flatMap write ++ '"' :: rest') :
    text = text' ∧ rest = rest' := by
  induction text generalizing text' with
  | nil =>
      cases text' with
      | nil => exact ⟨rfl, (List.cons.inj same).2⟩
      | cons d text' =>
          rw [List.flatMap_cons, List.append_assoc] at same
          exact absurd same.symm (escapes.inside d _ _)
  | cons c text ih =>
      cases text' with
      | nil =>
          rw [List.flatMap_cons, List.append_assoc] at same
          exact absurd same (escapes.inside c _ _)
      | cons d text' =>
          rw [List.flatMap_cons, List.flatMap_cons, List.append_assoc, List.append_assoc] at same
          obtain ⟨rfl, tails⟩ := escapes.char_inj c d _ _ same
          obtain ⟨rfl, rfl⟩ := ih text' tails
          exact ⟨rfl, rfl⟩

theorem quotation_inj (escapes : Escapes write read?) (text text' rest rest' : List Char)
    (same : '"' :: text.flatMap write ++ ['"'] ++ rest =
      '"' :: text'.flatMap write ++ ['"'] ++ rest') : text = text' ∧ rest = rest' := by
  apply escapes.text_inj
  simpa using same

end Escapes

def quotedMark? : Char → Option Char
  | '"' => some '"'
  | '\\' => some '\\'
  | 'n' => some '\n'
  | 'r' => some '\r'
  | 't' => some '\t'
  | '0' => some '\x00'
  | _ => none

def readQuotedChar? : List Char → Option (Char × List Char)
  | '\\' :: 'u' :: '\x7b' :: rest =>
      (ofHexDigits? (rest.takeWhile (· ≠ '\x7d'))).map fun code =>
        (Char.ofNat code, (rest.dropWhile (· ≠ '\x7d')).tail)
  | '\\' :: mark :: rest => (quotedMark? mark).map fun c => (c, rest)
  | c :: rest => some (c, rest)
  | [] => none

theorem quotedChar_cases (c : Char) :
    (∃ mark, mark ≠ 'u' ∧ quotedMark? mark = some c ∧ quotedChar c = ['\\', mark]) ∨
      quotedChar c = '\\' :: 'u' :: '\x7b' :: hexNumeral c.toNat ++ ['\x7d'] ∨
        (c ≠ '"' ∧ c ≠ '\\' ∧ quotedChar c = [c]) := by
  by_cases quote : c = '"'
  · subst quote
    exact .inl ⟨'"', by decide, rfl, rfl⟩
  by_cases backslash : c = '\\'
  · subst backslash
    exact .inl ⟨'\\', by decide, rfl, rfl⟩
  by_cases newline : c = '\n'
  · subst newline
    exact .inl ⟨'n', by decide, rfl, rfl⟩
  by_cases carriageReturn : c = '\r'
  · subst carriageReturn
    exact .inl ⟨'r', by decide, rfl, rfl⟩
  by_cases tab : c = '\t'
  · subst tab
    exact .inl ⟨'t', by decide, rfl, rfl⟩
  by_cases null : c.toNat = 0
  · obtain rfl : c = '\x00' := Char.toNat_inj.mp null
    exact .inl ⟨'0', by decide, rfl, rfl⟩
  have others : quotedChar c =
      if c.toNat < 0x20 ∨ c.toNat = 0x7F ∨ isInvisible c then
        '\\' :: 'u' :: '\x7b' :: hexNumeral c.toNat ++ ['\x7d']
      else [c] := by
    rw [quotedChar, if_neg quote, if_neg backslash, if_neg newline, if_neg carriageReturn,
      if_neg tab, if_neg null]
  by_cases invisible : c.toNat < 0x20 ∨ c.toNat = 0x7F ∨ isInvisible c
  · exact .inr (.inl (others.trans (if_pos invisible)))
  · exact .inr (.inr ⟨quote, backslash, others.trans (if_neg invisible)⟩)

theorem ne_brace_of_mem_hexNumeral (n : Nat) (c : Char) (member : c ∈ hexNumeral n) :
    decide (c ≠ '\x7d') = true := by
  apply decide_eq_true
  rintro rfl
  exact absurd (isSome_hexValue?_of_mem_hexNumeral n _ member) (by decide)

theorem escapes_quotedChar : Escapes quotedChar readQuotedChar? := by
  constructor
  · intro c rest
    rcases quotedChar_cases c with ⟨mark, notUnicode, meant, form⟩ | form | ⟨-, plain, form⟩
    · simp [form, readQuotedChar?, notUnicode, meant]
    · have digits := ne_brace_of_mem_hexNumeral c.toNat
      have number : (hexNumeral c.toNat ++ '\x7d' :: rest).takeWhile (· ≠ '\x7d') =
          hexNumeral c.toNat := by
        rw [List.takeWhile_append_of_pos digits]
        simp
      have after : (hexNumeral c.toNat ++ '\x7d' :: rest).dropWhile (· ≠ '\x7d') =
          '\x7d' :: rest := by
        rw [List.dropWhile_append_of_pos digits]
        simp
      have spelled : quotedChar c ++ rest =
          '\\' :: 'u' :: '\x7b' :: (hexNumeral c.toNat ++ '\x7d' :: rest) := by
        simp [form]
      rw [spelled, readQuotedChar?, number, after, ofHexDigits?_hexNumeral, Option.map_some,
        Char.ofNat_toNat, List.tail_cons]
    · simp [form, readQuotedChar?, plain]
  · intro c rest rest'
    rcases quotedChar_cases c with ⟨mark, -, -, form⟩ | form | ⟨notQuote, -, form⟩
    · simp [form]
    · simp [form]
    · simp [form, notQuote]

theorem quoted_append_inj (s t : String) (rest rest' : List Char)
    (same : (quoted s).toList ++ rest = (quoted t).toList ++ rest') : s = t ∧ rest = rest' := by
  simp only [quoted, String.toList_ofList] at same
  obtain ⟨texts, rests⟩ := escapes_quotedChar.quotation_inj _ _ _ _ same
  exact ⟨String.toList_inj.mp texts, rests⟩

end QueryAlgebra
