import QueryAlgebra.Proofs.Floating.Printer
import QueryAlgebra.Proofs.Json.Lexing
import QueryAlgebra.Proofs.Text.Quoted

/-!
Different JSON values have different texts. A value can be told from its text also when more text
follows, as long as what follows does not run on a word; so arrays and objects come apart into the
texts of their parts in one way only.
-/

namespace QueryAlgebra

open JsonLexer (isWordChar EndsWord escaped?)

theorem isWordChar_of_isDigit_or_eq_point (c : Char) (kind : c.isDigit = true ∨ c = '.') :
    isWordChar c = true := by
  rcases kind with digit | rfl
  · exact isWordChar_of_isDigit c digit
  · decide

theorem Scientific.isWordChar_of_mem_leadingText (s : Scientific) (c : Char)
    (member : c ∈ s.leadingText) : isWordChar c = true := by
  rcases List.mem_cons.mp member with rfl | digit
  · split <;> decide
  · exact isWordChar_of_isDigit c (isDigit_of_mem_decimalDigits _ c digit)

theorem Floating.isWordChar_of_mem_jsonSize {format : FloatFormat} (x : Floating format) (c : Char)
    (member : c ∈ x.jsonSize) : isWordChar c = true := by
  rcases x.jsonSize_cases with form | form
  · obtain ⟨n, places, pointed, -, -⟩ := (format.shortest .even x.magnitude).pointed_eq
    rw [form, pointed] at member
    exact isWordChar_of_isDigit_or_eq_point c
      (isDigit_or_eq_point_of_mem_pointDigits n places c member)
  · rw [form, Scientific.scientific_eq, List.mem_append, List.mem_cons] at member
    rcases member with digits | rfl | exponent
    · exact isWordChar_of_isDigit_or_eq_point c
        (Scientific.isDigit_or_eq_point_of_mem_mantissa _ (isDigit_of_mem_decimalDigits _) c digits)
    · decide
    · exact Scientific.isWordChar_of_mem_leadingText _ c exponent

theorem Floating.isWordChar_of_mem_jsonText {format : FloatFormat} (x : Floating format)
    (finite : x.isFinite) (c : Char) (member : c ∈ x.jsonText) : isWordChar c = true := by
  rw [x.jsonText_eq finite] at member
  split at member
  · rcases List.mem_cons.mp member with rfl | member
    · decide
    · exact x.isWordChar_of_mem_jsonSize c member
  · exact x.isWordChar_of_mem_jsonSize c member

theorem Floating.jsonText_begins {format : FloatFormat} (x : Floating format)
    (finite : x.isFinite) :
    ∃ c rest, x.jsonText = c :: rest ∧ (c.isDigit = true ∨ c = '-') := by
  rw [x.jsonText_eq finite]
  split
  · exact ⟨'-', _, rfl, .inr rfl⟩
  · obtain ⟨c, rest, form, digit⟩ := x.jsonSize_begins
    exact ⟨c, rest, form, .inl digit⟩

theorem Floating.jsonText_ne_nil {format : FloatFormat} (x : Floating format)
    (finite : x.isFinite) : x.jsonText ≠ [] := by
  obtain ⟨c, rest, form, -⟩ := x.jsonText_begins finite
  rw [form]
  exact List.cons_ne_nil c rest

namespace JsonNumber

theorem isWordChar_of_mem_text (number : JsonNumber) (c : Char) (member : c ∈ number.text) :
    isWordChar c = true := by
  cases number with
  | integer n =>
      rcases isDigit_or_eq_minus_of_mem_intDigits n c member with digit | rfl
      · exact isWordChar_of_isDigit c digit
      · decide
  | float x finite => exact x.isWordChar_of_mem_jsonText finite c member

theorem text_begins (number : JsonNumber) :
    ∃ c rest, number.text = c :: rest ∧ (c.isDigit = true ∨ c = '-') := by
  cases number with
  | integer n =>
      rw [text, intDigits]
      split
      · exact ⟨'-', _, rfl, .inr rfl⟩
      · obtain ⟨c, rest, form, digit⟩ := decimalDigits_begins n.natAbs []
        exact ⟨c, rest, by simpa using form, .inl digit⟩
  | float x finite => exact x.jsonText_begins finite

theorem text_ne_cons (number : JsonNumber) (c : Char) (rest : List Char)
    (notDigit : c.isDigit = false) (notMinus : c ≠ '-') : number.text ≠ c :: rest := by
  intro same
  obtain ⟨first, tail, form, kind⟩ := number.text_begins
  rw [form] at same
  rw [(List.cons.inj same).1, notDigit] at kind
  rcases kind with digit | minus
  · cases digit
  · exact notMinus minus

theorem intDigits_ne_jsonText (n : Int) (x : Binary64) (finite : x.isFinite) :
    intDigits n ≠ x.jsonText := by
  intro same
  obtain ⟨c, member, mark⟩ := x.exists_mark_of_jsonSize
  have inside : c ∈ intDigits n := by
    rw [same, x.jsonText_eq finite]
    split
    · exact List.mem_cons_of_mem '-' member
    · exact member
  have kind := isDigit_or_eq_minus_of_mem_intDigits n c inside
  rcases mark with rfl | rfl <;> revert kind <;> decide

theorem text_inj (n m : JsonNumber) : n.text = m.text ↔ n = m := by
  refine ⟨?_, congrArg text⟩
  intro same
  cases n with
  | integer n =>
      cases m with
      | integer m =>
          obtain rfl := (intDigits_inj n m).mp same
          rfl
      | float y finite => exact absurd same (intDigits_ne_jsonText n y finite)
  | float x finite =>
      cases m with
      | integer m => exact absurd same.symm (intDigits_ne_jsonText m x finite)
      | float y finite' =>
          obtain rfl := (x.jsonText_inj y finite finite').mp same
          rfl

end JsonNumber

namespace Json

/-- The mark that shows a string, an array or an object. The other values are words. -/
def opening : Json → Option Char
  | string _ => some '"'
  | array _ => some '['
  | object _ => some '{'
  | _ => none

theorem text_of_opening (json : Json) (c : Char) (opens : json.opening = some c) :
    ∃ rest, json.text = c :: rest := by
  cases json with
  | null | bool | number => cases opens
  | string s => exact Option.some.inj opens ▸ ⟨_, rfl⟩
  | array items => exact Option.some.inj opens ▸ ⟨_, rfl⟩
  | object entries => exact Option.some.inj opens ▸ ⟨_, rfl⟩

theorem not_isWordChar_of_opening (json : Json) (c : Char) (opens : json.opening = some c) :
    isWordChar c = false := by
  cases json <;> cases opens <;> decide

theorem text_of_word (json : Json) (word : json.opening = none) :
    json.text ≠ [] ∧ ∀ c ∈ json.text, isWordChar c = true := by
  cases json with
  | null => exact ⟨isWord_null.nonempty, isWord_null.letters⟩
  | bool b => exact ⟨(isWord_bool b).nonempty, (isWord_bool b).letters⟩
  | number n =>
      obtain ⟨c, rest, form, -⟩ := n.text_begins
      have written : (number n).text = c :: rest := form
      exact ⟨written ▸ List.cons_ne_nil c rest, n.isWordChar_of_mem_text⟩
  | string | array | object => cases word

theorem opening_eq (json : Json) (rest : List Char) :
    json.opening = (json.text ++ rest).head?.filter fun c => !isWordChar c := by
  cases opens : json.opening with
  | some c =>
      obtain ⟨tail, form⟩ := json.text_of_opening c opens
      have notWord := json.not_isWordChar_of_opening c opens
      rw [form, List.cons_append, List.head?_cons, Option.filter_some_pos (by rw [notWord]; rfl)]
  | none =>
      obtain ⟨nonempty, letters⟩ := json.text_of_word opens
      obtain ⟨c, tail, form⟩ := List.exists_cons_of_ne_nil nonempty
      have letter : isWordChar c = true := letters c (by simp [form])
      rw [form, List.cons_append, List.head?_cons, Option.filter_some_neg (by rw [letter]; decide)]

theorem text_append_ne_cons (json : Json) (rest tail : List Char) (mark : Char)
    (notWord : isWordChar mark = false) (notOpening : json.opening ≠ some mark) :
    json.text ++ rest ≠ mark :: tail := by
  intro same
  apply notOpening
  rw [json.opening_eq rest, same]
  simp [notWord]

theorem eq_of_word (a b : Json) (word : a.opening = none) (word' : b.opening = none)
    (same : a.text = b.text) : a = b := by
  cases a with
  | null =>
      cases b with
      | null => rfl
      | bool b => cases b <;> exact absurd same (by decide)
      | number m => exact absurd same.symm (m.text_ne_cons 'n' _ (by decide) (by decide))
      | string | array | object => cases word'
  | bool a =>
      cases b with
      | null => cases a <;> exact absurd same (by decide)
      | bool b =>
          cases a <;> cases b
          all_goals
            first
            | rfl
            | exact absurd same (by decide)
      | number m =>
          cases a
          · exact absurd same.symm (m.text_ne_cons 'f' _ (by decide) (by decide))
          · exact absurd same.symm (m.text_ne_cons 't' _ (by decide) (by decide))
      | string | array | object => cases word'
  | number n =>
      cases b with
      | null => exact absurd same (n.text_ne_cons 'n' _ (by decide) (by decide))
      | bool b =>
          cases b
          · exact absurd same (n.text_ne_cons 'f' _ (by decide) (by decide))
          · exact absurd same (n.text_ne_cons 't' _ (by decide) (by decide))
      | number m =>
          obtain rfl := (n.text_inj m).mp same
          rfl
      | string | array | object => cases word'
  | string | array | object => cases word

def unescape? : List Char → Option (Char × List Char)
  | '\\' :: 'u' :: rest =>
      (ofHexDigits? (rest.take 4)).map fun unit => (Char.ofNat unit, rest.drop 4)
  | '\\' :: mark :: rest => (escaped? mark).map fun c => (c, rest)
  | c :: rest => some (c, rest)
  | [] => none

theorem escapes_escapeChar : Escapes escapeChar unescape? := by
  constructor
  · intro c rest
    rcases JsonLexer.escapeChar_cases c with
      ⟨mark, notUnicode, meant, form⟩ | ⟨control, form⟩ | ⟨-, plain, -, form⟩
    · simp [form, unescape?, meant]
    · have digits : (hexDigits 4 c.toNat).length = 4 := length_hexDigits 4 c.toNat
      have unit : ofHexDigits? (hexDigits 4 c.toNat) = some c.toNat := by
        rw [ofHexDigits?_hexDigits, Nat.mod_eq_of_lt (by omega)]
      rw [form, List.cons_append, List.cons_append, unescape?, List.take_left' digits,
        List.drop_left' digits, unit, Option.map_some, Char.ofNat_toNat]
    · simp [form, unescape?, plain]
  · intro c rest rest'
    rcases JsonLexer.escapeChar_cases c with
      ⟨mark, -, -, form⟩ | ⟨-, form⟩ | ⟨notQuote, -, -, form⟩
    · simp [form]
    · simp [form]
    · simp [form, notQuote]

theorem quote_append_inj (s t : String) (rest rest' : List Char)
    (same : quote s ++ rest = quote t ++ rest') : s = t ∧ rest = rest' := by
  obtain ⟨texts, rests⟩ := escapes_escapeChar.quotation_inj _ _ _ _ same
  exact ⟨String.toList_inj.mp texts, rests⟩

theorem text_array (items : List Json) : (array items).text = '[' :: (itemsText items ++ [']']) :=
  rfl

theorem text_object (entries : List (String × Json)) :
    (object entries).text = '{' :: (entriesText entries ++ ['}']) :=
  rfl

/-- What follows one part of an array or object: the other parts after a comma, if there are any,
the closing mark, and the text after that. -/
def afterPart {α : Type} (write : List α → List Char) (closing : Char) (others : List α)
    (rest : List Char) : List Char :=
  if others.isEmpty then closing :: rest else ',' :: (write others ++ closing :: rest)

theorem endsWord_afterPart {α : Type} (write : List α → List Char) (closing : Char)
    (others : List α) (rest : List Char) (notWord : isWordChar closing = false) :
    EndsWord (afterPart write closing others rest) := by
  intro c member
  cases others with
  | nil =>
      cases member
      exact notWord
  | cons other others =>
      cases member
      decide

theorem write_of_afterPart {α : Type} (write : List α → List Char) (closing : Char)
    (parts others : List α) (rest rest' : List Char) (notComma : closing ≠ ',')
    (same : afterPart write closing parts rest = afterPart write closing others rest') :
    write parts ++ closing :: rest = write others ++ closing :: rest' := by
  cases parts with
  | nil =>
      cases others with
      | nil => rw [(List.cons.inj same).2]
      | cons other others => exact absurd (List.cons.inj same).1 notComma
  | cons part parts =>
      cases others with
      | nil => exact absurd (List.cons.inj same).1.symm notComma
      | cons other others => exact (List.cons.inj same).2

theorem itemsText_cons_append (item : Json) (items : List Json) (rest : List Char) :
    itemsText (item :: items) ++ ']' :: rest = item.text ++ afterPart itemsText ']' items rest := by
  cases items with
  | nil => rfl
  | cons next items => simp [itemsText, afterPart]

theorem entriesText_cons_append (key : String) (value : Json) (entries : List (String × Json))
    (rest : List Char) :
    entriesText ((key, value) :: entries) ++ '}' :: rest =
      quote key ++ ':' :: (value.text ++ afterPart entriesText '}' entries rest) := by
  cases entries with
  | nil => simp [entriesText, afterPart]
  | cons next entries => simp [entriesText, afterPart]

theorem itemsText_cons_ne (item : Json) (items : List Json) (rest tail : List Char) :
    itemsText (item :: items) ++ ']' :: rest ≠ ']' :: tail := by
  have notOpening : item.opening ≠ some ']' := by
    cases item <;> simp [opening]
  rw [itemsText_cons_append]
  exact item.text_append_ne_cons _ tail ']' (by decide) notOpening

theorem entriesText_cons_ne (entry : String × Json) (entries : List (String × Json))
    (rest tail : List Char) : entriesText (entry :: entries) ++ '}' :: rest ≠ '}' :: tail := by
  rcases entry with ⟨key, value⟩
  rw [entriesText_cons_append, quote]
  simp

theorem word_append_inj (a b : Json) (rest rest' : List Char) (word : a.opening = none)
    (word' : b.opening = none) (ends : EndsWord rest) (ends' : EndsWord rest')
    (same : a.text ++ rest = b.text ++ rest') : a = b ∧ rest = rest' := by
  obtain ⟨texts, rests⟩ := cut_inj isWordChar (a.text_of_word word).2 (b.text_of_word word').2
    ends ends' same
  exact ⟨eq_of_word a b word word' texts, rests⟩

theorem opening_eq_of_append (a b : Json) (rest rest' : List Char)
    (same : a.text ++ rest = b.text ++ rest') : a.opening = b.opening := by
  rw [a.opening_eq rest, same, ← b.opening_eq rest']

mutual
/-- A text that goes on after a value begins with the text of no other value. -/
theorem text_append_inj : (a b : Json) → (rest rest' : List Char) → EndsWord rest →
    EndsWord rest' → a.text ++ rest = b.text ++ rest' → a = b ∧ rest = rest'
  | null, b, rest, rest', ends, ends', same | bool _, b, rest, rest', ends, ends', same
  | number _, b, rest, rest', ends, ends', same =>
      word_append_inj _ b rest rest' rfl (opening_eq_of_append _ b rest rest' same).symm ends ends'
        same
  | string s, b, rest, rest', _, _, same => by
      have openings := opening_eq_of_append _ b rest rest' same
      cases b with
      | string t =>
          obtain ⟨rfl, rests⟩ := quote_append_inj s t rest rest' same
          exact ⟨rfl, rests⟩
      | null | bool | number | array | object => cases openings
  | array items, b, rest, rest', _, _, same => by
      have openings := opening_eq_of_append _ b rest rest' same
      cases b with
      | array others =>
          rw [text_array, text_array, List.cons_append, List.cons_append] at same
          have inside : itemsText items ++ ']' :: rest = itemsText others ++ ']' :: rest' := by
            simpa using (List.cons.inj same).2
          obtain ⟨rfl, rests⟩ := itemsText_append_inj items others rest rest' inside
          exact ⟨rfl, rests⟩
      | null | bool | number | string | object => cases openings
  | object entries, b, rest, rest', _, _, same => by
      have openings := opening_eq_of_append _ b rest rest' same
      cases b with
      | object others =>
          rw [text_object, text_object, List.cons_append, List.cons_append] at same
          have inside : entriesText entries ++ '}' :: rest = entriesText others ++ '}' :: rest' := by
            simpa using (List.cons.inj same).2
          obtain ⟨rfl, rests⟩ := entriesText_append_inj entries others rest rest' inside
          exact ⟨rfl, rests⟩
      | null | bool | number | string | array => cases openings

theorem itemsText_append_inj : (items others : List Json) → (rest rest' : List Char) →
    itemsText items ++ ']' :: rest = itemsText others ++ ']' :: rest' →
    items = others ∧ rest = rest'
  | [], others, rest, rest', same => by
      cases others with
      | nil => exact ⟨rfl, (List.cons.inj same).2⟩
      | cons other others => exact absurd same.symm (itemsText_cons_ne other others rest' rest)
  | item :: items, others, rest, rest', same => by
      cases others with
      | nil => exact absurd same (itemsText_cons_ne item items rest rest')
      | cons other others =>
          rw [itemsText_cons_append, itemsText_cons_append] at same
          obtain ⟨rfl, after⟩ := text_append_inj item other _ _
            (endsWord_afterPart itemsText ']' items rest (by decide))
            (endsWord_afterPart itemsText ']' others rest' (by decide)) same
          obtain ⟨rfl, rests⟩ := itemsText_append_inj items others rest rest'
            (write_of_afterPart itemsText ']' items others rest rest' (by decide) after)
          exact ⟨rfl, rests⟩

theorem entriesText_append_inj : (entries others : List (String × Json)) →
    (rest rest' : List Char) →
    entriesText entries ++ '}' :: rest = entriesText others ++ '}' :: rest' →
    entries = others ∧ rest = rest'
  | [], others, rest, rest', same => by
      cases others with
      | nil => exact ⟨rfl, (List.cons.inj same).2⟩
      | cons other others => exact absurd same.symm (entriesText_cons_ne other others rest' rest)
  | (key, value) :: entries, others, rest, rest', same => by
      cases others with
      | nil => exact absurd same (entriesText_cons_ne (key, value) entries rest rest')
      | cons other others =>
          rcases other with ⟨otherKey, other⟩
          rw [entriesText_cons_append, entriesText_cons_append] at same
          obtain ⟨rfl, values⟩ := quote_append_inj key otherKey _ _ same
          obtain ⟨rfl, after⟩ := text_append_inj value other _ _
            (endsWord_afterPart entriesText '}' entries rest (by decide))
            (endsWord_afterPart entriesText '}' others rest' (by decide)) (List.cons.inj values).2
          obtain ⟨rfl, rests⟩ := entriesText_append_inj entries others rest rest'
            (write_of_afterPart entriesText '}' entries others rest rest' (by decide) after)
          exact ⟨rfl, rests⟩
end

theorem text_inj (a b : Json) : a.text = b.text ↔ a = b := by
  refine ⟨?_, congrArg text⟩
  intro same
  have ends : EndsWord [] := by simp [EndsWord]
  exact (text_append_inj a b [] [] ends ends (by rw [same])).1

end Json
end QueryAlgebra
