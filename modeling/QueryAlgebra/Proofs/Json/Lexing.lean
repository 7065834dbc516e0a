import QueryAlgebra.Json.Printer
import QueryAlgebra.Json.Token
import QueryAlgebra.Proofs.Json.Literal
import QueryAlgebra.Proofs.Json.Numbers

/-!
The tokens of a printed JSON value are the ones of its tree. What follows a value in the text must
not run on a word that ends it.
-/

namespace QueryAlgebra

/-- A word that stands for a token. -/
structure JsonToken.IsWord (token : JsonToken) (word : List Char) : Prop where
  nonempty : word ≠ []
  letters : ∀ c ∈ word, JsonLexer.isWordChar c = true
  reads : JsonToken.ofWord? word = some token

def JsonLexer.EndsWord (rest : List Char) : Prop :=
  ∀ c ∈ rest.head?, JsonLexer.isWordChar c = false

/-- The printed number is a word that stands for a number, not always the same one. -/
def JsonNumber.ReadsAs (number other : JsonNumber) : Prop :=
  (JsonToken.number other).IsWord number.text

def JsonNumber.ReadsBack (number : JsonNumber) : Prop :=
  (JsonToken.number number).IsWord number.text

namespace Json

mutual
def tokens : Json → List JsonToken
  | null => [.null]
  | bool b => [.bool b]
  | number n => [.number n]
  | string s => [.string s]
  | array items => .openArray :: itemsTokens items ++ [.closeArray]
  | object entries => .openObject :: entriesTokens entries ++ [.closeObject]

def itemsTokens : List Json → List JsonToken
  | [] => []
  | [item] => item.tokens
  | item :: items => item.tokens ++ .comma :: itemsTokens items

def entriesTokens : List (String × Json) → List JsonToken
  | [] => []
  | [(key, value)] => .string key :: .colon :: value.tokens
  | (key, value) :: entries =>
      .string key :: .colon :: value.tokens ++ .comma :: entriesTokens entries
end

end Json

namespace JsonLexer

/-- Whatever is read from the rest, the text in front of it adds the tokens. -/
def Lexes (text : List Char) (tokens : List JsonToken) (rest : List Char) : Prop :=
  between.tokens? (text ++ rest) = (between.tokens? rest).map (tokens ++ ·)

theorem Lexes.append {text others rest : List Char} {found more : List JsonToken}
    (first : Lexes text found (others ++ rest)) (second : Lexes others more rest) :
    Lexes (text ++ others) (found ++ more) rest := by
  rw [Lexes, List.append_assoc, first, second]
  simp [Function.comp_def]

theorem tokens?_cons (lexer next : JsonLexer) (c : Char) (rest : List Char)
    (found : List JsonToken) (first : lexer.step c = some (found, next)) :
    lexer.tokens? (c :: rest) = (next.tokens? rest).map (found ++ ·) := by
  rw [tokens?, first]
  cases others : next.tokens? rest <;> simp [others]

theorem tokens?_cons_silent (lexer next : JsonLexer) (c : Char) (rest : List Char)
    (first : lexer.step c = some ([], next)) : lexer.tokens? (c :: rest) = next.tokens? rest := by
  simpa using tokens?_cons lexer next c rest [] first

theorem lexes_punctuation (c : Char) (token : JsonToken) (rest : List Char)
    (stands : JsonToken.punctuation? c = some token) : Lexes [c] [token] rest := by
  have first : between.step c = some ([token], between) := by
    unfold JsonToken.punctuation? at stands
    split at stands <;> simp_all <;> subst stands <;> rfl
  exact tokens?_cons between between c rest [token] first

theorem tokens?_word_append (read letters rest : List Char)
    (all : ∀ c ∈ letters, isWordChar c = true) :
    (word read).tokens? (letters ++ rest) = (word (letters.reverse ++ read)).tokens? rest := by
  induction letters generalizing read with
  | nil => rfl
  | cons c letters ih =>
      have first : (word read).step c = some ([], word (c :: read)) := by
        simp [step, all c (by simp)]
      rw [List.cons_append, tokens?_cons_silent _ _ c _ first,
        ih (c :: read) (fun d member => all d (by simp [member]))]
      simp

theorem tokens?_word_end (read rest : List Char) (token : JsonToken)
    (stands : JsonToken.ofWord? read.reverse = some token) (ends : EndsWord rest) :
    (word read).tokens? rest = (between.tokens? rest).map (token :: ·) := by
  cases rest with
  | nil => simp [tokens?, finish, stands]
  | cons c rest =>
      have other : isWordChar c = false := ends c rfl
      simp only [tokens?, step, other, stands]
      cases begin c with
      | none => rfl
      | some found => cases tokens : found.2.tokens? rest <;> simp [tokens]

theorem step_between_of_isWordChar (c : Char) (letter : isWordChar c = true) :
    between.step c = some ([], word [c]) := by
  have notSpace : isSpace c = false := by
    by_contra space
    simp only [isSpace, Bool.not_eq_false, Bool.or_eq_true, decide_eq_true_eq] at space
    rcases space with ((rfl | rfl) | rfl) | rfl <;> revert letter <;> decide
  have notQuote : c ≠ '"' := by
    rintro rfl
    revert letter
    decide
  simp [step, begin, notSpace, notQuote, letter]

theorem lexes_word (token : JsonToken) (letters rest : List Char) (isWord : token.IsWord letters)
    (ends : EndsWord rest) : Lexes letters [token] rest := by
  cases letters with
  | nil => exact absurd rfl isWord.nonempty
  | cons c letters =>
      have first := step_between_of_isWordChar c (isWord.letters c (by simp))
      have others : ∀ d ∈ letters, isWordChar d = true :=
        fun d member => isWord.letters d (by simp [member])
      have stands : JsonToken.ofWord? (letters.reverse ++ [c]).reverse = some token := by
        simpa using isWord.reads
      rw [Lexes, List.cons_append, tokens?_cons_silent _ _ c _ first,
        tokens?_word_append [c] letters rest others, tokens?_word_end _ rest token stands ends]
      rfl

theorem tokens?_unicode (read rest : List Char) (c : Char) (small : c.toNat < 0xD800) :
    (unicode read none []).tokens? (hexDigits 4 c.toNat ++ rest) =
      (quoted (c :: read)).tokens? rest := by
  have value : ofHexDigits? (hexDigits 4 c.toNat) = some c.toNat := by
    rw [ofHexDigits?_hexDigits, Nat.mod_eq_of_lt (by omega)]
  have unit : afterUnit read none c.toNat = some (quoted (c :: read)) := by
    have notHigh : ¬(0xD800 ≤ c.toNat ∧ c.toNat < 0xDC00) := by omega
    have notLow : ¬(0xDC00 ≤ c.toNat ∧ c.toNat < 0xE000) := by omega
    simp only [afterUnit, if_neg notHigh, if_neg notLow, Char.ofNat_toNat]
  simp only [hexDigits, List.nil_append, List.cons_append] at value ⊢
  rw [tokens?_cons_silent _ _ _ _ rfl, tokens?_cons_silent _ _ _ _ rfl,
    tokens?_cons_silent _ _ _ _ rfl, tokens?_cons_silent]
  simp [step, value, unit]

theorem escapeChar_cases (c : Char) :
    (∃ mark, mark ≠ 'u' ∧ escaped? mark = some c ∧ Json.escapeChar c = ['\\', mark]) ∨
      (c.toNat < 0x20 ∧ Json.escapeChar c = '\\' :: 'u' :: hexDigits 4 c.toNat) ∨
        (c ≠ '"' ∧ c ≠ '\\' ∧ ¬c.toNat < 0x20 ∧ Json.escapeChar c = [c]) := by
  by_cases quote : c = '"'
  · subst quote
    exact .inl ⟨'"', by decide, rfl, rfl⟩
  by_cases backslash : c = '\\'
  · subst backslash
    exact .inl ⟨'\\', by decide, rfl, rfl⟩
  by_cases newline : c = '\n'
  · subst newline
    exact .inl ⟨'n', by decide, rfl, rfl⟩
  by_cases carriageReturn : c = '\r'
  · subst carriageReturn
    exact .inl ⟨'r', by decide, rfl, rfl⟩
  by_cases tab : c = '\t'
  · subst tab
    exact .inl ⟨'t', by decide, rfl, rfl⟩
  by_cases backspace : c.toNat = 0x08
  · obtain rfl : c = '\x08' := Char.toNat_inj.mp backspace
    exact .inl ⟨'b', by decide, rfl, rfl⟩
  by_cases formFeed : c.toNat = 0x0C
  · obtain rfl : c = '\x0c' := Char.toNat_inj.mp formFeed
    exact .inl ⟨'f', by decide, rfl, rfl⟩
  have others : Json.escapeChar c =
      if c.toNat < 0x20 then '\\' :: 'u' :: hexDigits 4 c.toNat else [c] := by
    rw [Json.escapeChar, if_neg quote, if_neg backslash, if_neg newline, if_neg carriageReturn,
      if_neg tab, if_neg backspace, if_neg formFeed]
  by_cases control : c.toNat < 0x20
  · exact .inr (.inl ⟨control, others.trans (if_pos control)⟩)
  · exact .inr (.inr ⟨quote, backslash, control, others.trans (if_neg control)⟩)

theorem tokens?_escapeChar (read rest : List Char) (c : Char) :
    (quoted read).tokens? (Json.escapeChar c ++ rest) = (quoted (c :: read)).tokens? rest := by
  rcases escapeChar_cases c with
    ⟨mark, notUnicode, meant, form⟩ | ⟨control, form⟩ | ⟨notQuote, notBackslash, visible, form⟩
  · have letter : (escape read).step mark = some ([], quoted (c :: read)) := by
      simp [step, meant, notUnicode]
    rw [form, List.cons_append, List.cons_append, tokens?_cons_silent _ (escape read) _ _ rfl,
      tokens?_cons_silent _ _ _ _ letter, List.nil_append]
  · rw [form, List.cons_append, List.cons_append, tokens?_cons_silent _ (escape read) _ _ rfl,
      tokens?_cons_silent _ (unicode read none []) _ _ rfl]
    exact tokens?_unicode read rest c (by omega)
  · have itself : (quoted read).step c = some ([], quoted (c :: read)) := by
      simp [step, notQuote, notBackslash, visible]
    rw [form, List.singleton_append, tokens?_cons_silent _ _ _ _ itself]

theorem tokens?_escaped (read text rest : List Char) :
    (quoted read).tokens? (text.flatMap Json.escapeChar ++ '"' :: rest) =
      (between.tokens? rest).map (.string (String.ofList (read.reverse ++ text)) :: ·) := by
  induction text generalizing read with
  | nil =>
      rw [List.flatMap_nil, List.nil_append, tokens?_cons _ between _ _ _ rfl, List.append_nil]
      rfl
  | cons c text ih =>
      rw [List.flatMap_cons, List.append_assoc, tokens?_escapeChar, ih (c :: read)]
      simp

theorem lexes_quote (s : String) (rest : List Char) : Lexes (Json.quote s) [.string s] rest := by
  have inside := tokens?_escaped [] s.toList rest
  rw [Lexes, Json.quote, List.cons_append, List.cons_append, List.append_assoc,
    tokens?_cons_silent _ (quoted []) _ _ rfl, List.singleton_append, inside]
  simp

theorem endsWord_punctuation (c : Char) (token : JsonToken) (rest : List Char)
    (stands : JsonToken.punctuation? c = some token) : EndsWord (c :: rest) := by
  intro d member
  have same : c = d := by simpa using member
  subst same
  unfold JsonToken.punctuation? at stands
  split at stands <;> first | rfl | simp_all

end JsonLexer

namespace Json

theorem isWord_null : JsonToken.null.IsWord "null".toList :=
  ⟨by decide, List.all_eq_true.mp rfl, rfl⟩

theorem isWord_bool (b : Bool) : (JsonToken.bool b).IsWord (Json.bool b).text := by
  cases b
  · exact ⟨by decide, List.all_eq_true.mp rfl, rfl⟩
  · exact ⟨by decide, List.all_eq_true.mp rfl, rfl⟩

open JsonLexer

variable (reread : JsonNumber → JsonNumber)

mutual
theorem lexes_text : (json : Json) → (rest : List Char) →
    (∀ number ∈ json.numbers, number.ReadsAs (reread number)) → EndsWord rest →
    Lexes json.text (json.mapNumbers reread).tokens rest
  | null, rest, _, ends => lexes_word .null _ rest isWord_null ends
  | bool b, rest, _, ends => lexes_word (.bool b) _ rest (isWord_bool b) ends
  | number n, rest, reads, ends => by
      have isWord : n.ReadsAs (reread n) := reads n (by simp [numbers])
      exact lexes_word (.number (reread n)) n.text rest isWord ends
  | string s, rest, _, _ => lexes_quote s rest
  | array items, rest, reads, ends => by
      have opening := lexes_punctuation '[' .openArray (itemsText items ++ ([']'] ++ rest)) rfl
      have closing := lexes_punctuation ']' .closeArray rest rfl
      have inside := lexes_itemsText items ([']'] ++ rest) reads
        (endsWord_punctuation ']' .closeArray rest rfl)
      exact (opening.append inside).append closing
  | object entries, rest, reads, ends => by
      have opening := lexes_punctuation '{' .openObject (entriesText entries ++ (['}'] ++ rest)) rfl
      have closing := lexes_punctuation '}' .closeObject rest rfl
      have inside := lexes_entriesText entries (['}'] ++ rest) reads
        (endsWord_punctuation '}' .closeObject rest rfl)
      exact (opening.append inside).append closing

theorem lexes_itemsText : (items : List Json) → (rest : List Char) →
    (∀ number ∈ itemsNumbers items, number.ReadsAs (reread number)) → EndsWord rest →
    Lexes (itemsText items) (itemsTokens (mapItems reread items)) rest
  | [], _, _, _ => by simp [Lexes, itemsText, mapItems, itemsTokens]
  | [item], rest, reads, ends =>
      lexes_text item rest (fun n member => reads n (by simp [itemsNumbers, member])) ends
  | item :: next :: items, rest, reads, ends => by
      have comma := lexes_punctuation ',' .comma (itemsText (next :: items) ++ rest) rfl
      have first := lexes_text item ([','] ++ itemsText (next :: items) ++ rest)
        (fun n member => reads n (by simp [itemsNumbers, member]))
        (endsWord_punctuation ',' .comma _ rfl)
      have others := lexes_itemsText (next :: items) rest
        (fun n member => reads n (List.mem_append_right _ member)) ends
      exact first.append (comma.append others)

theorem lexes_entriesText : (entries : List (String × Json)) → (rest : List Char) →
    (∀ number ∈ entriesNumbers entries, number.ReadsAs (reread number)) → EndsWord rest →
    Lexes (entriesText entries) (entriesTokens (mapEntries reread entries)) rest
  | [], _, _, _ => by simp [Lexes, entriesText, mapEntries, entriesTokens]
  | [(key, value)], rest, reads, ends => by
      have name := lexes_quote key ([':'] ++ value.text ++ rest)
      have colon := lexes_punctuation ':' .colon (value.text ++ rest) rfl
      have content := lexes_text value rest
        (fun n member => reads n (by simp [entriesNumbers, member])) ends
      exact name.append (colon.append content)
  | (key, value) :: next :: entries, rest, reads, ends => by
      have name := lexes_quote key
        ([':'] ++ value.text ++ ([','] ++ entriesText (next :: entries) ++ rest))
      have colon := lexes_punctuation ':' .colon
        (value.text ++ ([','] ++ entriesText (next :: entries) ++ rest)) rfl
      have content := lexes_text value ([','] ++ entriesText (next :: entries) ++ rest)
        (fun n member => reads n (by simp [entriesNumbers, member]))
        (endsWord_punctuation ',' .comma _ rfl)
      have comma := lexes_punctuation ',' .comma (entriesText (next :: entries) ++ rest) rfl
      have others := lexes_entriesText (next :: entries) rest
        (fun n member => reads n (List.mem_append_right _ member)) ends
      exact (name.append (colon.append content)).append (comma.append others)
end

theorem ofText?_of_lexes (text : List Char) (tokens : List JsonToken)
    (lexes : Lexes text tokens []) : JsonToken.ofText? text = some tokens := by
  rw [Lexes, List.append_nil] at lexes
  rw [JsonToken.ofText?, lexes]
  simp [tokens?, finish]

theorem ofText?_text (json : Json)
    (reads : ∀ number ∈ json.numbers, number.ReadsAs (reread number)) :
    JsonToken.ofText? json.text = some (json.mapNumbers reread).tokens :=
  ofText?_of_lexes _ _ (lexes_text reread json [] reads (by simp [EndsWord]))

theorem lexes_entry (key : String) (number : JsonNumber) (word rest : List Char)
    (isWord : (JsonToken.number number).IsWord word) :
    Lexes ('{' :: quote key ++ ':' :: word ++ ['}']) (object [(key, .number number)]).tokens
      rest := by
  have opening := lexes_punctuation '{' .openObject
    (quote key ++ ([':'] ++ word) ++ (['}'] ++ rest)) rfl
  have name := lexes_quote key ([':'] ++ word ++ (['}'] ++ rest))
  have colon := lexes_punctuation ':' .colon (word ++ (['}'] ++ rest)) rfl
  have content := lexes_word (.number number) word (['}'] ++ rest) isWord
    (endsWord_punctuation '}' .closeObject rest rfl)
  have closing := lexes_punctuation '}' .closeObject rest rfl
  exact (opening.append (name.append (colon.append content))).append closing

/-! Where the numbers stand in the text of a tree. -/

/-- A word stands in a text with nothing before or after it that would run it on. -/
def StandsIn (word text : List Char) : Prop :=
  ∃ before after, text = before ++ word ++ after ∧ EndsWord before.reverse ∧ EndsWord after

theorem endsWord_append (text rest : List Char) (ends : EndsWord text) (ends' : EndsWord rest) :
    EndsWord (text ++ rest) := by
  cases text with
  | nil => exact ends'
  | cons c text => exact ends

theorem StandsIn.within {word text : List Char} (stands : StandsIn word text)
    (before after : List Char) (ends : EndsWord before.reverse) (ends' : EndsWord after) :
    StandsIn word (before ++ text ++ after) := by
  obtain ⟨front, back, rfl, frontEnds, backEnds⟩ := stands
  refine ⟨before ++ front, back ++ after, by simp, ?_, endsWord_append back after backEnds ends'⟩
  rw [List.reverse_append]
  exact endsWord_append front.reverse before.reverse frontEnds ends

theorem endsWord_nil : EndsWord [] := by
  simp [EndsWord]

theorem endsWord_key (key : String) : EndsWord (quote key ++ [':']).reverse := by
  rw [List.reverse_append]
  exact endsWord_punctuation ':' .colon _ rfl

mutual
theorem number_standsIn : (json : Json) → (n : JsonNumber) → n ∈ json.numbers →
    StandsIn n.text json.text
  | null, _, member | bool _, _, member | string _, _, member => nomatch member
  | number m, _, member => by
      rw [List.mem_singleton.mp member]
      exact ⟨[], [], by simp [text], endsWord_nil, endsWord_nil⟩
  | array items, n, member =>
      (number_standsIn_items items n member).within ['['] [']']
        (endsWord_punctuation '[' .openArray [] rfl) (endsWord_punctuation ']' .closeArray [] rfl)
  | object entries, n, member =>
      (number_standsIn_entries entries n member).within ['{'] ['}']
        (endsWord_punctuation '{' .openObject [] rfl) (endsWord_punctuation '}' .closeObject [] rfl)

theorem number_standsIn_items : (items : List Json) → (n : JsonNumber) →
    n ∈ itemsNumbers items → StandsIn n.text (itemsText items)
  | [], _, member => nomatch member
  | [item], n, member =>
      number_standsIn item n (by simpa [itemsNumbers] using member)
  | item :: next :: items, n, member => by
      rcases List.mem_append.mp member with first | others
      · exact (number_standsIn item n first).within [] (',' :: itemsText (next :: items))
          endsWord_nil (endsWord_punctuation ',' .comma _ rfl)
      · have stands := (number_standsIn_items (next :: items) n others).within
          (item.text ++ [',']) [] (by
            rw [List.reverse_append]
            exact endsWord_punctuation ',' .comma _ rfl) endsWord_nil
        simpa [itemsText] using stands

theorem number_standsIn_entries : (entries : List (String × Json)) → (n : JsonNumber) →
    n ∈ entriesNumbers entries → StandsIn n.text (entriesText entries)
  | [], _, member => nomatch member
  | [(key, value)], n, member => by
      have inside : n ∈ value.numbers := by simpa [entriesNumbers] using member
      have stands := (number_standsIn value n inside).within (quote key ++ [':']) []
        (endsWord_key key) endsWord_nil
      simpa [entriesText] using stands
  | (key, value) :: next :: entries, n, member => by
      rcases List.mem_append.mp member with first | others
      · have stands := (number_standsIn value n first).within (quote key ++ [':'])
          (',' :: entriesText (next :: entries)) (endsWord_key key)
          (endsWord_punctuation ',' .comma _ rfl)
        simpa [entriesText] using stands
      · have stands := (number_standsIn_entries (next :: entries) n others).within
          (quote key ++ ':' :: value.text ++ [',']) [] (by
            rw [List.reverse_append]
            exact endsWord_punctuation ',' .comma _ rfl) endsWord_nil
        simpa [entriesText] using stands
end

end Json

theorem isWordChar_of_isDigit (c : Char) (digit : c.isDigit = true) :
    JsonLexer.isWordChar c = true := by
  simp [JsonLexer.isWordChar, Char.isAlphanum, digit]

theorem JsonToken.ofWord?_of_literal (word : List Char) (literal : NumberLiteral)
    (reads : NumberLiteral.read? word = some literal) :
    JsonToken.ofWord? word = literal.number?.map JsonToken.number := by
  have other (keyword : List Char) (unread : NumberLiteral.read? keyword = none) :
      word ≠ keyword := by
    rintro rfl
    rw [unread] at reads
    cases reads
  rw [JsonToken.ofWord?, if_neg (other _ (by decide)), if_neg (other _ (by decide)),
    if_neg (other _ (by decide)), reads]
  rfl

theorem isDigit_or_eq_minus_of_mem_intDigits (n : Int) (c : Char) (member : c ∈ intDigits n) :
    c.isDigit = true ∨ c = '-' := by
  unfold intDigits at member
  split at member
  · rcases List.mem_cons.mp member with minus | digit
    · exact Or.inr minus
    · exact Or.inl (isDigit_of_mem_decimalDigits _ c digit)
  · exact Or.inl (isDigit_of_mem_decimalDigits _ c member)

theorem JsonNumber.readsBack_integer (n : Int) (inRange : -2 ^ 63 ≤ n ∧ n < 2 ^ 64) :
    (JsonNumber.integer n inRange).ReadsBack := by
  have reads := NumberLiteral.read?_intDigits n
  constructor
  · rintro empty
    rw [JsonNumber.text] at empty
    rw [empty] at reads
    cases reads
  · intro c member
    rcases isDigit_or_eq_minus_of_mem_intDigits n c member with digit | rfl
    · exact isWordChar_of_isDigit c digit
    · decide
  · have size : ofDecimalDigits (decimalDigits n.natAbs) = n.natAbs :=
      ofDecimalDigits_decimalDigits _
    have value : (if decide (n < 0) = true then -(n.natAbs : Int) else n.natAbs) = n := by
      by_cases negative : n < 0
      · rw [if_pos (decide_eq_true negative)]
        omega
      · rw [if_neg (by simpa using negative)]
        omega
    have notMinusZero : (decide (n < 0) && decide (n.natAbs = 0)) = false := by
      simp only [Bool.and_eq_false_iff, decide_eq_false_iff_not]
      omega
    have meant : NumberLiteral.integer? ⟨n < 0, decimalDigits n.natAbs, none, none⟩ =
        some (.integer n inRange) := by
      simp only [NumberLiteral.integer?, size, value, notMinusZero]
      exact dif_pos inRange
    rw [JsonNumber.text, JsonToken.ofWord?_of_literal _ _ reads, NumberLiteral.number?, meant]
    rfl

end QueryAlgebra
