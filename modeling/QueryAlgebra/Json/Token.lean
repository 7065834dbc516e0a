import QueryAlgebra.Json.NumberLiteral

/-!
The tokens of a JSON text. Keywords and numbers are read as words, maximal runs of letters, digits,
signs and points, and classified at their end. The lexer goes from character to character; a string
is complete at its closing quote.
-/

namespace QueryAlgebra

inductive JsonToken where
  | openArray
  | closeArray
  | openObject
  | closeObject
  | colon
  | comma
  | null
  | bool (value : Bool)
  | number (value : JsonNumber)
  | string (value : String)
  deriving DecidableEq, Repr

namespace JsonToken

def punctuation? : Char → Option JsonToken
  | '[' => some openArray
  | ']' => some closeArray
  | '{' => some openObject
  | '}' => some closeObject
  | ':' => some colon
  | ',' => some comma
  | _ => none

def ofWord? (word : List Char) : Option JsonToken :=
  if word = "null".toList then some null
  else if word = "true".toList then some (bool true)
  else if word = "false".toList then some (bool false)
  else do
    let literal ← NumberLiteral.read? word
    number <$> literal.number?

end JsonToken

/-- What the characters read so far leave open. Characters are kept newest first. -/
inductive JsonLexer where
  | between
  | word (read : List Char)
  | quoted (read : List Char)
  | escape (read : List Char)
  | unicode (read : List Char) (high : Option Nat) (digits : List Char)
  | lowEscape (read : List Char) (high : Nat)
  | lowMark (read : List Char) (high : Nat)
  deriving DecidableEq, Repr

namespace JsonLexer

def isSpace (c : Char) : Bool :=
  c = ' ' || c = '\t' || c = '\n' || c = '\r'

def isWordChar (c : Char) : Bool :=
  c.isAlphanum || c = '-' || c = '+' || c = '.'

def escaped? : Char → Option Char
  | '"' => some '"'
  | '\\' => some '\\'
  | '/' => some '/'
  | 'b' => some '\x08'
  | 'f' => some '\x0c'
  | 'n' => some '\n'
  | 'r' => some '\r'
  | 't' => some '\t'
  | _ => none

/-- After four hexadecimal digits: a character of its own, the first half of a pair, or the second
half of the pair that `high` began. A half without the other is refused. -/
def afterUnit (read : List Char) (high : Option Nat) (unit : Nat) : Option JsonLexer :=
  match high with
  | none =>
      if 0xD800 ≤ unit ∧ unit < 0xDC00 then some (lowEscape read unit)
      else if 0xDC00 ≤ unit ∧ unit < 0xE000 then none
      else some (quoted (Char.ofNat unit :: read))
  | some high =>
      if 0xDC00 ≤ unit ∧ unit < 0xE000 then
        some (quoted (Char.ofNat (0x10000 + (high - 0xD800) * 0x400 + (unit - 0xDC00)) :: read))
      else none

def begin (c : Char) : Option (List JsonToken × JsonLexer) :=
  if isSpace c then some ([], between)
  else if c = '"' then some ([], quoted [])
  else if isWordChar c then some ([], word [c])
  else (JsonToken.punctuation? c).map fun token => ([token], between)

def step : JsonLexer → Char → Option (List JsonToken × JsonLexer)
  | between, c => begin c
  | word read, c =>
      if isWordChar c then some ([], word (c :: read))
      else do
        let token ← JsonToken.ofWord? read.reverse
        let (tokens, next) ← begin c
        pure (token :: tokens, next)
  | quoted read, c =>
      if c = '"' then some ([.string (String.ofList read.reverse)], between)
      else if c = '\\' then some ([], escape read)
      else if c.toNat < 0x20 then none
      else some ([], quoted (c :: read))
  | escape read, c =>
      if c = 'u' then some ([], unicode read none [])
      else (escaped? c).map fun meant => ([], quoted (meant :: read))
  | unicode read high digits, c =>
      if digits.length < 3 then some ([], unicode read high (c :: digits))
      else do
        let unit ← ofHexDigits? (c :: digits).reverse
        let next ← afterUnit read high unit
        pure ([], next)
  | lowEscape read high, c => if c = '\\' then some ([], lowMark read high) else none
  | lowMark read high, c => if c = 'u' then some ([], unicode read (some high) []) else none

def finish : JsonLexer → Option (List JsonToken)
  | between => some []
  | word read => (JsonToken.ofWord? read.reverse).map ([·])
  | _ => none

def tokens? : JsonLexer → List Char → Option (List JsonToken)
  | lexer, [] => lexer.finish
  | lexer, c :: rest => do
      let (found, next) ← lexer.step c
      let others ← next.tokens? rest
      pure (found ++ others)

end JsonLexer

def JsonToken.ofText? (text : List Char) : Option (List JsonToken) :=
  JsonLexer.between.tokens? text

end QueryAlgebra
