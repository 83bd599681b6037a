import OpenKit.Json.ResettableReader

/-!
# The JSON lexer

The lexer reads one token after the other. It looks one byte ahead for the end of a literal, of a Unicode
sequence and of the whitespace before a token, and two bytes ahead for the second half of a surrogate
pair.

## Main definitions

* `JsonToken`: the tokens
* `JsonLexer.parseLiteral`, `tryParseStringToken` and so on: how each kind of token is read
* `JsonLexer.numberPattern`: the pattern of numbers
* `JsonLexer.nextToken`: the next token
-/

namespace OpenKit

open Thread

/-- A token. A number is given by its text, a string by its value. -/
inductive JsonToken
  | number (value : List UInt8)
  | string (value : List UInt8)
  | boolean (value : Bool)
  | null
  | leftBrace
  | rightBrace
  | leftSquareBracket
  | rightSquareBracket
  | comma
  | colon
deriving DecidableEq, Repr

inductive JsonLexerState
  | initial
  | parsing
  | endOfFile
  | error
deriving DecidableEq, Repr

/-- A lexer. -/
structure JsonLexer where
  reader : ResettableReader
  lexerState : JsonLexerState
deriving DecidableEq, Repr

namespace JsonLexer

open ResettableReader

/-- The lexer of a string. -/
def new (input : List UInt8) : JsonLexer := ⟨.new input, .initial⟩

/-! ## Kinds of characters -/

/-- Space, horizontal tab, line feed and carriage return. -/
def isJsonWhitespaceCharacter (chr : UInt8) : Bool :=
  chr == 0x20 || chr == 0x09 || chr == 0x0A || chr == 0x0D

/-- The brackets and braces, the colon and the comma. -/
def isJsonStructuralCharacter (chr : UInt8) : Bool :=
  chr == 0x5B || chr == 0x5D || chr == 0x7B || chr == 0x7D || chr == 0x3A || chr == 0x2C

def isDigit (chr : UInt8) : Bool := 0x30 ≤ chr && chr ≤ 0x39

def isDigitOrMinus (chr : UInt8) : Bool := chr == 0x2D || isDigit chr

def isEscapeCharacter (chr : UInt8) : Bool := chr == 0x5C

/-- The quotation mark, the reverse solidus and the control characters. -/
def isCharacterThatNeedsEscaping (chr : UInt8) : Bool := chr == 0x22 || chr == 0x5C || chr ≤ 0x1F

def isHexCharacter (chr : UInt8) : Bool :=
  isDigit chr || (0x61 ≤ chr && chr ≤ 0x66) || (0x41 ≤ chr && chr ≤ 0x46)

/-- A character of a literal: anything that does not end it. -/
def isLiteralCharacter (chr : UInt8) : Bool :=
  !isJsonWhitespaceCharacter chr && !isJsonStructuralCharacter chr

/-! ## Numbers -/

/-- The value of a hexadecimal character. -/
def hexValue (chr : UInt8) : ℕ :=
  if isDigit chr then chr.toNat - 0x30
  else if 0x61 ≤ chr then chr.toNat - 0x61 + 10
  else chr.toNat - 0x41 + 10

/-- `strtol` of hexadecimal characters. -/
def parseHex (sequence : List UInt8) : ℕ :=
  sequence.foldl (fun n chr => n * 16 + hexValue chr) 0

/-- What is left of a literal behind its first integer part, `0` or digits that do not start with one. -/
def skipInteger : List UInt8 → Option (List UInt8)
  | [] => none
  | chr :: rest =>
    if chr = 0x30 then some rest
    else if isDigit chr then some (rest.dropWhile isDigit)
    else none

/-- What is left behind at least one digit. -/
def skipDigits : List UInt8 → Option (List UInt8)
  | [] => none
  | chr :: rest => if isDigit chr then some (rest.dropWhile isDigit) else none

/-- What is left behind a fraction. -/
def skipFraction : List UInt8 → Option (List UInt8)
  | [] => none
  | chr :: rest => if chr = 0x2E then skipDigits rest else none

/-- What is left behind a sign. -/
def skipSign : List UInt8 → List UInt8
  | [] => []
  | chr :: rest => if chr = 0x2B ∨ chr = 0x2D then rest else chr :: rest

/-- What is left behind an exponent. -/
def skipExponent : List UInt8 → Option (List UInt8)
  | [] => none
  | chr :: rest => if chr = 0x65 ∨ chr = 0x45 then skipDigits (skipSign rest) else none

/-- What is left behind a minus sign. -/
def skipMinus : List UInt8 → List UInt8
  | [] => []
  | chr :: rest => if chr = 0x2D then rest else chr :: rest

/-- `regex_match` with the number pattern: whether its second group and its third one have matched, if
the whole literal has. -/
def numberPattern (literal : List UInt8) : Option (Bool × Bool) :=
  match skipInteger (skipMinus literal) with
  | none => none
  | some rest =>
    let afterFraction := skipFraction rest
    let rest := afterFraction.getD rest
    let afterExponent := skipExponent rest
    let rest := afterExponent.getD rest
    if rest = [] then some (afterFraction.isSome, afterExponent.isSome) else none

/-! ## Whitespace and literals -/

/-- More rounds than bytes are left. -/
def numRounds : Reading ℕ := .read fun r => r.remaining.length + 1

/-- A round of the loop that skips whitespace; the loop variable is the character read last. -/
def consumeWhitespaceCharacter (_ : Option UInt8) : Reading (ForInStep (Option UInt8)) := do
  mark 1
  let chr ← read
  match chr with
  | none => return .done none
  | some c => if isJsonWhitespaceCharacter c then return .yield chr else return .done chr

/-- Whether the end is reached behind the whitespace. -/
def consumeWhitespaceCharacters : Reading Bool := do
  let chr ← Program.loop .outOfRounds consumeWhitespaceCharacter (← numRounds) none
  if chr.isSome then
    reset
    return false
  else
    return true

/-- A round of the loop of `parseLiteral`, with the literal so far. The round starts with the character
that the code has read at the end of the round before. -/
def parseLiteralCharacter (literal : Option UInt8 × List UInt8) :
    Reading (ForInStep (Option UInt8 × List UInt8)) := do
  mark 1
  let chr ← read
  match chr with
  | none => return .done (none, literal.2)
  | some c =>
    if isLiteralCharacter c then return .yield (chr, literal.2 ++ [c])
    else return .done (chr, literal.2)

def parseLiteral : Reading (List UInt8) := do
  let (chr, literal) ←
    Program.loop .outOfRounds parseLiteralCharacter (← numRounds) (none, [])
  if chr.isSome then
    reset
    return literal
  else
    return literal

def booleanTrueLiteral : List UInt8 := [0x74, 0x72, 0x75, 0x65]

def booleanFalseLiteral : List UInt8 := [0x66, 0x61, 0x6C, 0x73, 0x65]

def nullLiteral : List UInt8 := [0x6E, 0x75, 0x6C, 0x6C]

/-- An exception of the lexer. -/
def throwLexerException {α : Type} (exception : JsonLexerException) : Reading α :=
  .fail (.lexerException exception)

def tryParseBooleanLiteral : Reading JsonToken := do
  let literal ← parseLiteral
  if literal = booleanTrueLiteral then return .boolean true
  else if literal = booleanFalseLiteral then return .boolean false
  else throwLexerException (.unexpectedLiteral literal)

def tryParseNullLiteral : Reading JsonToken := do
  let literal ← parseLiteral
  if literal = nullLiteral then return .null
  else throwLexerException (.unexpectedLiteral literal)

def tryParseNumberToken : Reading JsonToken := do
  let literal ← parseLiteral
  if (numberPattern literal).isSome then return .number literal
  else throwLexerException (.invalidNumber literal)

/-! ## Strings -/

/-- `NUM_UNICODE_CHARACTERS`. -/
def numUnicodeCharacters : ℕ := 4

/-- A round of the loop of `readUnicodeEscapeSequence`, with the next character and the sequence so
far. -/
def readUnicodeCharacter (state : Option UInt8 × List UInt8) :
    Reading (ForInStep (Option UInt8 × List UInt8)) :=
  match state with
  | (none, sequence) => return .done (none, sequence)
  | (some nextChar, sequence) =>
    if sequence.length < numUnicodeCharacters then
      if isHexCharacter nextChar then do
        mark 1
        let chr ← read
        return .yield (chr, sequence ++ [nextChar])
      else throwLexerException (.invalidUnicodeSequence sequence nextChar)
    else return .done (some nextChar, sequence)

/-- Four hexadecimal characters, and one character more to look at. -/
def readUnicodeEscapeSequence : Reading (List UInt8) := do
  let (nextChar, sequence) ← Program.loop .outOfRounds readUnicodeCharacter
    (numUnicodeCharacters + 1) (← read, [])
  if nextChar.isSome then
    reset
    return sequence
  else
    throwLexerException (.unterminatedUnicodeSequence sequence)

def isHighSurrogateCharacter (character : ℕ) : Bool := 0xD800 ≤ character && character ≤ 0xDBFF

def isLowSurrogateCharacter (character : ℕ) : Bool := 0xDC00 ≤ character && character ≤ 0xDFFF

/-- The low surrogate, if one follows. The character behind a reverse solidus is the second one read
since the mark. -/
def tryParseLowSurrogateChar : Reading (Option ℕ) := do
  mark 1
  if (← read) = some 0x5C then
    if (← read) = some 0x75 then
      return some (parseHex (← readUnicodeEscapeSequence))
    else
      reset
      return none
  else
    reset
    return none

/-- `convertUtf16StringToUtf8String` of a surrogate pair. -/
def convertSurrogatePair (high low : ℕ) : List UInt8 :=
  let character := 0x10000 + (high - 0xD800) * 0x400 + (low - 0xDC00)
  [UInt8.ofNat (0xF0 + character / 0x40000), UInt8.ofNat (0x80 + character / 0x1000 % 0x40),
    UInt8.ofNat (0x80 + character / 0x40 % 0x40), UInt8.ofNat (0x80 + character % 0x40)]

/-- The bytes of a character that is no surrogate: its higher byte unless that is zero, and its lower
byte. -/
def bytesOfCharacter (character : ℕ) : List UInt8 :=
  if character / 0x100 = 0 then [UInt8.ofNat (character % 0x100)]
  else [UInt8.ofNat (character / 0x100), UInt8.ofNat (character % 0x100)]

/-- What a Unicode sequence appends to a string. -/
def tryParseUnicodeEscapeSequence (literalString : List UInt8) : Reading (List UInt8) := do
  let unicodeSequence ← readUnicodeEscapeSequence
  let parsedInt := parseHex unicodeSequence
  if isHighSurrogateCharacter parsedInt then
    match ← tryParseLowSurrogateChar with
    | some lowSurrogate =>
      if isLowSurrogateCharacter lowSurrogate then
        return literalString ++ convertSurrogatePair parsedInt lowSurrogate
      else throwLexerException (.invalidSurrogatePair unicodeSequence)
    | none => throwLexerException (.invalidSurrogatePair unicodeSequence)
  else if isLowSurrogateCharacter parsedInt then
    throwLexerException (.invalidSurrogatePair unicodeSequence)
  else
    return literalString ++ bytesOfCharacter parsedInt

/-- The characters that an escape character may precede, and what they stand for. -/
def escapes : List (UInt8 × UInt8) :=
  [(0x22, 0x22), (0x5C, 0x5C), (0x2F, 0x2F), (0x62, 0x08), (0x66, 0x0C), (0x6E, 0x0A), (0x72, 0x0D),
    (0x74, 0x09)]

/-- What an escape sequence appends to a string. -/
def tryParseEscapeSequence (literalString : List UInt8) : Reading (List UInt8) := do
  match ← read with
  | none => throwLexerException (.unterminatedString literalString)
  | some nextChar =>
    match escapes.lookup nextChar with
    | some value => return literalString ++ [value]
    | none =>
      if nextChar = 0x75 then tryParseUnicodeEscapeSequence literalString
      else throwLexerException (.invalidEscapeSequence nextChar)

/-- A round of the loop of `tryParseStringToken`, with the next character and the value so far. -/
def parseStringCharacter (state : Option UInt8 × List UInt8) :
    Reading (ForInStep (Option UInt8 × List UInt8)) :=
  match state with
  | (none, stringValue) => return .done (none, stringValue)
  | (some nextChar, stringValue) =>
    if nextChar = 0x22 then return .done (some nextChar, stringValue)
    else if isEscapeCharacter nextChar then do
      let stringValue ← tryParseEscapeSequence stringValue
      return .yield (← read, stringValue)
    else if isCharacterThatNeedsEscaping nextChar then
      throwLexerException (.invalidControlCharacter nextChar)
    else do
      return .yield (← read, stringValue ++ [nextChar])

/-- The opening quotation mark has been read. -/
def tryParseStringToken : Reading JsonToken := do
  let rounds ← numRounds
  let (nextChar, stringValue) ←
    Program.loop .outOfRounds parseStringCharacter (rounds + 1) (← read, [])
  if nextChar.isSome then return .string stringValue
  else throwLexerException (.unterminatedString stringValue)

/-! ## Tokens -/

/-- The tokens of one character. -/
def structuralToken (chr : UInt8) : Option JsonToken :=
  if chr = 0x5B then some .leftSquareBracket
  else if chr = 0x5D then some .rightSquareBracket
  else if chr = 0x7B then some .leftBrace
  else if chr = 0x7D then some .rightBrace
  else if chr = 0x3A then some .colon
  else if chr = 0x2C then some .comma
  else none

/-- A literal that is no token. -/
def parseUnexpectedLiteral : Reading JsonToken := do
  let literalToken ← parseLiteral
  throwLexerException (.unexpectedLiteral literalToken)

/-- A token that starts with a certain character, which is read again if it belongs to a literal. -/
def parseTokenFrom (nextChar : UInt8) : Reading JsonToken :=
  match structuralToken nextChar with
  | some token => return token
  | none =>
    if nextChar = 0x22 then tryParseStringToken
    else do
      reset
      if nextChar = 0x74 ∨ nextChar = 0x66 then tryParseBooleanLiteral
      else if nextChar = 0x6E then tryParseNullLiteral
      else if isDigitOrMinus nextChar then tryParseNumberToken
      else parseUnexpectedLiteral

def doParseNextToken : Reading JsonToken := do
  mark 1
  match ← read with
  | some nextChar => parseTokenFrom nextChar
  | none => do
    reset
    parseUnexpectedLiteral

/-- The next token, and none at the end. -/
def readToken : Reading (Option JsonToken) := do
  if ← consumeWhitespaceCharacters then return none
  else return some (← doParseNextToken)

/-- `nextToken`: the exceptions of the lexer put it into the error state, other ones pass through. -/
def nextToken (l : JsonLexer) : Except ReadingFault (Option JsonToken) × JsonLexer :=
  match l.lexerState with
  | .error => (.error (.lexerException .erroneousState), l)
  | .endOfFile => (.ok none, l)
  | _ =>
    match readToken.run l.reader with
    | (.ok none, reader) => (.ok none, ⟨reader, .endOfFile⟩)
    | (.ok (some token), reader) => (.ok (some token), ⟨reader, .parsing⟩)
    | (.error (.lexerException e), reader) => (.error (.lexerException e), ⟨reader, .error⟩)
    | (.error fault, reader) => (.error fault, ⟨reader, .parsing⟩)

end JsonLexer

end OpenKit
