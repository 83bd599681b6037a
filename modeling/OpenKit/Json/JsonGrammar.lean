import OpenKit.Json.JsonLexer

/-!
# The grammar of JSON texts

A JSON text is a sequence of tokens with whitespace around them, and its tokens are those of a value. The
tokens of a value are determined by its tree, in which a string is given by its value and a number by its
text.

Bytes above the ASCII characters stand for themselves in a string. The two halves of a surrogate pair
stand together.

## Main definitions

* `StringCharacter`: how a character of a string is spelled, and what it stands for
* `IsNumber`: the grammar of numbers
* `JsonToken.SpelledBy`, `SpelledAs`: how tokens are spelled
* `JsonTree`, `JsonTree.tokens`: values and their tokens
-/

namespace OpenKit

open JsonLexer

/-! ## Strings -/

/-- Four hexadecimal characters. -/
structure HexSequence where
  characters : List UInt8
  length_characters : characters.length = 4
  isHexCharacter : ∀ c ∈ characters, isHexCharacter c = true

/-- The number of a sequence. -/
def HexSequence.toNat (s : HexSequence) : ℕ := parseHex s.characters

/-- A character of a string. -/
inductive StringCharacter
  | unescaped (b : UInt8) (hcontrol : 0x20 ≤ b) (hquote : b ≠ 0x22) (hsolidus : b ≠ 0x5C)
  | escaped (character value : UInt8) (h : (character, value) ∈ escapes)
  | unicode (s : HexSequence) (hhigh : isHighSurrogateCharacter s.toNat = false)
      (hlow : isLowSurrogateCharacter s.toNat = false)
  | surrogatePair (high low : HexSequence) (hhigh : isHighSurrogateCharacter high.toNat = true)
      (hlow : isLowSurrogateCharacter low.toNat = true)

namespace StringCharacter

/-- The bytes that spell a character. -/
def spelling : StringCharacter → List UInt8
  | unescaped b _ _ _ => [b]
  | escaped character _ _ => [0x5C, character]
  | unicode s _ _ => 0x5C :: 0x75 :: s.characters
  | surrogatePair high low _ _ => 0x5C :: 0x75 :: high.characters ++ 0x5C :: 0x75 :: low.characters

/-- The bytes that a character stands for. -/
def value : StringCharacter → List UInt8
  | unescaped b _ _ _ => [b]
  | escaped _ value _ => [value]
  | unicode s _ _ => bytesOfCharacter s.toNat
  | surrogatePair high low _ _ => convertSurrogatePair high.toNat low.toNat

end StringCharacter

/-- The bytes that spell some characters. -/
def spellingOf (cs : List StringCharacter) : List UInt8 := cs.flatMap StringCharacter.spelling

/-- The bytes that some characters stand for. -/
def valueOf (cs : List StringCharacter) : List UInt8 := cs.flatMap StringCharacter.value

/-! ## Numbers -/

/-- Digits that do not start with a zero, or a zero alone. -/
def IsInteger (bs : List UInt8) : Prop :=
  bs = [0x30] ∨ ∃ d ds, bs = d :: ds ∧ d ≠ 0x30 ∧ isDigit d = true ∧ ∀ c ∈ ds, isDigit c = true

/-- At least one digit. -/
def IsDigits (bs : List UInt8) : Prop := bs ≠ [] ∧ ∀ c ∈ bs, isDigit c = true

/-- A point and digits. -/
def IsFraction (bs : List UInt8) : Prop := ∃ ds, IsDigits ds ∧ bs = 0x2E :: ds

/-- The letter `e` or `E`, a sign that may be missing, and digits. -/
def IsExponent (bs : List UInt8) : Prop :=
  ∃ e sign ds, (e = 0x65 ∨ e = 0x45) ∧ (sign = [] ∨ sign = [0x2B] ∨ sign = [0x2D]) ∧ IsDigits ds ∧
    bs = e :: (sign ++ ds)

/-- An integer with a sign that may be missing. -/
def IsIntegerLiteral (literal : List UInt8) : Prop :=
  ∃ minus integer, (minus = [] ∨ minus = [0x2D]) ∧ IsInteger integer ∧ literal = minus ++ integer

/-- A number: an integer, a fraction that may be missing, and an exponent that may be missing. -/
def IsNumber (literal : List UInt8) : Prop :=
  ∃ integer fraction exponent, IsIntegerLiteral integer ∧ (fraction = [] ∨ IsFraction fraction) ∧
    (exponent = [] ∨ IsExponent exponent) ∧ literal = integer ++ fraction ++ exponent

/-! ## Tokens -/

/-- The bytes that spell a token. -/
inductive JsonToken.SpelledBy : JsonToken → List UInt8 → Prop
  | number {literal : List UInt8} (h : IsNumber literal) : SpelledBy (.number literal) literal
  | string (cs : List StringCharacter) :
      SpelledBy (.string (valueOf cs)) (0x22 :: spellingOf cs ++ [0x22])
  | true : SpelledBy (.boolean true) booleanTrueLiteral
  | false : SpelledBy (.boolean false) booleanFalseLiteral
  | null : SpelledBy .null nullLiteral
  | leftBrace : SpelledBy .leftBrace [0x7B]
  | rightBrace : SpelledBy .rightBrace [0x7D]
  | leftSquareBracket : SpelledBy .leftSquareBracket [0x5B]
  | rightSquareBracket : SpelledBy .rightSquareBracket [0x5D]
  | comma : SpelledBy .comma [0x2C]
  | colon : SpelledBy .colon [0x3A]

/-- Whitespace only. -/
def IsWhitespace (bs : List UInt8) : Prop := ∀ c ∈ bs, isJsonWhitespaceCharacter c = true

/-- The bytes that spell some tokens, with whitespace around each. -/
inductive SpelledAs : List JsonToken → List UInt8 → Prop
  | nil {whitespace : List UInt8} (h : IsWhitespace whitespace) : SpelledAs [] whitespace
  | cons {token : JsonToken} {tokens : List JsonToken} {whitespace spelling rest : List UInt8}
      (hwhitespace : IsWhitespace whitespace) (hspelling : token.SpelledBy spelling)
      (hrest : SpelledAs tokens rest) : SpelledAs (token :: tokens) (whitespace ++ spelling ++ rest)

/-! ## Values -/

/-- A value as it is written. -/
inductive JsonTree
  | null
  | boolean (value : Bool)
  | string (value : List UInt8)
  | number (literal : List UInt8)
  | array (elements : List JsonTree)
  | object (members : List (List UInt8 × JsonTree))

mutual

/-- The tokens of a value. -/
def JsonTree.tokens : JsonTree → List JsonToken
  | .null => [.null]
  | .boolean value => [.boolean value]
  | .string value => [.string value]
  | .number literal => [.number literal]
  | .array [] => [.leftSquareBracket, .rightSquareBracket]
  | .array (t :: ts) =>
    .leftSquareBracket :: (t.tokens ++ moreElementTokens ts ++ [.rightSquareBracket])
  | .object [] => [.leftBrace, .rightBrace]
  | .object ((key, t) :: ms) =>
    .leftBrace :: .string key :: .colon :: (t.tokens ++ moreMemberTokens ms ++ [.rightBrace])

/-- The tokens of the further elements of an array. -/
def moreElementTokens : List JsonTree → List JsonToken
  | [] => []
  | t :: ts => .comma :: (t.tokens ++ moreElementTokens ts)

/-- The tokens of the further members of an object. -/
def moreMemberTokens : List (List UInt8 × JsonTree) → List JsonToken
  | [] => []
  | (key, t) :: ms => .comma :: .string key :: .colon :: (t.tokens ++ moreMemberTokens ms)

end

end OpenKit
