import Mathlib.Data.Rat.Floor
import OpenKit.Json.JsonLexer
import OpenKit.Library.Rounding

/-!
# The JSON parser

The parser takes one token after the other. It has a stack of the values that are still open, the innermost
one on top, and a stack of the states to go back to when they are closed. The state functions see these
only, and the loop around them reads the tokens.

## Main definitions

* `JsonValue`: the values
* `JsonNumberValue.fromNumberLiteral`: the number of a literal, if it can be converted
* `JsonParserState`, `ParserStacks`: the states and the stacks
* `ParserStacks.parseState`: what a token does in a state
* `JsonParser.doParse`, `JsonParser.parse`: the loop, and a call
-/

namespace OpenKit

open Thread

/-! ## Values -/

/-- A value, or the null pointer where a number could not be converted. A number with a fraction or an
exponent is given by its literal, and an object by its members in the order in which its map lists
them. -/
inductive JsonValue
  | nullPointer
  | null
  | boolean (value : Bool)
  | string (value : List UInt8)
  | long (value : ℤ)
  | double (literal : List UInt8)
  | array (values : List JsonValue)
  | object (map : List (List UInt8 × JsonValue))

/-- `(*map)[key] = value`. -/
def insertOrAssign (key : List UInt8) (value : JsonValue) :
    List (List UInt8 × JsonValue) → List (List UInt8 × JsonValue)
  | [] => [(key, value)]
  | (key', value') :: map =>
    if key' = key then (key, value) :: map else (key', value') :: insertOrAssign key value map

namespace JsonNumberValue

/-- The value of decimal digits. -/
def digitsValue (digits : List UInt8) : ℕ :=
  digits.foldl (fun n chr => n * 10 + (chr.toNat - 0x30)) 0

/-- The value of an integer literal. -/
def integerValue : List UInt8 → ℤ
  | [] => 0
  | chr :: digits => if chr = 0x2D then -digitsValue digits else digitsValue (chr :: digits)

/-- The range of `int64_t`. -/
def InLongRange (value : ℤ) : Prop := -2 ^ 63 ≤ value ∧ value < 2 ^ 63

instance (value : ℤ) : Decidable (InLongRange value) :=
  inferInstanceAs (Decidable (-2 ^ 63 ≤ value ∧ value < 2 ^ 63))

/-- The extraction of an integer out of its range fails. -/
def parseLongValue (literalValue : List UInt8) : JsonValue :=
  if InLongRange (integerValue literalValue) then .long (integerValue literalValue) else .nullPointer

/-- The integer part of a literal and its sign. -/
def integerPart (literalValue : List UInt8) : List UInt8 :=
  literalValue.takeWhile fun chr => chr ≠ 0x2E ∧ chr ≠ 0x65 ∧ chr ≠ 0x45

/-- The digits of a literal behind the point. -/
def fractionPart (literalValue : List UInt8) : List UInt8 :=
  ((literalValue.takeWhile fun chr => chr ≠ 0x65 ∧ chr ≠ 0x45).dropWhile (· ≠ 0x2E)).drop 1

/-- The exponent of a literal. -/
def exponentValue (literalValue : List UInt8) : ℤ :=
  match (literalValue.dropWhile fun chr => chr ≠ 0x65 ∧ chr ≠ 0x45).drop 1 with
  | [] => 0
  | chr :: digits => if chr = 0x2B then digitsValue digits else integerValue (chr :: digits)

/-- The value of a literal. -/
def decimalValue (literalValue : List UInt8) : ℚ :=
  integerValue (integerPart literalValue ++ fractionPart literalValue) *
    10 ^ (exponentValue literalValue - (fractionPart literalValue).length)

/-- The finite values of double precision. -/
def InDoubleRange (value : ℚ) : Prop := |FloatFormat.binary64.round value| < 2 ^ 1024

instance (value : ℚ) : Decidable (InDoubleRange value) :=
  inferInstanceAs (Decidable (|FloatFormat.binary64.round value| < 2 ^ 1024))

/-- The extraction of a number fails that is infinite in double precision. -/
def parseDoubleValue (literalValue : List UInt8) : JsonValue :=
  if InDoubleRange (decimalValue literalValue) then .double literalValue else .nullPointer

def fromNumberLiteral (literalValue : List UInt8) : JsonValue :=
  match JsonLexer.numberPattern literalValue with
  | none => .nullPointer
  | some (false, false) => parseLongValue literalValue
  | some _ => parseDoubleValue literalValue

end JsonNumberValue

/-! ## States and stacks -/

inductive JsonParserState
  | init
  | inArrayStart
  | inArrayValue
  | inArrayDelimiter
  | inObjectStart
  | inObjectKey
  | inObjectColon
  | inObjectValue
  | inObjectDelimiter
  | ended
  | error
deriving DecidableEq, Repr

/-- What a parser exception says. -/
inductive JsonParserException
  | erroneousState
  | lexicalAnalysis (exception : JsonLexerException)
  | noToken (message : String)
  | unexpectedToken (token : JsonToken) (suffix : String)
  | internalParserError (state : JsonParserState) (suffix : String)
  | internalUnexpectedToken (token : JsonToken)
deriving DecidableEq, Repr

/-- A value on the stack. An array comes with its backing list, and an object with its backing map and the
key and the value parsed last. -/
inductive JsonValueContainer
  | simple (jsonValue : JsonValue)
  | array (backingList : List JsonValue)
  | object (backingMap : List (List UInt8 × JsonValue)) (lastParsedObjectKey : List UInt8)
      (lastParsedObjectValue : JsonValue)

namespace JsonValueContainer

/-- The value of a container. -/
def jsonValue : JsonValueContainer → JsonValue
  | simple jsonValue => jsonValue
  | array backingList => .array backingList
  | object backingMap _ _ => .object backingMap

/-- The container of an empty array. -/
def newArray : JsonValueContainer := .array []

/-- The container of an empty object. -/
def newObject : JsonValueContainer := .object [] [] .nullPointer

end JsonValueContainer

/-- The state of a parser and its stacks. -/
structure ParserStacks where
  state : JsonParserState
  valueStack : List JsonValueContainer
  stateStack : List JsonParserState

/-- A program on the state of a parser and its stacks. -/
abbrev Parsing (α : Type) : Type := Program JsonParserException ParserStacks α

namespace ParserStacks

def unterminatedJsonArrayError : String := "Unterminated JSON array"

def unterminatedJsonObjectError : String := "Unterminated JSON object"

def setState (state : JsonParserState) : Parsing Unit := .write fun s => { s with state := state }

def pushValue (container : JsonValueContainer) : Parsing Unit :=
  .write fun s => { s with valueStack := container :: s.valueStack }

def pushState (state : JsonParserState) : Parsing Unit :=
  .write fun s => { s with stateStack := state :: s.stateStack }

/-- `mState = mStateStack.top()` and the `pop`. -/
def restoreState : Parsing Unit := .write fun s =>
  match s.stateStack with
  | [] => s
  | state :: stateStack => { s with state := state, stateStack := stateStack }

/-- The innermost container becomes another one. -/
def setTop (container : JsonValueContainer) : Parsing Unit :=
  .write fun s => { s with valueStack := container :: s.valueStack.tail }

def throwInternalParserError {α : Type} (suffix : String) : Parsing α := do
  let state ← Program.read fun s : ParserStacks => s.state
  .fail (.internalParserError state suffix)

/-- The transition into the error state, and the exception. -/
def throwUnexpectedToken (token : JsonToken) (suffix : String) : Parsing Unit := do
  setState .error
  .fail (.unexpectedToken token suffix)

/-! ## Checks -/

/-- `ensureTokenIsNotNull`, with what is done with the token. -/
def withToken (token : Option JsonToken) (exceptionMessage : String)
    (f : JsonToken → Parsing Unit) : Parsing Unit :=
  match token with
  | none => do
    setState .error
    .fail (.noToken exceptionMessage)
  | some token => f token

/-- `ensureValueContainerStackIsNotEmpty`, and the innermost container. -/
def topValue : Parsing JsonValueContainer := do
  match ← Program.read fun s : ParserStacks => s.valueStack with
  | [] => throwInternalParserError "mValueStack is empty"
  | container :: _ => return container

/-- `ensureTopLevelElementIsAJsonArray`, and the backing list. -/
def topLevelArray : Parsing (List JsonValue) := do
  match ← topValue with
  | .array backingList => return backingList
  | _ => throwInternalParserError "top level element is not a JSON array"

/-- `ensureTopLevelElementIsAJsonObject`, and the backing map with the key and the value parsed last. -/
def topLevelObject : Parsing (List (List UInt8 × JsonValue) × List UInt8 × JsonValue) := do
  match ← topValue with
  | .object backingMap key value => return (backingMap, key, value)
  | _ => throwInternalParserError "top level element is not a JSON object"

/-- `ensureKeyValuePairWasParsed`, which takes an empty key for a missing one. -/
def ensureKeyValuePairWasParsed (key : List UInt8) (value : JsonValue) : Parsing Unit :=
  if key = [] then throwInternalParserError "mLastParsedObjectKey is not set"
  else
    match value with
    | .nullPointer => throwInternalParserError "mLastParsedObjectValue is null"
    | _ => return ()

/-! ## Parts of the state functions -/

def tokenToSimpleJsonValue (token : JsonToken) : Parsing JsonValue :=
  match token with
  | .null => return .null
  | .boolean value => return .boolean value
  | .string value => return .string value
  | .number value => return JsonNumberValue.fromNumberLiteral value
  | _ => .fail (.internalUnexpectedToken token)

/-- A simple value becomes an element of the innermost array. -/
def pushSimpleElement (token : JsonToken) : Parsing Unit := do
  let backingList ← topLevelArray
  let value ← tokenToSimpleJsonValue token
  setTop (.array (backingList ++ [value]))
  setState .inArrayValue

def parseStartOfNestedObject : Parsing Unit := do
  pushState .inArrayValue
  pushValue .newObject
  setState .inObjectStart

def parseStartOfNestedArray : Parsing Unit := do
  pushState .inArrayValue
  pushValue .newArray
  setState .inArrayStart

def closeCompositeJsonValueAndRestoreState : Parsing Unit := do
  let container ← topValue
  let s ← Program.read fun s : ParserStacks => s
  if s.valueStack.length ≠ s.stateStack.length + 1 then
    throwInternalParserError "mValueStack and mStateStack sizes mismatch"
  else if s.valueStack.length = 1 then
    setState .ended
  else do
    Program.write fun s : ParserStacks => { s with valueStack := s.valueStack.tail }
    match ← topValue with
    | .array backingList =>
      setTop (.array (backingList ++ [container.jsonValue]))
      restoreState
    | .object backingMap key _ =>
      setTop (.object backingMap key container.jsonValue)
      restoreState
    | .simple _ => throwInternalParserError "not a composite top level object"

def putLastParsedKeyValuePairIntoObject : Parsing Unit := do
  let (backingMap, key, value) ← topLevelObject
  ensureKeyValuePairWasParsed key value
  setTop (.object (insertOrAssign key value backingMap) [] .nullPointer)

/-! ## State functions -/

def parseInitState (token : Option JsonToken) : Parsing Unit :=
  withToken token "No JSON object could be decoded" fun token =>
    match token with
    | .null | .boolean _ | .string _ | .number _ => do
      let value ← tokenToSimpleJsonValue token
      pushValue (.simple value)
      setState .ended
    | .leftSquareBracket => do
      pushValue .newArray
      setState .inArrayStart
    | .leftBrace => do
      pushValue .newObject
      setState .inObjectStart
    | _ => throwUnexpectedToken token "at start of input"

def parseInArrayStartState (token : Option JsonToken) : Parsing Unit :=
  withToken token unterminatedJsonArrayError fun token =>
    match token with
    | .null | .boolean _ | .string _ | .number _ => pushSimpleElement token
    | .leftSquareBracket => parseStartOfNestedArray
    | .leftBrace => parseStartOfNestedObject
    | .rightSquareBracket => closeCompositeJsonValueAndRestoreState
    | _ => throwUnexpectedToken token "at beginning of array"

def parseInArrayValueState (token : Option JsonToken) : Parsing Unit :=
  withToken token unterminatedJsonArrayError fun token =>
    match token with
    | .comma => setState .inArrayDelimiter
    | .rightSquareBracket => closeCompositeJsonValueAndRestoreState
    | _ => throwUnexpectedToken token "in array after value was parsed"

def parseInArrayDelimiterState (token : Option JsonToken) : Parsing Unit :=
  withToken token unterminatedJsonArrayError fun token =>
    match token with
    | .null | .boolean _ | .string _ | .number _ => pushSimpleElement token
    | .leftSquareBracket => parseStartOfNestedArray
    | .leftBrace => parseStartOfNestedObject
    | _ => throwUnexpectedToken token "in array after delimiter"

/-- The key of a member. -/
def parseObjectKey (key : List UInt8) : Parsing Unit := do
  let (backingMap, _, value) ← topLevelObject
  setTop (.object backingMap key value)
  setState .inObjectKey

def parseInObjectStartState (token : Option JsonToken) : Parsing Unit :=
  withToken token unterminatedJsonObjectError fun token => do
    let _ ← topLevelObject
    match token with
    | .rightBrace => closeCompositeJsonValueAndRestoreState
    | .string key => parseObjectKey key
    | _ => throwUnexpectedToken token "encountered - object key expected"

def parseInObjectKeyState (token : Option JsonToken) : Parsing Unit :=
  withToken token unterminatedJsonObjectError fun token =>
    match token with
    | .colon => setState .inObjectColon
    | _ => throwUnexpectedToken token "encountered - key-value delimiter expected"

/-- In this state an unexpected token raises an exception without a transition into the error state. -/
def parseInObjectColonState (token : Option JsonToken) : Parsing Unit :=
  withToken token unterminatedJsonObjectError fun token => do
    let (backingMap, key, _) ← topLevelObject
    match token with
    | .null | .boolean _ | .string _ | .number _ => do
      let value ← tokenToSimpleJsonValue token
      setTop (.object backingMap key value)
      setState .inObjectValue
    | .leftBrace => do
      pushValue .newObject
      pushState .inObjectValue
      setState .inObjectStart
    | .leftSquareBracket => do
      pushValue .newArray
      pushState .inObjectValue
      setState .inArrayStart
    | _ => .fail (.unexpectedToken token "after key-value pair encountered")

def parseInObjectValueState (token : Option JsonToken) : Parsing Unit :=
  withToken token unterminatedJsonObjectError fun token => do
    let (backingMap, key, value) ← topLevelObject
    match token with
    | .rightBrace => do
      ensureKeyValuePairWasParsed key value
      setTop (.object (insertOrAssign key value backingMap) key value)
      closeCompositeJsonValueAndRestoreState
    | .comma => do
      putLastParsedKeyValuePairIntoObject
      setState .inObjectDelimiter
    | _ => throwUnexpectedToken token "after key-value pair encountered"

def parseInObjectDelimiterState (token : Option JsonToken) : Parsing Unit :=
  withToken token unterminatedJsonObjectError fun token => do
    let _ ← topLevelObject
    match token with
    | .string key => parseObjectKey key
    | _ => throwUnexpectedToken token "encountered - object key expected"

def parseEndState (token : Option JsonToken) : Parsing Unit :=
  match token with
  | none => return ()
  | some token => throwUnexpectedToken token "at end of input"

/-- What a token does in a state. The error state is never seen here: a transition into it raises an
exception at once. -/
def parseState (state : JsonParserState) (token : Option JsonToken) : Parsing Unit :=
  match state with
  | .init => parseInitState token
  | .inArrayStart => parseInArrayStartState token
  | .inArrayValue => parseInArrayValueState token
  | .inArrayDelimiter => parseInArrayDelimiterState token
  | .inObjectStart => parseInObjectStartState token
  | .inObjectKey => parseInObjectKeyState token
  | .inObjectColon => parseInObjectColonState token
  | .inObjectValue => parseInObjectValueState token
  | .inObjectDelimiter => parseInObjectDelimiterState token
  | .ended => parseEndState token
  | .error =>
    match token with
    | none => .fail .erroneousState
    | some token => .fail (.unexpectedToken token "in error state")

end ParserStacks

/-! ## The parser -/

/-- A parser. The value is the null pointer until it is parsed. -/
structure JsonParser where
  lexer : JsonLexer
  parserStacks : ParserStacks
  parsedValue : JsonValue

/-- The exceptions raised while a value is parsed. -/
inductive ParsingFault
  | parserException (exception : JsonParserException)
  | readingFault (fault : ReadingFault)
  | outOfRounds
deriving DecidableEq, Repr

namespace JsonParser

/-- The parser of a string. -/
def new (input : List UInt8) : JsonParser := ⟨.new input, ⟨.init, [], []⟩, .nullPointer⟩

/-- The next token of the lexer. -/
def nextToken : Program ParsingFault JsonParser (Option JsonToken) := do
  let result ← Program.atomic fun p : JsonParser =>
    ((p.lexer.nextToken).1, { p with lexer := (p.lexer.nextToken).2 })
  match result with
  | .ok token => return token
  | .error fault => .fail (.readingFault fault)

/-- A program on the stacks, run by the parser. -/
def onStacks {α : Type} (f : ParserStacks → Parsing α) : Program ParsingFault JsonParser α := do
  let result ← Program.atomic fun p : JsonParser =>
    (((f p.parserStacks).run p.parserStacks).1, { p with parserStacks := ((f p.parserStacks).run p.parserStacks).2 })
  match result with
  | .ok a => return a
  | .error exception => .fail (.parserException exception)

/-- A round of the loop of `doParse`. -/
def parseToken (_ : Unit) : Program ParsingFault JsonParser (ForInStep Unit) := do
  let token ← nextToken
  onStacks fun s => ParserStacks.parseState s.state token
  if token.isSome then return .yield () else return .done ()

/-- More rounds than bytes are left. -/
def numRounds : Program ParsingFault JsonParser ℕ :=
  .read fun p => p.lexer.reader.remaining.length + 1

def doParse : Program ParsingFault JsonParser JsonValue := do
  Program.loop .outOfRounds parseToken (← numRounds) ()
  let container ← onStacks fun _ => ParserStacks.topValue
  return container.jsonValue

/-- A call: exceptions of the lexer put the parser into the error state, other ones pass through. -/
def parse (p : JsonParser) : Except ParsingFault JsonValue × JsonParser :=
  match p.parserStacks.state with
  | .ended => (.ok p.parsedValue, p)
  | .error => (.error (.parserException .erroneousState), p)
  | _ =>
    match doParse.run p with
    | (.ok value, p') => (.ok value, { p' with parsedValue := value })
    | (.error (.readingFault (.lexerException e)), p') =>
      (.error (.parserException (.lexicalAnalysis e)),
        { p' with parserStacks := { p'.parserStacks with state := .error } })
    | (.error fault, p') => (.error fault, p')

end JsonParser

end OpenKit
