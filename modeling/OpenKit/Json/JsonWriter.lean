import OpenKit.Json.JsonParser
import OpenKit.Protocol.EventData

/-!
# The JSON writer

The writer puts texts one behind the other. Characters of strings are escaped on the way.

## Main definitions

* `JsonWriter`: the writer
* `JsonWriter.escapeString`: how strings are escaped
* `JsonValue.writeJsonString`, `JsonValue.toString`: the text of a value

## Main results

* `length_le_writeMembers_of_mem`: an object is as long as the texts in it
-/

namespace OpenKit

/-- A writer: the bytes written so far. -/
structure JsonWriter where
  stream : List UInt8
deriving DecidableEq, Repr

namespace JsonWriter

/-- The writer that has written nothing. -/
def new : JsonWriter := ⟨[]⟩

/-- More bytes in the stream. -/
def append (w : JsonWriter) (bytes : List UInt8) : JsonWriter := ⟨w.stream ++ bytes⟩

/-- The characters that are escaped by one character, and those. -/
def escapedCharacters : List (UInt8 × UInt8) :=
  [(0x08, 0x62), (0x0C, 0x66), (0x0A, 0x6E), (0x0D, 0x72), (0x09, 0x74), (0x2F, 0x2F), (0x22, 0x22),
    (0x5C, 0x5C)]

/-- A hexadecimal character, in lower case. -/
def hexCharacter (n : UInt8) : UInt8 := if n < 10 then 0x30 + n else 0x57 + n

/-- The text of a character: other control characters are written by four hexadecimal ones. -/
def escapeCharacter (c : UInt8) : List UInt8 :=
  match escapedCharacters.lookup c with
  | some character => [0x5C, character]
  | none =>
    if c ≤ 0x1F then [0x5C, 0x75, 0x30, 0x30, hexCharacter (c / 16), hexCharacter (c % 16)]
    else [c]

def escapeString (value : List UInt8) : List UInt8 := value.flatMap escapeCharacter

def openArray (w : JsonWriter) : JsonWriter := w.append [0x5B]

def closeArray (w : JsonWriter) : JsonWriter := w.append [0x5D]

def openObject (w : JsonWriter) : JsonWriter := w.append [0x7B]

def closeObject (w : JsonWriter) : JsonWriter := w.append [0x7D]

def insertKey (w : JsonWriter) (key : List UInt8) : JsonWriter :=
  w.append ([0x22] ++ escapeString key ++ [0x22])

def insertStringValue (w : JsonWriter) (value : List UInt8) : JsonWriter :=
  w.append ([0x22] ++ escapeString value ++ [0x22])

def insertValue (w : JsonWriter) (value : List UInt8) : JsonWriter := w.append (escapeString value)

def insertKeyValueSeperator (w : JsonWriter) : JsonWriter := w.append [0x3A]

def insertElementSeperator (w : JsonWriter) : JsonWriter := w.append [0x2C]

end JsonWriter

section Values

-- the text of a number that is no integer, given by its literal
variable (doubleText : List UInt8 → List UInt8)

mutual

/-- The text of a value behind what is written. There is none for the null pointer. -/
def JsonValue.writeJsonString : JsonValue → JsonWriter → JsonWriter
  | .nullPointer, w => w
  | .null, w => w.insertValue JsonLexer.nullLiteral
  | .boolean value, w =>
    w.insertValue (if value then JsonLexer.booleanTrueLiteral else JsonLexer.booleanFalseLiteral)
  | .string value, w => w.insertStringValue value
  | .long value, w => w.insertValue (EventData.toInvariantString value).data
  | .double literal, w => w.insertValue (doubleText literal)
  | .array values, w => (writeElements 0 values w.openArray).closeArray
  | .object map, w => (writeMembers 0 map w.openObject).closeObject

/-- The loop over the elements of an array. -/
def writeElements (writtenElements : ℕ) : List JsonValue → JsonWriter → JsonWriter
  | [], w => w
  | value :: values, w =>
    writeElements (writtenElements + 1) values
      (value.writeJsonString (if writtenElements > 0 then w.insertElementSeperator else w))

/-- The loop over the members of an object. -/
def writeMembers (writtenElements : ℕ) : List (List UInt8 × JsonValue) → JsonWriter → JsonWriter
  | [], w => w
  | (key, value) :: map, w =>
    writeMembers (writtenElements + 1) map
      (value.writeJsonString
        ((if writtenElements > 0 then w.insertElementSeperator else w).insertKey
          key).insertKeyValueSeperator)

end

/-- `toString`. -/
def JsonValue.toString (value : JsonValue) : List UInt8 :=
  (value.writeJsonString doubleText .new).stream

end Values

/-! ## The length of a text -/

section Lengths

variable (doubleText : List UInt8 → List UInt8)

theorem JsonWriter.length_escapeCharacter_pos (c : UInt8) : 0 < (escapeCharacter c).length := by
  rw [escapeCharacter]
  split
  · exact Nat.succ_pos _
  · split
    · exact Nat.succ_pos _
    · exact Nat.succ_pos _

theorem JsonWriter.length_le_escapeString (value : List UInt8) :
    value.length ≤ (escapeString value).length := by
  induction value with
  | nil => exact le_refl _
  | cons c value ih =>
    rw [escapeString, List.flatMap_cons, List.length_append, List.length_cons]
    have hc := length_escapeCharacter_pos c
    rw [escapeString] at ih
    omega

theorem JsonWriter.length_append (w : JsonWriter) (bytes : List UInt8) :
    (w.append bytes).stream.length = w.stream.length + bytes.length := List.length_append

mutual

/-- **A writer** does not take back what is written. -/
theorem JsonValue.length_le_writeJsonString (value : JsonValue) (w : JsonWriter) :
    w.stream.length ≤ (value.writeJsonString doubleText w).stream.length := by
  cases value with
  | nullPointer => exact le_refl _
  | null => exact (Nat.le_add_right _ _).trans (JsonWriter.length_append w _).ge
  | boolean value => exact (Nat.le_add_right _ _).trans (JsonWriter.length_append w _).ge
  | string value => exact (Nat.le_add_right _ _).trans (JsonWriter.length_append w _).ge
  | long value => exact (Nat.le_add_right _ _).trans (JsonWriter.length_append w _).ge
  | double literal => exact (Nat.le_add_right _ _).trans (JsonWriter.length_append w _).ge
  | array values =>
    have hvalues := length_le_writeElements 0 values w.openArray
    rw [JsonWriter.openArray, JsonWriter.length_append] at hvalues
    rw [JsonValue.writeJsonString, JsonWriter.closeArray, JsonWriter.length_append]
    rw [JsonWriter.openArray]
    omega
  | object map =>
    have hmap := length_le_writeMembers 0 map w.openObject
    rw [JsonWriter.openObject, JsonWriter.length_append] at hmap
    rw [JsonValue.writeJsonString, JsonWriter.closeObject, JsonWriter.length_append]
    rw [JsonWriter.openObject]
    omega

theorem length_le_writeElements (n : ℕ) (values : List JsonValue) (w : JsonWriter) :
    w.stream.length ≤ (writeElements doubleText n values w).stream.length := by
  cases values with
  | nil => exact le_refl _
  | cons value values =>
    rw [writeElements]
    refine le_trans ?_ (length_le_writeElements (n + 1) values _)
    refine le_trans ?_ (value.length_le_writeJsonString _)
    split
    · exact (Nat.le_add_right _ _).trans (JsonWriter.length_append w _).ge
    · exact le_refl _

theorem length_le_writeMembers (n : ℕ) (map : List (List UInt8 × JsonValue)) (w : JsonWriter) :
    w.stream.length ≤ (writeMembers doubleText n map w).stream.length := by
  cases map with
  | nil => exact le_refl _
  | cons m map =>
    obtain ⟨key, value⟩ := m
    rw [writeMembers]
    refine le_trans ?_ (length_le_writeMembers (n + 1) map _)
    refine le_trans ?_ (value.length_le_writeJsonString _)
    rw [JsonWriter.insertKeyValueSeperator, JsonWriter.length_append, JsonWriter.insertKey,
      JsonWriter.length_append]
    split
    · rw [JsonWriter.insertElementSeperator, JsonWriter.length_append]
      omega
    · omega

end

/-- A member with a text makes the object as long. -/
theorem length_le_writeMembers_of_mem {map : List (List UInt8 × JsonValue)} {key value : List UInt8}
    (h : (key, JsonValue.string value) ∈ map) (n : ℕ) (w : JsonWriter) :
    value.length ≤ (writeMembers doubleText n map w).stream.length := by
  induction map generalizing n w with
  | nil => cases h
  | cons m map ih =>
    obtain ⟨key', value'⟩ := m
    rw [writeMembers]
    rcases List.mem_cons.mp h with hfirst | hmore
    · obtain ⟨rfl, rfl⟩ := Prod.mk.inj hfirst
      refine le_trans ?_ (length_le_writeMembers doubleText (n + 1) map _)
      rw [JsonValue.writeJsonString, JsonWriter.insertStringValue, JsonWriter.length_append,
        List.length_append, List.length_append]
      have hescaped := JsonWriter.length_le_escapeString value
      omega
    · exact ih hmore _ _

end Lengths

end OpenKit
