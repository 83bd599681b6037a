import OpenKit.Protocol.JsonResponseParser

/-!
# Responses as key-value pairs

A response is split at the ampersands, and each part at its first equals sign. The first value of a key
counts. The position of the equals sign is searched by characters, which may get lost in a part, and the
number of an attribute is read from the beginning of its value.

## Main definitions

* `UTF8String.split`: the parts of a string
* `stoi`: the number at the beginning of a string
* `KeyValueResponseParser.parse`: the attributes of a response
-/

namespace OpenKit

namespace UTF8String

/-- The items that `getline` reads. What is behind the last delimiter is an item unless it is empty. -/
def getlines (delimiter : UInt8) : List UInt8 → List (List UInt8)
  | [] => []
  | b :: data =>
    if b = delimiter then [] :: getlines delimiter data
    else
      match getlines delimiter data with
      | [] => [[b]]
      | item :: items => (b :: item) :: items

def split (s : UTF8String) (delimiter : UInt8) : List UTF8String :=
  (getlines delimiter s.data).map validateString

end UTF8String

/-- `isspace`: the blank, and the characters from the tabulator to the carriage return. -/
def isspace (chr : UInt8) : Bool := chr == 0x20 || (0x09 ≤ chr && chr ≤ 0x0D)

/-- A sign may stand before the digits. -/
def skipSign : List UInt8 → List UInt8
  | [] => []
  | chr :: text => if chr = 0x2D ∨ chr = 0x2B then text else chr :: text

/-- The sign of a number behind whitespace. -/
def signOf (str : List UInt8) : ℤ := if (str.dropWhile isspace).head? = some 0x2D then -1 else 1

/-- Its digits. Anything may stand behind them. -/
def digitsOf (str : List UInt8) : List UInt8 :=
  (skipSign (str.dropWhile isspace)).takeWhile JsonLexer.isDigit

/-- The range of `int32_t`. -/
def InInt32Range (value : ℤ) : Prop := -2 ^ 31 ≤ value ∧ value < 2 ^ 31

instance (value : ℤ) : Decidable (InInt32Range value) :=
  inferInstanceAs (Decidable (-2 ^ 31 ≤ value ∧ value < 2 ^ 31))

/-- `std::stoi` -/
def stoi (str : List UInt8) : Responding ℤ :=
  if digitsOf str = [] then .error .invalidArgument
  else if InInt32Range (signOf str * JsonNumberValue.digitsValue (digitsOf str)) then
    .ok (signOf str * JsonNumberValue.digitsValue (digitsOf str))
  else .error .outOfRange

theorem stoi_eq_ok_iff {str : List UInt8} {n : ℤ} :
    stoi str = .ok n ↔
      digitsOf str ≠ [] ∧ signOf str * JsonNumberValue.digitsValue (digitsOf str) = n ∧
        InInt32Range n := by
  rw [stoi]
  by_cases hdigits : digitsOf str = []
  · simp [hdigits]
  · rw [if_neg hdigits]
    constructor
    · intro h
      split at h
      next hrange =>
        obtain rfl := Except.ok.inj h
        exact ⟨hdigits, rfl, hrange⟩
      next => cases h
    · rintro ⟨-, rfl, hrange⟩
      rw [if_pos hrange]

namespace KeyValueResponseParser

open UTF8String

def responseKeyMaxBeaconSizeInKb : List UInt8 := (UTF8String.ofAscii ['b', 'l']).data

def responseKeySendIntervalInSec : List UInt8 := (UTF8String.ofAscii ['s', 'i']).data

def responseKeyCapture : List UInt8 := (UTF8String.ofAscii ['c', 'p']).data

def responseKeyReportCrashes : List UInt8 := (UTF8String.ofAscii ['c', 'r']).data

def responseKeyReportErrors : List UInt8 := (UTF8String.ofAscii ['e', 'r']).data

def responseKeyTrafficControlPercentage : List UInt8 := (UTF8String.ofAscii ['t', 'c']).data

def responseKeyServerId : List UInt8 := (UTF8String.ofAscii ['i', 'd']).data

def responseKeyMultiplicity : List UInt8 := (UTF8String.ofAscii ['m', 'p']).data

/-- The pair of a part, unless the key or the value is missing. -/
def keyValuePair (part : UTF8String) : Responding (Option (List UInt8 × List UInt8)) := do
  let found ← (part.getIndexOf [0x3D] 0).mapError fun _ => .walkFault .readPastEnd
  match found with
  | none => return none
  | some found =>
    let key := part.substring 0 found
    let value ← (substringFrom part (found + 1)).mapError .walkFault
    return if key.isEmpty || value.isEmpty then none else some (key.getStringData, value.getStringData)

/-- The pairs of some parts. A key that is there keeps its value. -/
def insertPairs : List UTF8String → List (List UInt8 × List UInt8) →
    Responding (List (List UInt8 × List UInt8))
  | [], keyValuePairs => .ok keyValuePairs
  | part :: parts, keyValuePairs => do
    match ← keyValuePair part with
    | none => insertPairs parts keyValuePairs
    | some (key, value) =>
      insertPairs parts
        (if (keyValuePairs.lookup key).isSome then keyValuePairs else keyValuePairs ++ [(key, value)])

/-- The number under a key is given to the builder. -/
def applyEntry (key : List UInt8) (apply : ResponseAttributes → ℤ → ResponseAttributes)
    (builder : ResponseAttributes) (keyValuePairs : List (List UInt8 × List UInt8)) :
    Responding ResponseAttributes :=
  match keyValuePairs.lookup key with
  | none => .ok builder
  | some entry => do
    let value ← stoi entry
    return apply builder value

def applyBeaconSizeInKb :=
  applyEntry responseKeyMaxBeaconSizeInKb fun builder beaconSizeInKb =>
    builder.withMaxBeaconSizeInBytes (mulInt32 beaconSizeInKb 1024)

def applySendIntervalInSec :=
  applyEntry responseKeySendIntervalInSec fun builder sendIntervalInSec =>
    builder.withSendIntervalInMilliseconds (mulInt32 sendIntervalInSec 1000)

def applyCapture :=
  applyEntry responseKeyCapture fun builder capture => builder.withCapture (capture == 1)

def applyReportCrashes :=
  applyEntry responseKeyReportCrashes fun builder reportCrashes =>
    builder.withCaptureCrashes (reportCrashes != 0)

def applyReportErrors :=
  applyEntry responseKeyReportErrors fun builder reportErrors =>
    builder.withCaptureErrors (reportErrors != 0)

def applyTrafficControlPercentage :=
  applyEntry responseKeyTrafficControlPercentage fun builder trafficControlPercentage =>
    builder.withTrafficControlPercentage trafficControlPercentage

def applyServerId :=
  applyEntry responseKeyServerId fun builder serverId => builder.withServerId serverId

def applyMultiplicity :=
  applyEntry responseKeyMultiplicity fun builder multiplicity => builder.withMultiplicity multiplicity

/-- The functions of the attributes, in their order. -/
def applySteps :
    List (ResponseAttributes → List (List UInt8 × List UInt8) → Responding ResponseAttributes) :=
  [applyBeaconSizeInKb, applySendIntervalInSec, applyCapture, applyReportCrashes, applyReportErrors,
    applyTrafficControlPercentage, applyServerId, applyMultiplicity]

/-- The attributes of a response. -/
def parse (keyValuePairResponse : UTF8String) : Responding ResponseAttributes := do
  let keyValuePairs ← insertPairs (keyValuePairResponse.split 0x26) []
  applySteps.foldlM (fun builder step => step builder keyValuePairs) .keyValueResponse

end KeyValueResponseParser

end OpenKit
