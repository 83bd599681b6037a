import OpenKit.Library.UnorderedMap
import OpenKit.Protocol.KeyValueResponseParser
import OpenKit.Protocol.StatusResponse

/-!
# Headers of responses

The headers are in an unordered map, with a hash and an equality of names that do not see the case of a
letter. It is a map of the names in lower case, and each of them has its values in the order in which they
arrived.

## Main definitions

* `headerNameHasher`, `headerNameEqualityComparer`: the functions of the map
* `HttpHeaderCollection`: the headers, with the operations on them
* `HeaderValues`: the values of the names in lower case

## Main results

* `HttpHeaderCollection.run_behaves`: the headers behave as the values of the names in lower case
* `StatusResponse.getRetryAfterInMilliseconds_eq`: the delay is found under every spelling
-/

namespace OpenKit

/-- `std::tolower` with the classic locale, which has the letters of ASCII only. -/
def tolower (chr : UInt8) : UInt8 := if 0x41 ≤ chr ∧ chr ≤ 0x5A then chr + 0x20 else chr

/-- A name in lower case. -/
def lowerCase (name : List UInt8) : List UInt8 := name.map tolower

def fnvOffsetBasis : UInt64 := 0xcbf29ce484222325

def fnvPrime : UInt64 := 0x100000001b3

/-- A character has a sign, which is extended to the size of the hash. -/
def characterToSizeT (chr : UInt8) : UInt64 := chr.toInt8.toInt64.toUInt64

def headerNameHasher (name : List UInt8) : UInt64 :=
  name.foldl (fun hash c => (hash ^^^ characterToSizeT (tolower c)) * fnvPrime) fnvOffsetBasis

def headerNameEqualityComparer (lhs rhs : List UInt8) : Bool :=
  lhs.length == rhs.length && (lhs.zip rhs).all fun c => c.1 == c.2 || tolower c.1 == tolower c.2

/-- The functions that the map of the headers is given. -/
def headerNames : UnorderedMap.KeyFunctions (List UInt8) UInt64 :=
  ⟨headerNameHasher, headerNameEqualityComparer⟩

/-- **Names compare equal** exactly if they are the same in lower case. -/
theorem headerNameEqualityComparer_iff (lhs rhs : List UInt8) :
    headerNameEqualityComparer lhs rhs = true ↔ lowerCase lhs = lowerCase rhs := by
  unfold headerNameEqualityComparer lowerCase
  induction lhs generalizing rhs with
  | nil =>
    cases rhs with
    | nil => exact iff_of_true rfl rfl
    | cons c rhs => exact iff_of_false Bool.false_ne_true (List.cons_ne_nil _ _).symm
  | cons c lhs ih =>
    cases rhs with
    | nil => exact iff_of_false Bool.false_ne_true (List.cons_ne_nil _ _)
    | cons c' rhs =>
      have hchr : (c == c' || tolower c == tolower c') = true ↔ tolower c = tolower c' := by
        rw [Bool.or_eq_true, beq_iff_eq, beq_iff_eq, or_iff_right_iff_imp]
        intro h
        rw [h]
      have hlength : ((c :: lhs).length == (c' :: rhs).length) = (lhs.length == rhs.length) := by
        rw [Bool.eq_iff_iff, beq_iff_eq, beq_iff_eq, List.length_cons, List.length_cons,
          Nat.add_right_cancel_iff]
      rw [List.map_cons, List.map_cons, List.cons.injEq, ← ih rhs, ← hchr, hlength, List.zip_cons_cons,
        List.all_cons, Bool.and_eq_true, Bool.and_eq_true, Bool.and_eq_true]
      exact and_left_comm

/-- **The hash** is one of the name in lower case. -/
theorem headerNameHasher_eq_of_lowerCase_eq {name name' : List UInt8}
    (h : lowerCase name = lowerCase name') : headerNameHasher name = headerNameHasher name' := by
  have hlower (name : List UInt8) : headerNameHasher name =
      (lowerCase name).foldl (fun hash c => (hash ^^^ characterToSizeT c) * fnvPrime)
        fnvOffsetBasis := by
    rw [headerNameHasher, lowerCase, List.foldl_map]
  rw [hlower, hlower, h]

/-- The hash and the equality agree. -/
theorem headerNames_views : headerNames.Views lowerCase where
  equal_iff := headerNameEqualityComparer_iff
  hash_eq _ _ h := headerNameHasher_eq_of_lowerCase_eq h

/-- The exception of a header that is not there. -/
structure HeaderNotFound where
  what : List UInt8
deriving DecidableEq, Repr

structure HttpHeaderCollection where
  container : UnorderedMap headerNames (List (List UInt8))

namespace HttpHeaderCollection

def new : HttpHeaderCollection := ⟨UnorderedMap.empty⟩

/-- The order is not specified. -/
def getHeaderNames (c : HttpHeaderCollection) : List (List UInt8) := c.container.entries.map Prod.fst

def contains (c : HttpHeaderCollection) (name : List UInt8) : Bool := (c.container.find name).isSome

/-- `Header "name" not found` -/
def notFound (name : List UInt8) : HeaderNotFound :=
  ⟨(UTF8String.ofAscii ['H', 'e', 'a', 'd', 'e', 'r', ' ', '"']).data ++ name ++
    (UTF8String.ofAscii ['"', ' ', 'n', 'o', 't', ' ', 'f', 'o', 'u', 'n', 'd']).data⟩

def getHeader (c : HttpHeaderCollection) (name : List UInt8) :
    Except HeaderNotFound (List (List UInt8)) :=
  match c.container.find name with
  | none => .error (notFound name)
  | some entry => .ok entry.2

/-- The old entry may have another spelling. -/
def setHeader (c : HttpHeaderCollection) (name value : List UInt8) : HttpHeaderCollection :=
  ⟨(c.container.erase name).insert (name, [value])⟩

def appendHeader (c : HttpHeaderCollection) (name value : List UInt8) : HttpHeaderCollection :=
  match c.container.find name with
  | some _ => ⟨c.container.update name fun values => values ++ [value]⟩
  | none => ⟨c.container.insert (name, [value])⟩

def isEmpty (c : HttpHeaderCollection) : Bool := c.container.entries.isEmpty

def clear (_ : HttpHeaderCollection) : HttpHeaderCollection := new

end HttpHeaderCollection

/-- The operations that change the headers. -/
inductive HeaderOperation
  | setHeader (name value : List UInt8)
  | appendHeader (name value : List UInt8)
  | clear
deriving DecidableEq, Repr

namespace HttpHeaderCollection

def apply (c : HttpHeaderCollection) : HeaderOperation → HttpHeaderCollection
  | .setHeader name value => c.setHeader name value
  | .appendHeader name value => c.appendHeader name value
  | .clear => c.clear

/-- The headers after some operations. -/
def run (operations : List HeaderOperation) : HttpHeaderCollection := operations.foldl apply new

end HttpHeaderCollection

/-- The values of the names in lower case, in the order of their arrival. -/
abbrev HeaderValues : Type := List UInt8 → Option (List (List UInt8))

namespace HeaderValues

def apply (values : HeaderValues) : HeaderOperation → HeaderValues
  | .setHeader name value => Function.update values (lowerCase name) (some [value])
  | .appendHeader name value =>
    Function.update values (lowerCase name) (some ((values (lowerCase name)).getD [] ++ [value]))
  | .clear => fun _ => none

/-- The values after some operations. -/
def run (operations : List HeaderOperation) : HeaderValues := operations.foldl apply fun _ => none

end HeaderValues

namespace HttpHeaderCollection

variable (c : HttpHeaderCollection) (name value : List UInt8)

/-- What the headers stand for. -/
def values : HeaderValues := c.container.valueAt lowerCase

theorem contains_eq : c.contains name = (c.values (lowerCase name)).isSome := by
  rw [contains, values, ← UnorderedMap.find_eq headerNames_views, Option.isSome_map]

theorem getHeader_eq :
    c.getHeader name = (c.values (lowerCase name)).elim (.error (notFound name)) .ok := by
  rw [getHeader, values, ← UnorderedMap.find_eq headerNames_views]
  cases c.container.find name with
  | none => rfl
  | some entry => rfl

theorem values_setHeader :
    (c.setHeader name value).values = Function.update c.values (lowerCase name) (some [value]) := by
  funext a
  unfold values setHeader
  rw [UnorderedMap.valueAt_insert headerNames_views, UnorderedMap.valueAt_erase headerNames_views,
    Function.update_apply, Function.update_apply]
  by_cases ha : a = lowerCase name
  · rw [if_pos ha, if_pos ha, if_pos ha.symm]
    rfl
  · rw [if_neg ha, if_neg ha, if_neg (Ne.symm ha), Option.or_none]

theorem values_appendHeader :
    (c.appendHeader name value).values =
      Function.update c.values (lowerCase name)
        (some ((c.values (lowerCase name)).getD [] ++ [value])) := by
  have hfound := UnorderedMap.find_eq headerNames_views c.container name
  unfold appendHeader
  cases hentry : c.container.find name with
  | none =>
    rw [hentry] at hfound
    have hnone : c.values (lowerCase name) = none := hfound.symm
    funext a
    dsimp only [values] at hnone ⊢
    rw [UnorderedMap.valueAt_insert headerNames_views, Function.update_apply, hnone]
    by_cases ha : a = lowerCase name
    · rw [if_pos ha, if_pos ha.symm, ha, hnone]
      rfl
    · rw [if_neg ha, if_neg (Ne.symm ha), Option.or_none]
  | some entry =>
    rw [hentry] at hfound
    have hsome : c.values (lowerCase name) = some entry.2 := hfound.symm
    rw [hsome]
    dsimp only [values]
    rw [UnorderedMap.valueAt_update headerNames_views, ← hfound]
    rfl

/-- **A step** of the headers is one of their values. -/
theorem values_apply (operation : HeaderOperation) :
    (c.apply operation).values = HeaderValues.apply c.values operation := by
  cases operation with
  | setHeader name value => exact c.values_setHeader name value
  | appendHeader name value => exact c.values_appendHeader name value
  | clear => rfl

/-- **Some steps** of the headers are those of their values. -/
theorem values_foldl (operations : List HeaderOperation) :
    (operations.foldl apply c).values = operations.foldl HeaderValues.apply c.values := by
  induction operations generalizing c with
  | nil => rfl
  | cons operation operations ih => rw [List.foldl_cons, List.foldl_cons, ih, values_apply]

/-- **A run** of the headers is one of their values. -/
theorem values_run (operations : List HeaderOperation) :
    (run operations).values = HeaderValues.run operations :=
  values_foldl new operations

/-- **Headers behave** as a map from names in lower case to the values in order of their arrival; names are
equal exactly if they are so in lower case, and then their hashes are. -/
theorem run_behaves :
    (∀ operations name,
      (run operations).contains name = (HeaderValues.run operations (lowerCase name)).isSome ∧
        (run operations).getHeader name =
          (HeaderValues.run operations (lowerCase name)).elim (.error (notFound name)) .ok) ∧
      ∀ name name', (headerNameEqualityComparer name name' = true ↔ lowerCase name = lowerCase name') ∧
        (lowerCase name = lowerCase name' → headerNameHasher name = headerNameHasher name') := by
  constructor
  · intro operations name
    rw [contains_eq, getHeader_eq, values_run]
    exact ⟨rfl, rfl⟩
  · intro name name'
    exact ⟨headerNameEqualityComparer_iff name name', headerNameHasher_eq_of_lowerCase_eq⟩

end HttpHeaderCollection

namespace StatusResponse

/-- `retry-after` -/
def responseKeyRetryAfter : List UInt8 :=
  (UTF8String.ofAscii ['r', 'e', 't', 'r', 'y', '-', 'a', 'f', 't', 'e', 'r']).data

def defaultRetryAfterInMilliseconds : ℤ := 10 * 60 * 1000

/-- The number of a value. Both exceptions of `stoi` are caught. -/
def delayOf (stringValue : List UInt8) : ℤ :=
  match stoi stringValue with
  | .ok delaySeconds => delaySeconds * 1000
  | .error _ => defaultRetryAfterInMilliseconds

def getRetryAfterInMilliseconds (responseHeaders : HttpHeaderCollection) : Except HeaderNotFound ℤ :=
  if !responseHeaders.contains responseKeyRetryAfter then .ok defaultRetryAfterInMilliseconds
  else do
    let headerValues ← responseHeaders.getHeader responseKeyRetryAfter
    if headerValues.length ≠ 1 then return defaultRetryAfterInMilliseconds
    else return delayOf (headerValues.headD [])

/-- The delay that some values ask for. -/
def delayOfValues : Option (List (List UInt8)) → ℤ
  | some [stringValue] => delayOf stringValue
  | _ => defaultRetryAfterInMilliseconds

/-- **The delay** is that of the values under the name in lower case, and no exception escapes. -/
theorem getRetryAfterInMilliseconds_eq (responseHeaders : HttpHeaderCollection) :
    getRetryAfterInMilliseconds responseHeaders =
      .ok (delayOfValues (responseHeaders.values responseKeyRetryAfter)) := by
  have hlower : lowerCase responseKeyRetryAfter = responseKeyRetryAfter := by decide
  rw [getRetryAfterInMilliseconds, HttpHeaderCollection.contains_eq, HttpHeaderCollection.getHeader_eq,
    hlower]
  cases responseHeaders.values responseKeyRetryAfter with
  | none => rfl
  | some headerValues =>
    cases headerValues with
    | nil => rfl
    | cons value headerValues =>
      cases headerValues with
      | nil => rfl
      | cons value' headerValues => rfl

end StatusResponse

end OpenKit
