import OpenKit.Json.JsonParser
import OpenKit.Json.JsonTrees

/-!
# Values in their places

A parser before a value takes its tokens and puts the value in its place: it becomes the result, an element
of the innermost array or the value of a member. So a value is read wherever one is expected, if none of
its members is refused: the parser takes an empty name for a missing one, and the null pointer for a
missing value.

## Main definitions

* `JsonTree.toValue`: the value that is made of a tree
* `JsonTree.Readable`: the trees that are read
* `ParserStacks.Expecting`: the states before a value
* `ParserStacks.opened`, `ParserStacks.deliver`: a value is opened, or there
* `ParserStacks.Feeds`: tokens are taken one after the other

## Main results

* `Expecting.run_close`: a value that is closed is in its place
* `delivers_of_readable`: the tokens of a value that can be read deliver it
-/

namespace OpenKit

open Thread

/-! ## The values of trees -/

mutual

/-- The value that is made of a tree. -/
def JsonTree.toValue : JsonTree → JsonValue
  | .null => .null
  | .boolean value => .boolean value
  | .string value => .string value
  | .number literal => JsonNumberValue.fromNumberLiteral literal
  | .array ts => .array (elementValues ts)
  | .object ms => .object (memberValues [] ms)

/-- The values of the elements of an array. -/
def elementValues : List JsonTree → List JsonValue
  | [] => []
  | t :: ts => t.toValue :: elementValues ts

/-- The members of an object are put into a map. -/
def memberValues (map : List (List UInt8 × JsonValue)) :
    List (List UInt8 × JsonTree) → List (List UInt8 × JsonValue)
  | [] => map
  | (key, t) :: ms => memberValues (insertOrAssign key t.toValue map) ms

end

/-- A member that is read: its name is not empty, and its value is not the null pointer. -/
def ReadableMember (m : List UInt8 × JsonTree) : Prop := m.1 ≠ [] ∧ m.2.toValue ≠ .nullPointer

/-- A tree that is read: all its members are. -/
def JsonTree.Readable (t : JsonTree) : Prop :=
  t.Everywhere fun t => match t with
    | .object ms => ∀ m ∈ ms, ReadableMember m
    | _ => True

theorem elementValues_append (ts ts' : List JsonTree) :
    elementValues (ts ++ ts') = elementValues ts ++ elementValues ts' := by
  induction ts with
  | nil => rfl
  | cons t ts ih => exact congrArg (t.toValue :: ·) ih

theorem memberValues_append (map : List (List UInt8 × JsonValue))
    (ms ms' : List (List UInt8 × JsonTree)) :
    memberValues map (ms ++ ms') = memberValues (memberValues map ms) ms' := by
  induction ms generalizing map with
  | nil => rfl
  | cons m ms ih => exact ih _

/-! ## Values in their places -/

namespace ParserStacks

/-- A parser before a value: at the start, in an array or behind a colon. -/
inductive Expecting : ParserStacks → Prop
  | init : Expecting ⟨.init, [], []⟩
  | arrayStart {xs : List JsonValue} {vs : List JsonValueContainer} {ss : List JsonParserState}
      (hlength : vs.length = ss.length) : Expecting ⟨.inArrayStart, .array xs :: vs, ss⟩
  | arrayDelimiter {xs : List JsonValue} {vs : List JsonValueContainer} {ss : List JsonParserState}
      (hlength : vs.length = ss.length) : Expecting ⟨.inArrayDelimiter, .array xs :: vs, ss⟩
  | colon {map : List (List UInt8 × JsonValue)} {key : List UInt8} {value : JsonValue}
      {vs : List JsonValueContainer} {ss : List JsonParserState} (hlength : vs.length = ss.length) :
      Expecting ⟨.inObjectColon, .object map key value :: vs, ss⟩

/-- The state to go back to when a value is there, unless it is the outermost one. -/
def returnStates (s : ParserStacks) : List JsonParserState :=
  match s.valueStack with
  | [] => []
  | .object _ _ _ :: _ => [.inObjectValue]
  | _ => [.inArrayValue]

/-- A value has been opened. -/
def opened (s : ParserStacks) (container : JsonValueContainer) (state : JsonParserState) :
    ParserStacks :=
  ⟨state, container :: s.valueStack, s.returnStates ++ s.stateStack⟩

/-- A value is there. -/
def deliver (s : ParserStacks) (container : JsonValueContainer) : ParserStacks :=
  match s.valueStack with
  | [] => ⟨.ended, [container], []⟩
  | .array xs :: vs => ⟨.inArrayValue, .array (xs ++ [container.jsonValue]) :: vs, s.stateStack⟩
  | .object map key _ :: vs =>
    ⟨.inObjectValue, .object map key container.jsonValue :: vs, s.stateStack⟩
  | .simple _ :: _ => s

/-- A run of the state function. -/
abbrev step (s : ParserStacks) (token : Option JsonToken) :
    Except JsonParserException Unit × ParserStacks := (parseState s.state token).run s

section Places

variable {s : ParserStacks} {container : JsonValueContainer} {state : JsonParserState}

theorem Expecting.length_opened (h : s.Expecting) :
    s.valueStack.length = (s.returnStates ++ s.stateStack).length := by
  cases h with
  | init => rfl
  | arrayStart hlength => exact congrArg (· + 1) hlength
  | arrayDelimiter hlength => exact congrArg (· + 1) hlength
  | colon hlength => exact congrArg (· + 1) hlength

theorem Expecting.state_eq (h : s.Expecting) :
    s.state = .init ∨ s.state = .inArrayStart ∨ s.state = .inArrayDelimiter ∨
      s.state = .inObjectColon := by
  cases h <;> simp

/-- **A value is closed**, and it is in its place. -/
theorem Expecting.run_close (h : s.Expecting) :
    closeCompositeJsonValueAndRestoreState.run (s.opened container state) =
      (.ok (), s.deliver container) := by
  have hlength : ¬ (s.opened container state).valueStack.length ≠
      (s.opened container state).stateStack.length + 1 := not_not.mpr (congrArg (· + 1) h.length_opened)
  show Program.run (ite ((s.opened container state).valueStack.length ≠
    (s.opened container state).stateStack.length + 1) _ (ite _ _ _)) _ = _
  rw [if_neg hlength]
  cases h with
  | init => rfl
  | arrayStart _ =>
    rw [if_neg (by simp [opened])]
    rfl
  | arrayDelimiter _ =>
    rw [if_neg (by simp [opened])]
    rfl
  | colon _ =>
    rw [if_neg (by simp [opened])]
    rfl

/-- The value of a token that is a value. -/
inductive IsSimple : JsonToken → JsonTree → Prop
  | null : IsSimple .null .null
  | boolean (value : Bool) : IsSimple (.boolean value) (.boolean value)
  | string (value : List UInt8) : IsSimple (.string value) (.string value)
  | number (literal : List UInt8) : IsSimple (.number literal) (.number literal)

theorem IsSimple.tokens {token : JsonToken} {t : JsonTree} (h : IsSimple token t) :
    t.tokens = [token] := by
  cases h <;> rw [JsonTree.tokens]

theorem IsSimple.readable {token : JsonToken} {t : JsonTree} (h : IsSimple token t) : t.Readable := by
  cases h <;> constructor <;> trivial

/-- A simple value is in its place. -/
theorem Expecting.step_simple (h : s.Expecting) {token : JsonToken} {t : JsonTree}
    (htoken : IsSimple token t) :
    s.step (some token) = (.ok (), s.deliver (.simple t.toValue)) := by
  cases h <;> cases htoken <;> rfl

theorem Expecting.step_leftSquareBracket (h : s.Expecting) :
    s.step (some .leftSquareBracket) = (.ok (), s.opened .newArray .inArrayStart) := by
  cases h <;> rfl

theorem Expecting.step_leftBrace (h : s.Expecting) :
    s.step (some .leftBrace) = (.ok (), s.opened .newObject .inObjectStart) := by
  cases h <;> rfl

/-- A token that is the start of a value, or none. -/
theorem cases_token (token : JsonToken) :
    (∃ t, IsSimple token t) ∨ token = .leftSquareBracket ∨ token = .leftBrace ∨
      token ∈ [.rightSquareBracket, .rightBrace, .comma, .colon] := by
  cases token with
  | number literal => exact .inl ⟨_, .number literal⟩
  | string value => exact .inl ⟨_, .string value⟩
  | boolean value => exact .inl ⟨_, .boolean value⟩
  | null => exact .inl ⟨_, .null⟩
  | _ => simp

end Places

/-! ## The tokens of a value that can be read -/

/-- Tokens are taken one after the other. -/
inductive Feeds : ParserStacks → List JsonToken → ParserStacks → Prop
  | nil {s : ParserStacks} : Feeds s [] s
  | cons {s t u : ParserStacks} {token : JsonToken} {tokens : List JsonToken}
      (hstep : s.step (some token) = (.ok (), t)) (h : Feeds t tokens u) : Feeds s (token :: tokens) u

theorem Feeds.append {s t u : ParserStacks} {tokens tokens' : List JsonToken} (h : Feeds s tokens t)
    (h' : Feeds t tokens' u) : Feeds s (tokens ++ tokens') u := by
  induction h with
  | nil => exact h'
  | cons hstep _ ih => exact .cons hstep (ih h')

theorem Feeds.single {s t : ParserStacks} {token : JsonToken}
    (h : s.step (some token) = (.ok (), t)) : Feeds s [token] t := .cons h .nil

/-- A value is delivered: after its tokens it is in its place. -/
def Delivers (t : JsonTree) : Prop :=
  ∀ s : ParserStacks, s.Expecting → ∃ container : JsonValueContainer,
    container.jsonValue = t.toValue ∧ Feeds s t.tokens (s.deliver container)

section Delivers

variable {s : ParserStacks}

theorem Expecting.openedArray (h : s.Expecting) (xs : List JsonValue) :
    (s.opened (.array xs) .inArrayStart).Expecting ∧
      (s.opened (.array xs) .inArrayDelimiter).Expecting :=
  ⟨.arrayStart h.length_opened, .arrayDelimiter h.length_opened⟩

theorem Expecting.openedObject (h : s.Expecting) (map : List (List UInt8 × JsonValue))
    (key : List UInt8) (value : JsonValue) :
    (s.opened (.object map key value) .inObjectColon).Expecting := .colon h.length_opened

/-- The further elements of an array. -/
theorem feeds_moreElementTokens (hs : s.Expecting) {ts : List JsonTree} (h : ∀ t ∈ ts, Delivers t)
    (xs : List JsonValue) :
    Feeds (s.opened (.array xs) .inArrayValue) (moreElementTokens ts)
      (s.opened (.array (xs ++ elementValues ts)) .inArrayValue) := by
  induction ts generalizing xs with
  | nil =>
    rw [elementValues, List.append_nil]
    exact .nil
  | cons t ts ih =>
    obtain ⟨container, hvalue, hfeeds⟩ := h t List.mem_cons_self _ (hs.openedArray xs).2
    have hmore := ih (fun t ht => h t (List.mem_cons_of_mem _ ht)) (xs ++ [container.jsonValue])
    rw [hvalue, List.append_assoc] at hmore
    rw [moreElementTokens]
    refine .cons (t := s.opened (.array xs) .inArrayDelimiter) rfl (hfeeds.append ?_)
    show Feeds (s.opened (.array (xs ++ [container.jsonValue])) .inArrayValue) _ _
    rw [hvalue]
    exact hmore

/-- A pair whose name is not empty and whose value is not the null pointer is put into the object. -/
theorem run_ensureKeyValuePairWasParsed {key : List UInt8} {value : JsonValue} (hkey : key ≠ [])
    (hvalue : value ≠ .nullPointer) :
    ensureKeyValuePairWasParsed key value = (return () : Parsing Unit) := by
  cases value with
  | nullPointer => exact absurd rfl hvalue
  | _ => exact if_neg hkey

theorem step_comma_of_pair {map : List (List UInt8 × JsonValue)} {key : List UInt8}
    {value : JsonValue} (hkey : key ≠ []) (hvalue : value ≠ .nullPointer) :
    (s.opened (.object map key value) .inObjectValue).step (some .comma) =
      (.ok (), s.opened (.object (insertOrAssign key value map) [] .nullPointer)
        .inObjectDelimiter) := by
  show Program.run (do
    (do
      ensureKeyValuePairWasParsed key value
      setTop (.object (insertOrAssign key value map) [] .nullPointer))
    setState .inObjectDelimiter) _ = _
  rw [run_ensureKeyValuePairWasParsed hkey hvalue]
  rfl

theorem step_rightBrace_of_pair (hs : s.Expecting) {map : List (List UInt8 × JsonValue)}
    {key : List UInt8} {value : JsonValue} (hkey : key ≠ []) (hvalue : value ≠ .nullPointer) :
    (s.opened (.object map key value) .inObjectValue).step (some .rightBrace) =
      (.ok (), s.deliver (.object (insertOrAssign key value map) key value)) := by
  show Program.run (do
    ensureKeyValuePairWasParsed key value
    setTop (.object (insertOrAssign key value map) key value)
    closeCompositeJsonValueAndRestoreState) _ = _
  rw [run_ensureKeyValuePairWasParsed hkey hvalue]
  exact hs.run_close

/-- A name and a colon. -/
theorem feeds_key {state : JsonParserState} (hstate : state = .inObjectStart ∨ state = .inObjectDelimiter)
    (map : List (List UInt8 × JsonValue)) (key : List UInt8) {key' : List UInt8} {value : JsonValue} :
    Feeds (s.opened (.object map key' value) state) [.string key, .colon]
      (s.opened (.object map key value) .inObjectColon) := by
  have hkey : (s.opened (.object map key' value) state).step (some (.string key)) =
      (.ok (), s.opened (.object map key value) .inObjectKey) := by
    rcases hstate with rfl | rfl <;> rfl
  exact .cons hkey (.single rfl)

/-- The further members of an object, and its end. -/
theorem feeds_moreMemberTokens (hs : s.Expecting) {ms : List (List UInt8 × JsonTree)}
    (h : ∀ m ∈ ms, Delivers m.2) (hreadable : ∀ m ∈ ms, ReadableMember m)
    (map : List (List UInt8 × JsonValue)) {key : List UInt8} {value : JsonValue} (hkey : key ≠ [])
    (hvalue : value ≠ .nullPointer) :
    ∃ container : JsonValueContainer,
      container.jsonValue = .object (memberValues (insertOrAssign key value map) ms) ∧
      Feeds (s.opened (.object map key value) .inObjectValue) (moreMemberTokens ms ++ [.rightBrace])
        (s.deliver container) := by
  induction ms generalizing map key value with
  | nil =>
    exact ⟨.object (insertOrAssign key value map) key value, rfl,
      .single (step_rightBrace_of_pair hs hkey hvalue)⟩
  | cons m ms ih =>
    obtain ⟨key', t⟩ := m
    obtain ⟨hkey', hvalue'⟩ := hreadable _ List.mem_cons_self
    obtain ⟨container, hcontainer, hfeeds⟩ := h _ List.mem_cons_self _
      (hs.openedObject (insertOrAssign key value map) key' .nullPointer)
    obtain ⟨last, hlast, hmore⟩ := ih (fun m hm => h m (List.mem_cons_of_mem _ hm))
      (fun m hm => hreadable m (List.mem_cons_of_mem _ hm)) (insertOrAssign key value map) hkey' hvalue'
    refine ⟨last, hlast, ?_⟩
    simp only [moreMemberTokens, List.cons_append, List.append_assoc]
    refine .cons (step_comma_of_pair hkey hvalue) ((feeds_key (.inr rfl)
      (insertOrAssign key value map) key').append (hfeeds.append ?_))
    show Feeds (s.opened (.object (insertOrAssign key value map) key' container.jsonValue)
      .inObjectValue) _ _
    rw [hcontainer]
    exact hmore

/-- **The tokens of a value that can be read** deliver it. -/
theorem delivers_of_readable {t : JsonTree} (h : t.Readable) : Delivers t := by
  induction h with
  | null =>
    intro s hs
    refine ⟨.simple _, rfl, ?_⟩
    rw [IsSimple.null.tokens]
    exact .single (hs.step_simple .null)
  | @boolean value =>
    intro s hs
    refine ⟨.simple _, rfl, ?_⟩
    rw [(IsSimple.boolean value).tokens]
    exact .single (hs.step_simple (.boolean value))
  | @string value =>
    intro s hs
    refine ⟨.simple _, rfl, ?_⟩
    rw [(IsSimple.string value).tokens]
    exact .single (hs.step_simple (.string value))
  | @number literal =>
    intro s hs
    refine ⟨.simple _, rfl, ?_⟩
    rw [(IsSimple.number literal).tokens]
    exact .single (hs.step_simple (.number literal))
  | @array ts _ _ ih =>
    intro s hs
    cases ts with
    | nil =>
      refine ⟨.array [], rfl, ?_⟩
      rw [JsonTree.tokens]
      exact .cons hs.step_leftSquareBracket (.single hs.run_close)
    | cons t ts =>
      obtain ⟨container, hvalue, hfeeds⟩ := ih t List.mem_cons_self _ (hs.openedArray []).1
      have hmore := feeds_moreElementTokens hs (fun t ht => ih t (List.mem_cons_of_mem _ ht))
        [container.jsonValue]
      refine ⟨.array (container.jsonValue :: elementValues ts), ?_, ?_⟩
      · rw [hvalue]
        rfl
      · rw [JsonTree.tokens_array_cons]
        exact .cons hs.step_leftSquareBracket ((hfeeds.append hmore).append (.single hs.run_close))
  | @object ms hmembers _ ih =>
    intro s hs
    cases ms with
    | nil =>
      refine ⟨.object [] [] .nullPointer, rfl, ?_⟩
      rw [JsonTree.tokens]
      exact .cons hs.step_leftBrace (.single hs.run_close)
    | cons m ms =>
      obtain ⟨key, t⟩ := m
      obtain ⟨hkey, hvalue⟩ := hmembers _ List.mem_cons_self
      obtain ⟨container, hcontainer, hfeeds⟩ := ih _ List.mem_cons_self _
        (hs.openedObject [] key .nullPointer)
      obtain ⟨last, hlast, hmore⟩ := feeds_moreMemberTokens hs
        (fun m hm => ih m (List.mem_cons_of_mem _ hm))
        (fun m hm => hmembers m (List.mem_cons_of_mem _ hm)) [] hkey hvalue
      refine ⟨last, hlast, ?_⟩
      rw [JsonTree.tokens_object_cons, List.append_assoc]
      refine .cons hs.step_leftBrace ((feeds_key (.inl rfl) [] key).append (hfeeds.append ?_))
      show Feeds (s.opened (.object [] key container.jsonValue) .inObjectValue) _ _
      rw [hcontainer]
      exact hmore

end Delivers

end ParserStacks

end OpenKit
