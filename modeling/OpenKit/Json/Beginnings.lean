import OpenKit.Json.ParserStates

/-!
# The beginnings of values

A parser that has taken some tokens has taken the beginning of a value. Its stacks tell which one: every
container on the stack is an array or an object that was opened and not closed yet, with what has been
read of it. From there a token leads to the state of the longer beginning, or to the error state, or it is
one of the tokens that raise an exception without a transition into the error state.

## Main definitions

* `ParserStacks.Consumed`: the beginnings of values, and the stacks behind them
* `ParserStacks.Misplaced`: the tokens that raise an exception without a transition

## Main results

* `Consumed.deliver`: a value behind a beginning
* `Consumed.step`: a token behind a beginning
* `Consumed.step_none`: the end behind a beginning
-/

namespace OpenKit

open Thread

/-- The tokens of members with a comma behind each. -/
def memberTokens (ms : List (List UInt8 × JsonTree)) : List JsonToken :=
  ms.flatMap fun m => .string m.1 :: .colon :: (m.2.tokens ++ [.comma])

theorem memberTokens_append (ms ms' : List (List UInt8 × JsonTree)) :
    memberTokens (ms ++ ms') = memberTokens ms ++ memberTokens ms' := List.flatMap_append

theorem moreElementTokens_append (ts : List JsonTree) (t : JsonTree) :
    moreElementTokens (ts ++ [t]) = moreElementTokens ts ++ .comma :: t.tokens := by
  induction ts with
  | nil => simp [moreElementTokens]
  | cons t' ts ih => simp [moreElementTokens, ih]

/-- The tokens of an object, its last member apart. -/
theorem tokens_object_append (ms : List (List UInt8 × JsonTree)) (key : List UInt8) (t : JsonTree) :
    (JsonTree.object (ms ++ [(key, t)])).tokens =
      .leftBrace :: (memberTokens ms ++ .string key :: .colon :: (t.tokens ++ [.rightBrace])) := by
  have hmore : ∀ (key' : List UInt8) (t' : JsonTree) (ms : List (List UInt8 × JsonTree)),
      .string key' :: .colon :: (t'.tokens ++ moreMemberTokens (ms ++ [(key, t)])) =
        memberTokens ((key', t') :: ms) ++ .string key :: .colon :: t.tokens := by
    intro key' t' ms
    induction ms generalizing key' t' with
    | nil => simp [moreMemberTokens, memberTokens]
    | cons m ms ih =>
      have hrest := ih m.1 m.2
      rw [List.cons_append, moreMemberTokens, hrest]
      simp [memberTokens]
  cases ms with
  | nil => simp [JsonTree.tokens_object_cons, moreMemberTokens, memberTokens]
  | cons m ms =>
    have hrest := hmore m.1 m.2 ms
    rw [List.cons_append, JsonTree.tokens_object_cons]
    rw [← List.cons_append, ← List.cons_append, hrest]
    simp

namespace ParserStacks

/-- Members that are read. -/
def ReadableMembers (ms : List (List UInt8 × JsonTree)) : Prop :=
  ∀ m ∈ ms, ReadableMember m ∧ m.2.Readable

/-- **The beginnings of values**, and the stacks behind them. -/
inductive Consumed : List JsonToken → ParserStacks → Prop
  | init : Consumed [] ⟨.init, [], []⟩
  | arrayStart {before : List JsonToken} {s : ParserStacks} (hs : s.Expecting) (h : Consumed before s) :
      Consumed (before ++ [.leftSquareBracket]) (s.opened .newArray .inArrayStart)
  | arrayValue {before : List JsonToken} {s : ParserStacks} (hs : s.Expecting) (h : Consumed before s)
      (t : JsonTree) (ts : List JsonTree) (ht : ∀ t' ∈ t :: ts, t'.Readable) :
      Consumed (before ++ .leftSquareBracket :: (t.tokens ++ moreElementTokens ts))
        (s.opened (.array (elementValues (t :: ts))) .inArrayValue)
  | arrayDelimiter {before : List JsonToken} {s : ParserStacks} (hs : s.Expecting)
      (h : Consumed before s) (t : JsonTree) (ts : List JsonTree) (ht : ∀ t' ∈ t :: ts, t'.Readable) :
      Consumed (before ++ .leftSquareBracket :: (t.tokens ++ moreElementTokens ts ++ [.comma]))
        (s.opened (.array (elementValues (t :: ts))) .inArrayDelimiter)
  | objectStart {before : List JsonToken} {s : ParserStacks} (hs : s.Expecting)
      (h : Consumed before s) :
      Consumed (before ++ [.leftBrace]) (s.opened .newObject .inObjectStart)
  | objectKey {before : List JsonToken} {s : ParserStacks} (hs : s.Expecting) (h : Consumed before s)
      (ms : List (List UInt8 × JsonTree)) (hms : ReadableMembers ms) (key : List UInt8)
      (value : JsonValue) :
      Consumed (before ++ .leftBrace :: (memberTokens ms ++ [.string key]))
        (s.opened (.object (memberValues [] ms) key value) .inObjectKey)
  | objectColon {before : List JsonToken} {s : ParserStacks} (hs : s.Expecting)
      (h : Consumed before s) (ms : List (List UInt8 × JsonTree)) (hms : ReadableMembers ms)
      (key : List UInt8) (value : JsonValue) :
      Consumed (before ++ .leftBrace :: (memberTokens ms ++ [.string key, .colon]))
        (s.opened (.object (memberValues [] ms) key value) .inObjectColon)
  | objectValue {before : List JsonToken} {s : ParserStacks} (hs : s.Expecting)
      (h : Consumed before s) (ms : List (List UInt8 × JsonTree)) (hms : ReadableMembers ms)
      (key : List UInt8) (t : JsonTree) (ht : t.Readable) :
      Consumed (before ++ .leftBrace :: (memberTokens ms ++ .string key :: .colon :: t.tokens))
        (s.opened (.object (memberValues [] ms) key t.toValue) .inObjectValue)
  | objectDelimiter {before : List JsonToken} {s : ParserStacks} (hs : s.Expecting)
      (h : Consumed before s) (ms : List (List UInt8 × JsonTree)) (hms : ReadableMembers ms) :
      Consumed (before ++ .leftBrace :: memberTokens ms)
        (s.opened (.object (memberValues [] ms) [] .nullPointer) .inObjectDelimiter)
  | ended (t : JsonTree) (ht : t.Readable) {container : JsonValueContainer}
      (hvalue : container.jsonValue = t.toValue) : Consumed t.tokens ⟨.ended, [container], []⟩

/-- A member whose name is empty or whose value could not be converted. -/
def LacksPair (s : ParserStacks) : Prop :=
  match s.valueStack with
  | .object _ key value :: _ => key = [] ∨ value = .nullPointer
  | _ => False

/-- The tokens that stand behind a value or a name. -/
def closingTokens : List JsonToken := [.rightSquareBracket, .rightBrace, .comma, .colon]

/-- The tokens that raise an exception without a transition into the error state. -/
def Misplaced (s : ParserStacks) (token : JsonToken) : Prop :=
  (s.state = .inObjectColon ∧ token ∈ closingTokens) ∨
    (s.state = .inObjectValue ∧ (token = .rightBrace ∨ token = .comma) ∧ s.LacksPair)

/-- What a token does behind a beginning. -/
inductive Taken (tokens : List JsonToken) (s : ParserStacks) (token : JsonToken) :
    Except JsonParserException Unit × ParserStacks → Prop
  | consumed {t : ParserStacks} (h : Consumed (tokens ++ [token]) t) (hplace : ¬ s.Misplaced token) :
      Taken tokens s token (.ok (), t)
  | refused {e : JsonParserException} {t : ParserStacks} (hstate : t.state = .error)
      (hplace : ¬ s.Misplaced token) : Taken tokens s token (.error e, t)
  | misplaced {e : JsonParserException} {t : ParserStacks} (hstate : t.state ≠ .error)
      (hplace : s.Misplaced token) : Taken tokens s token (.error e, t)

section Step

variable {s : ParserStacks} {before tokens : List JsonToken} {token : JsonToken}

/-- **A value behind a beginning** is in its place. -/
theorem Consumed.deliver (h : Consumed before s) (hs : s.Expecting) {t : JsonTree} (ht : t.Readable)
    {container : JsonValueContainer} (hvalue : container.jsonValue = t.toValue) :
    Consumed (before ++ t.tokens) (s.deliver container) := by
  cases h with
  | init => exact .ended t ht hvalue
  | @arrayStart before s hs' h =>
    have hnext := Consumed.arrayValue hs' h t [] (List.forall_mem_singleton.mpr ht)
    rw [elementValues, ← hvalue, moreElementTokens, List.append_nil] at hnext
    rw [List.append_assoc]
    exact hnext
  | @arrayDelimiter before s hs' h t' ts hts =>
    have hnext := Consumed.arrayValue hs' h t' (ts ++ [t])
      (List.forall_mem_append.mpr ⟨hts, List.forall_mem_singleton.mpr ht⟩)
    have hvalues : elementValues (t' :: (ts ++ [t])) = elementValues (t' :: ts) ++ [t.toValue] :=
      elementValues_append (t' :: ts) [t]
    rw [moreElementTokens_append, hvalues, ← hvalue] at hnext
    simp only [List.append_assoc, List.cons_append, List.nil_append] at hnext ⊢
    exact hnext
  | @objectColon before s hs' h ms hms key value =>
    have hnext := Consumed.objectValue hs' h ms hms key t ht
    rw [← hvalue] at hnext
    simp only [List.append_assoc, List.cons_append, List.nil_append] at hnext ⊢
    exact hnext
  | arrayValue => exact absurd hs.state_eq (by simp [opened])
  | objectStart => exact absurd hs.state_eq (by simp [opened])
  | objectKey => exact absurd hs.state_eq (by simp [opened])
  | objectValue => exact absurd hs.state_eq (by simp [opened])
  | objectDelimiter => exact absurd hs.state_eq (by simp [opened])
  | ended => exact absurd hs.state_eq (by simp)

/-- A token before a value: the start of one, or another token. -/
theorem Consumed.step_expecting (h : Consumed tokens s) (hs : s.Expecting)
    (hclosing : token ∈ closingTokens → Taken tokens s token (s.step (some token))) :
    Taken tokens s token (s.step (some token)) := by
  have hplace : token ∉ closingTokens → ¬ s.Misplaced token := by
    rintro htoken (⟨-, h⟩ | ⟨hstate, -⟩)
    · exact htoken h
    · exact absurd hs.state_eq (by simp [hstate])
  rcases cases_token token with ⟨t, htoken⟩ | rfl | rfl | htoken
  · rw [hs.step_simple htoken]
    have hvalue : (JsonValueContainer.simple t.toValue).jsonValue = t.toValue := rfl
    have hnext := h.deliver hs htoken.readable hvalue
    rw [htoken.tokens] at hnext
    refine .consumed hnext (hplace ?_)
    cases htoken <;> simp [closingTokens]
  · rw [hs.step_leftSquareBracket]
    exact .consumed (.arrayStart hs h) (hplace (by simp [closingTokens]))
  · rw [hs.step_leftBrace]
    exact .consumed (.objectStart hs h) (hplace (by simp [closingTokens]))
  · exact hclosing htoken

/-- An array is closed. -/
theorem Consumed.closeArray (h : Consumed before s) (hs : s.Expecting) {ts : List JsonTree}
    (hts : ∀ t ∈ ts, t.Readable) :
    Consumed (before ++ (JsonTree.array ts).tokens) (s.deliver (.array (elementValues ts))) :=
  h.deliver hs (.array trivial hts) rfl

/-- An object is closed. -/
theorem Consumed.closeObject (h : Consumed before s) (hs : s.Expecting)
    {ms : List (List UInt8 × JsonTree)} (hms : ReadableMembers ms) (key : List UInt8)
    (value : JsonValue) :
    Consumed (before ++ (JsonTree.object ms).tokens)
      (s.deliver (.object (memberValues [] ms) key value)) :=
  h.deliver hs (.object (fun m hm => (hms m hm).1) fun m hm => (hms m hm).2) rfl

/-- A token behind a member: the object is closed or goes on, if the member is read. -/
theorem Consumed.step_objectValue (h : Consumed before s) (hs : s.Expecting)
    {ms : List (List UInt8 × JsonTree)} (hms : ReadableMembers ms) (key : List UInt8) {t : JsonTree}
    (ht : t.Readable) :
    Taken (before ++ .leftBrace :: (memberTokens ms ++ .string key :: .colon :: t.tokens))
      (s.opened (.object (memberValues [] ms) key t.toValue) .inObjectValue) token
      ((s.opened (.object (memberValues [] ms) key t.toValue) .inObjectValue).step (some token)) := by
  have hplace (h : token ≠ .rightBrace ∧ token ≠ .comma) :
      ¬ Misplaced (s.opened (.object (memberValues [] ms) key t.toValue) .inObjectValue) token := by
    rintro (⟨hstate, -⟩ | ⟨-, htoken | htoken, -⟩)
    · cases hstate
    · exact h.1 htoken
    · exact h.2 htoken
  by_cases hlacks : key = [] ∨ t.toValue = .nullPointer
  · -- the member is refused, in the state behind its value
    have hrefused : ∃ e, ensureKeyValuePairWasParsed key t.toValue =
        (throwInternalParserError e : Parsing Unit) := by
      by_cases hkey : key = []
      · exact ⟨_, if_pos hkey⟩
      · rw [hlacks.resolve_left hkey]
        exact ⟨_, if_neg hkey⟩
    obtain ⟨message, hrefused⟩ := hrefused
    cases token with
    | comma =>
      have hrun : (s.opened (.object (memberValues [] ms) key t.toValue) .inObjectValue).step
          (some .comma) = (.error (.internalParserError .inObjectValue message),
            s.opened (.object (memberValues [] ms) key t.toValue) .inObjectValue) := by
        show Program.run (do
          (do
            ensureKeyValuePairWasParsed key t.toValue
            setTop _)
          setState .inObjectDelimiter) _ = _
        rw [hrefused]
        rfl
      rw [hrun]
      exact .misplaced nofun (.inr ⟨rfl, .inr rfl, hlacks⟩)
    | rightBrace =>
      have hrun : (s.opened (.object (memberValues [] ms) key t.toValue) .inObjectValue).step
          (some .rightBrace) = (.error (.internalParserError .inObjectValue message),
            s.opened (.object (memberValues [] ms) key t.toValue) .inObjectValue) := by
        show Program.run (do
          ensureKeyValuePairWasParsed key t.toValue
          setTop _
          closeCompositeJsonValueAndRestoreState) _ = _
        rw [hrefused]
        rfl
      rw [hrun]
      exact .misplaced nofun (.inr ⟨rfl, .inl rfl, hlacks⟩)
    | _ => exact .refused rfl (hplace ⟨nofun, nofun⟩)
  · obtain ⟨hkey, hvalue⟩ := not_or.mp hlacks
    have hread : ¬ Misplaced (s.opened (.object (memberValues [] ms) key t.toValue) .inObjectValue)
        token := by
      rintro (⟨hstate, -⟩ | ⟨-, -, h⟩)
      · cases hstate
      · exact hlacks h
    have hmembers : ReadableMembers (ms ++ [(key, t)]) := List.forall_mem_append.mpr
      ⟨hms, List.forall_mem_singleton.mpr ⟨⟨hkey, hvalue⟩, ht⟩⟩
    have hmap : memberValues [] (ms ++ [(key, t)]) =
      insertOrAssign key t.toValue (memberValues [] ms) := memberValues_append _ _ _
    cases token with
    | comma =>
      have hnext := Consumed.objectDelimiter hs h (ms ++ [(key, t)]) hmembers
      rw [hmap, memberTokens_append] at hnext
      rw [step_comma_of_pair hkey hvalue]
      refine .consumed ?_ hread
      simpa only [memberTokens, List.flatMap_cons, List.flatMap_nil, List.append_assoc,
        List.cons_append, List.nil_append, List.append_nil] using hnext
    | rightBrace =>
      have hclose := h.closeObject hs hmembers key t.toValue
      rw [hmap, tokens_object_append] at hclose
      rw [step_rightBrace_of_pair hs hkey hvalue]
      refine .consumed ?_ hread
      simpa only [List.append_assoc, List.cons_append, List.nil_append] using hclose
    | _ => exact .refused rfl hread

/-- **A token behind a beginning** leads to the longer one, or raises an exception. -/
theorem Consumed.step (h : Consumed tokens s) (token : JsonToken) :
    Taken tokens s token (s.step (some token)) := by
  cases h with
  | init =>
    refine Consumed.init.step_expecting .init fun htoken => ?_
    simp only [closingTokens, List.mem_cons, List.not_mem_nil, or_false] at htoken
    rcases htoken with rfl | rfl | rfl | rfl <;> exact .refused rfl (by simp [Misplaced])
  | @arrayStart before s hs h =>
    refine (Consumed.arrayStart hs h).step_expecting (hs.openedArray []).1 fun htoken => ?_
    simp only [closingTokens, List.mem_cons, List.not_mem_nil, or_false] at htoken
    rcases htoken with rfl | rfl | rfl | rfl
    · have hclose : Consumed (before ++ (JsonTree.array []).tokens) (s.deliver (.array [])) :=
        h.closeArray hs (List.forall_mem_nil _)
      rw [JsonTree.tokens] at hclose
      have hrun : (s.opened .newArray .inArrayStart).step (some .rightSquareBracket) =
        (.ok (), s.deliver (.array [])) := hs.run_close
      rw [hrun]
      refine .consumed ?_ (by simp [Misplaced, opened])
      rw [List.append_assoc]
      exact hclose
    all_goals exact .refused rfl (by simp [Misplaced, opened])
  | @arrayValue before s hs h t ts hts =>
    have hplace : ¬ Misplaced (s.opened (.array (elementValues (t :: ts))) .inArrayValue) token := by
      simp [Misplaced, opened]
    cases token with
    | comma =>
      have hnext := Consumed.arrayDelimiter hs h t ts hts
      rw [← List.cons_append, ← List.append_assoc] at hnext
      exact .consumed hnext hplace
    | rightSquareBracket =>
      have hclose := h.closeArray hs hts
      rw [JsonTree.tokens_array_cons, ← List.cons_append, ← List.append_assoc] at hclose
      have hrun : (s.opened (.array (elementValues (t :: ts))) .inArrayValue).step
        (some .rightSquareBracket) = (.ok (), s.deliver (.array (elementValues (t :: ts)))) := hs.run_close
      rw [hrun]
      exact .consumed hclose hplace
    | _ => exact .refused rfl hplace
  | @arrayDelimiter before s hs h t ts hts =>
    refine (Consumed.arrayDelimiter hs h t ts hts).step_expecting
      (hs.openedArray (elementValues (t :: ts))).2 fun htoken => ?_
    simp only [closingTokens, List.mem_cons, List.not_mem_nil, or_false] at htoken
    rcases htoken with rfl | rfl | rfl | rfl <;> exact .refused rfl (by simp [Misplaced, opened])
  | @objectStart before s hs h =>
    have hplace : ¬ Misplaced (s.opened .newObject .inObjectStart) token := by
      simp [Misplaced, opened]
    cases token with
    | string key =>
      have hnext := Consumed.objectKey hs h [] (List.forall_mem_nil _) key .nullPointer
      rw [← List.cons_append, ← List.append_assoc] at hnext
      exact .consumed hnext hplace
    | rightBrace =>
      have hclose := h.closeObject hs (List.forall_mem_nil _) [] .nullPointer
      rw [JsonTree.tokens] at hclose
      have hrun : (s.opened .newObject .inObjectStart).step (some .rightBrace) =
        (.ok (), s.deliver (.object [] [] .nullPointer)) := hs.run_close
      rw [hrun]
      refine .consumed ?_ hplace
      rw [List.append_assoc]
      exact hclose
    | _ => exact .refused rfl hplace
  | @objectKey before s hs h ms hms key value =>
    have hplace : ¬ Misplaced (s.opened (.object (memberValues [] ms) key value) .inObjectKey) token := by
      simp [Misplaced, opened]
    cases token with
    | colon =>
      have hnext := Consumed.objectColon hs h ms hms key value
      refine .consumed ?_ hplace
      simp only [List.append_assoc, List.cons_append, List.nil_append]
      exact hnext
    | _ => exact .refused rfl hplace
  | @objectColon before s hs h ms hms key value =>
    refine (Consumed.objectColon hs h ms hms key value).step_expecting
      (hs.openedObject (memberValues [] ms) key value) fun htoken => ?_
    have hplace : Misplaced (s.opened (.object (memberValues [] ms) key value) .inObjectColon) token :=
      .inl ⟨rfl, htoken⟩
    simp only [closingTokens, List.mem_cons, List.not_mem_nil, or_false] at htoken
    rcases htoken with rfl | rfl | rfl | rfl
    all_goals
      refine .misplaced (fun heq => ?_) hplace
      cases heq
  | @objectValue before s hs h ms hms key t ht => exact h.step_objectValue hs hms key ht
  | @objectDelimiter before s hs h ms hms =>
    have hplace : ¬ Misplaced (s.opened (.object (memberValues [] ms) [] .nullPointer)
        .inObjectDelimiter) token := by
      simp [Misplaced, opened]
    cases token with
    | string key =>
      have hnext := Consumed.objectKey hs h ms hms key .nullPointer
      refine .consumed ?_ hplace
      rw [List.append_assoc, List.cons_append]
      exact hnext
    | _ => exact .refused rfl hplace
  | @ended t ht container hvalue =>
    exact .refused rfl (by simp [Misplaced])

/-- **The end behind a beginning**: it is the whole value, or the parser goes to the error state. -/
theorem Consumed.step_none (h : Consumed tokens s) :
    (s.state = .ended ∧ s.step none = (.ok (), s)) ∨
      ∃ e t, s.step none = (.error e, t) ∧ t.state = .error := by
  cases h with
  | ended => exact .inl ⟨rfl, rfl⟩
  | _ => exact .inr ⟨_, _, rfl, rfl⟩

/-- At the end there is one value on the stack. -/
theorem Consumed.of_ended (h : Consumed tokens s) (hstate : s.state = .ended) :
    ∃ (t : JsonTree) (container : JsonValueContainer), tokens = t.tokens ∧ t.Readable ∧
      container.jsonValue = t.toValue ∧ s = ⟨.ended, [container], []⟩ := by
  cases h with
  | @ended t ht container hvalue => exact ⟨t, container, rfl, ht, hvalue, rfl⟩
  | _ => cases hstate

end Step

end ParserStacks

end OpenKit
