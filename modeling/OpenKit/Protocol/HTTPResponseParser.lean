import OpenKit.Protocol.HttpHeaders
import OpenKit.Protocol.StringUtil

/-!
# Parsing responses

A response arrives line by line, and its body in pieces behind the head. A line with a colon is taken for a
header, any other one for a status line, and a status line resets the parser. So only the last one of several
responses counts, unless there is a colon in the reason phrase of its status line: then this line is one more
header of what came before.

## Main definitions

* `HTTPResponseParser`: the parser, with what it does on a line and on a piece of the body
* `StatusLine`, `HeaderField`, `ReceivedResponse`: what a server sends
* `HTTPResponseParser.Gives`: the parser has exactly what a response says

## Main results

* `HTTPResponseParser.run_gives_last_iff`: the responses after which the parser has the last one
* `HTTPResponseParser.run_responseStatus_of_forall_mem`: without a status line that is taken for one there is no
  status
-/

namespace OpenKit

open UTF8String

structure HTTPResponseParser where
  responseStatus : ℤ
  reasonPhrase : List UInt8
  responseHeaders : HttpHeaderCollection
  responseBody : List UInt8

namespace HTTPResponseParser

open JsonLexer

def initialResponseStatus : ℤ := -1

def new : HTTPResponseParser := ⟨initialResponseStatus, [], .new, []⟩

/-- What is behind the first colon is the value of the header in front of it. -/
def headerLine (p : HTTPResponseParser) (line : List UInt8) : HTTPResponseParser :=
  let headerName := line.takeWhile (· ≠ 0x3A)
  if headerName = [] then p
  else
    let headerValue := ((line.dropWhile (· ≠ 0x3A)).drop 1).dropWhile isspace
    { p with responseHeaders := p.responseHeaders.appendHeader headerName headerValue }

def reset (_ : HTTPResponseParser) : HTTPResponseParser := new

/-- The three digits stand behind the first whitespace, and in front of the next one. -/
def statusLine (p : HTTPResponseParser) (line : List UInt8) : HTTPResponseParser :=
  match (line.dropWhile fun chr => !isspace chr).dropWhile isspace with
  | d :: d' :: d'' :: reasonPhrase =>
    if isDigit d && isDigit d' && isDigit d'' && reasonPhrase.head?.all isspace then
      { p.reset with
        responseStatus :=
          ((d.toNat : ℤ) - 0x30) * 100 + ((d'.toNat : ℤ) - 0x30) * 10 + ((d''.toNat : ℤ) - 0x30)
        reasonPhrase := reasonPhrase.dropWhile isspace }
    else p
  | _ => p

/-- The number of bytes that are consumed, which are all of them, and the parser after them. -/
def responseHeaderData (p : HTTPResponseParser) (buffer : List UInt8) : ℕ × HTTPResponseParser :=
  let line := StringUtil.trim buffer
  (buffer.length,
    if line = [] then p
    else if 0x3A ∈ line then p.headerLine line
    else p.statusLine line)

def responseBodyData (p : HTTPResponseParser) (buffer : List UInt8) : ℕ × HTTPResponseParser :=
  (buffer.length, { p with responseBody := p.responseBody ++ buffer })

end HTTPResponseParser

/-- The calls for what is received. -/
inductive ResponseCallback
  | headerData (buffer : List UInt8)
  | bodyData (buffer : List UInt8)
deriving DecidableEq, Repr

namespace HTTPResponseParser

def apply (p : HTTPResponseParser) : ResponseCallback → HTTPResponseParser
  | .headerData buffer => (p.responseHeaderData buffer).2
  | .bodyData buffer => (p.responseBodyData buffer).2

/-- The parser after some calls. -/
def run (callbacks : List ResponseCallback) : HTTPResponseParser := callbacks.foldl apply new

end HTTPResponseParser

/-! ## What a server sends -/

/-- The end of a line. -/
def crlf : List UInt8 := [0x0D, 0x0A]

/-- A blank or a tabulator. -/
def IsBlank (b : UInt8) : Prop := b = 0x20 ∨ b = 0x09

instance (b : UInt8) : Decidable (IsBlank b) := inferInstanceAs (Decidable (b = 0x20 ∨ b = 0x09))

/-- A blank, a tabulator, or a visible character, which may be beyond ASCII. -/
def IsTextCharacter (b : UInt8) : Prop := b = 0x09 ∨ (0x20 ≤ b ∧ b ≠ 0x7F)

instance (b : UInt8) : Decidable (IsTextCharacter b) :=
  inferInstanceAs (Decidable (b = 0x09 ∨ (0x20 ≤ b ∧ b ≠ 0x7F)))

/-- A character of a name: a letter, a digit, or one of `!#$%&'*+-.^_` and the accent, the bar and the
tilde. -/
def IsTokenCharacter (b : UInt8) : Prop :=
  (0x41 ≤ b ∧ b ≤ 0x5A) ∨ (0x61 ≤ b ∧ b ≤ 0x7A) ∨ JsonLexer.isDigit b = true ∨
    b ∈ [0x21, 0x23, 0x24, 0x25, 0x26, 0x27, 0x2A, 0x2B, 0x2D, 0x2E, 0x5E, 0x5F, 0x60, 0x7C, 0x7E]

instance (b : UInt8) : Decidable (IsTokenCharacter b) := by
  unfold IsTokenCharacter
  infer_instance

/-- A text with blanks around it. The blanks are no part of the text. -/
structure PaddedText where
  front : List UInt8
  text : List UInt8
  back : List UInt8
  blank_front : ∀ b ∈ front, IsBlank b
  blank_back : ∀ b ∈ back, IsBlank b
  isText : ∀ b ∈ text, IsTextCharacter b
  leftTrim_text : StringUtil.leftTrim text = text
  rightTrim_text : StringUtil.rightTrim text = text

def PaddedText.bytes (t : PaddedText) : List UInt8 := t.front ++ t.text ++ t.back

def httpName : List UInt8 := (ofAscii ['H', 'T', 'T', 'P', '/']).data

/-- The version of the protocol: one digit, or two around a point. -/
inductive IsHttpVersion : List UInt8 → Prop
  | major {d : UInt8} (hd : JsonLexer.isDigit d = true) : IsHttpVersion (httpName ++ [d])
  | minor {d d' : UInt8} (hd : JsonLexer.isDigit d = true) (hd' : JsonLexer.isDigit d' = true) :
    IsHttpVersion (httpName ++ [d, 0x2E, d'])

/-- The first line of a response. The reason phrase may be missing. -/
structure StatusLine where
  version : List UInt8
  code : List UInt8
  reason : PaddedText
  isVersion : IsHttpVersion version
  isDigits : IsDigits code
  length_code : code.length = 3
  separated : reason.text ≠ [] → reason.front ≠ []

def StatusLine.line (s : StatusLine) : List UInt8 :=
  s.version ++ 0x20 :: s.code ++ s.reason.bytes ++ crlf

/-- A line `name: value`. -/
structure HeaderField where
  name : List UInt8
  value : PaddedText
  name_ne_nil : name ≠ []
  isToken : ∀ b ∈ name, IsTokenCharacter b

def HeaderField.line (f : HeaderField) : List UInt8 := f.name ++ 0x3A :: f.value.bytes ++ crlf

def HeaderField.operation (f : HeaderField) : HeaderOperation := .appendHeader f.name f.value.text

/-- A response: its head, and the pieces of its body. -/
structure ReceivedResponse where
  statusLine : StatusLine
  headerFields : List HeaderField
  body : List (List UInt8)

/-- The calls for a response. The head ends with an empty line. -/
def ReceivedResponse.callbacks (r : ReceivedResponse) : List ResponseCallback :=
  .headerData r.statusLine.line :: r.headerFields.map (fun f => .headerData f.line) ++
    .headerData crlf :: r.body.map .bodyData

/-! ## Lines without the whitespace around them -/

section Lines

variable {front text rest : List UInt8}

theorem isspace_of_isBlank {b : UInt8} (h : IsBlank b) : isspace b = true := by
  rcases h with rfl | rfl
  · rfl
  · rfl

theorem rightTrim_append_of_isspace (hrest : ∀ b ∈ rest, isspace b = true) :
    StringUtil.rightTrim (text ++ rest) = StringUtil.rightTrim text := by
  induction rest using List.reverseRecOn with
  | nil => rw [List.append_nil]
  | append_singleton rest b ih =>
    rw [← List.append_assoc]
    have hb : isspace b = true := hrest b (List.mem_append_right _ List.mem_cons_self)
    have hstep := List.rdropWhile_concat_pos isspace (text ++ rest) b hb
    exact hstep.trans (ih fun b' hb' => hrest b' (List.mem_append_left _ hb'))

theorem rightTrim_append_of_ne_nil (hne : text ≠ []) (h : StringUtil.rightTrim text = text) :
    StringUtil.rightTrim (front ++ text) = front ++ text := by
  refine List.rdropWhile_eq_self_iff.mpr fun hnil => ?_
  rw [List.getLast_append_of_ne_nil _ hne]
  exact List.rdropWhile_eq_self_iff.mp h hne

theorem rightTrim_concat {b : UInt8} (hb : isspace b = false) :
    StringUtil.rightTrim (front ++ [b]) = front ++ [b] :=
  List.rdropWhile_concat_neg _ _ _ (by rw [hb]; exact Bool.false_ne_true)

theorem leftTrim_cons {b : UInt8} (hb : isspace b = false) :
    StringUtil.leftTrim (b :: text) = b :: text :=
  List.dropWhile_cons_of_neg (by rw [hb]; exact Bool.false_ne_true)

end Lines

namespace PaddedText

variable (t : PaddedText)

/-- What is left of a text at the end of a line. -/
def trimmed : List UInt8 := if t.text = [] then [] else t.front ++ t.text

/-- **A line is trimmed** up to the text at its end. -/
theorem trim_line {b : UInt8} {start : List UInt8} (hb : isspace b = false)
    (hstart : StringUtil.rightTrim (b :: start) = b :: start) :
    StringUtil.trim (b :: start ++ t.bytes ++ crlf) = b :: start ++ t.trimmed := by
  have hcrlf : ∀ b ∈ t.back ++ crlf, isspace b = true :=
    List.forall_mem_append.mpr ⟨fun b hb => isspace_of_isBlank (t.blank_back b hb), by decide +kernel⟩
  rw [StringUtil.trim, List.cons_append, List.cons_append, leftTrim_cons hb, bytes, trimmed,
    ← List.cons_append, ← List.cons_append, ← List.append_assoc, List.append_assoc,
    rightTrim_append_of_isspace hcrlf]
  by_cases hnil : t.text = []
  · rw [if_pos hnil, hnil, List.append_nil, List.append_nil, ← hstart]
    exact (rightTrim_append_of_isspace fun b hb => isspace_of_isBlank (t.blank_front b hb)).trans
      (congrArg StringUtil.rightTrim hstart)
  · rw [if_neg hnil, ← List.append_assoc]
    exact rightTrim_append_of_ne_nil hnil t.rightTrim_text

/-- The blanks in front of the text are skipped. -/
theorem dropWhile_trimmed : t.trimmed.dropWhile isspace = t.text := by
  rw [trimmed]
  split
  next hnil => exact hnil.symm
  next =>
    rw [List.dropWhile_append_of_pos fun b hb => isspace_of_isBlank (t.blank_front b hb)]
    exact t.leftTrim_text

theorem colon_mem_trimmed_iff : 0x3A ∈ t.trimmed ↔ 0x3A ∈ t.text := by
  rw [trimmed]
  split
  next hnil => rw [hnil]
  next =>
    rw [List.mem_append, or_iff_right]
    intro hfront
    exact absurd (t.blank_front _ hfront) (by decide)

end PaddedText

/-! ## What a line does -/

section Characters

variable {b : UInt8}

theorem isDigit_spec (h : JsonLexer.isDigit b = true) :
    isspace b = false ∧ b ≠ 0x3A ∧ 0x30 ≤ b.toNat := by
  have hall : ∀ b : UInt8, JsonLexer.isDigit b = true → isspace b = false ∧ b ≠ 0x3A ∧ 0x30 ≤ b.toNat :=
    forall_byte (by decide +kernel)
  exact hall b h

theorem isTokenCharacter_spec (h : IsTokenCharacter b) :
    isspace b = false ∧ b ≠ 0x3A ∧ tolower b ≠ 0x2F := by
  have hall : ∀ b : UInt8, IsTokenCharacter b → isspace b = false ∧ b ≠ 0x3A ∧ tolower b ≠ 0x2F :=
    forall_byte (by decide +kernel)
  exact hall b h

end Characters

/-- A version has neither whitespace nor a colon, but a slash. -/
theorem IsHttpVersion.spec {version : List UInt8} (h : IsHttpVersion version) :
    (∃ rest, version = 0x48 :: rest) ∧ (∀ b ∈ version, isspace b = false ∧ b ≠ 0x3A) ∧
      0x2F ∈ version := by
  have hname : ∀ b ∈ httpName, isspace b = false ∧ b ≠ 0x3A := by decide +kernel
  cases h with
  | @major d hd =>
    refine ⟨⟨_, rfl⟩, List.forall_mem_append.mpr ⟨hname, ?_⟩, by simp [httpName, ofAscii]⟩
    intro b hb
    obtain rfl := List.mem_singleton.mp hb
    exact ⟨(isDigit_spec hd).1, (isDigit_spec hd).2.1⟩
  | @minor d d' hd hd' =>
    refine ⟨⟨_, rfl⟩, List.forall_mem_append.mpr ⟨hname, ?_⟩, by simp [httpName, ofAscii]⟩
    refine List.forall_mem_cons.mpr ⟨⟨(isDigit_spec hd).1, (isDigit_spec hd).2.1⟩, ?_⟩
    refine List.forall_mem_cons.mpr ⟨by decide, ?_⟩
    intro b hb
    obtain rfl := List.mem_singleton.mp hb
    exact ⟨(isDigit_spec hd').1, (isDigit_spec hd').2.1⟩

namespace StatusLine

variable (s : StatusLine)

/-- The three digits. -/
theorem exists_code : ∃ d d' d'', s.code = [d, d', d''] ∧ JsonLexer.isDigit d = true ∧
    JsonLexer.isDigit d' = true ∧ JsonLexer.isDigit d'' = true := by
  obtain ⟨-, hall⟩ := s.isDigits
  obtain ⟨d, d', d'', hcode⟩ := List.length_eq_three.mp s.length_code
  rw [hcode] at hall
  exact ⟨d, d', d'', hcode, hall d (by simp), hall d' (by simp), hall d'' (by simp)⟩

theorem trim_line :
    StringUtil.trim s.line = s.version ++ 0x20 :: s.code ++ s.reason.trimmed := by
  obtain ⟨rest, hversion⟩ := s.isVersion.spec.1
  obtain ⟨d, d', d'', hcode, -, -, hd''⟩ := s.exists_code
  have hstart : StringUtil.rightTrim (0x48 :: (rest ++ 0x20 :: s.code)) =
      0x48 :: (rest ++ 0x20 :: s.code) := by
    have hlast := @rightTrim_concat (0x48 :: (rest ++ [0x20, d, d'])) d'' (isDigit_spec hd'').1
    simpa [hcode] using hlast
  have htrim := s.reason.trim_line (b := 0x48) (by decide) hstart
  rw [← List.cons_append, ← hversion] at htrim
  exact htrim

theorem colon_mem_iff :
    0x3A ∈ s.version ++ 0x20 :: s.code ++ s.reason.trimmed ↔ 0x3A ∈ s.reason.text := by
  have hversion : (0x3A : UInt8) ∉ s.version := fun h => (s.isVersion.spec.2.1 _ h).2 rfl
  have hcode : (0x3A : UInt8) ∉ s.code := fun h => (isDigit_spec (s.isDigits.2 _ h)).2.1 rfl
  rw [List.mem_append, s.reason.colon_mem_trimmed_iff, or_iff_right]
  intro h
  rcases List.mem_append.mp h with h | h
  · exact hversion h
  · exact hcode ((List.mem_cons.mp h).resolve_left (by decide))

/-- What is behind the version. -/
theorem dropWhile_line :
    ((s.version ++ 0x20 :: s.code ++ s.reason.trimmed).dropWhile fun chr => !isspace chr).dropWhile
      isspace = s.code ++ s.reason.trimmed := by
  obtain ⟨d, d', d'', hcode, hd, -, -⟩ := s.exists_code
  have hversion : ∀ b ∈ s.version, (!isspace b) = true := by
    intro b hb
    rw [(s.isVersion.spec.2.1 b hb).1]
    rfl
  rw [List.append_assoc, List.dropWhile_append_of_pos hversion, hcode]
  have hdigit : ¬isspace d = true := by
    rw [(isDigit_spec hd).1]
    exact Bool.false_ne_true
  have hspace : (0x20 :: [d, d', d''] ++ s.reason.trimmed).dropWhile (fun chr => !isspace chr) =
      0x20 :: ([d, d', d''] ++ s.reason.trimmed) := rfl
  rw [hspace, List.dropWhile_cons_of_pos (by decide)]
  exact List.dropWhile_cons_of_neg hdigit

/-- A reason phrase is separated from the digits. -/
theorem all_isspace_head?_trimmed : s.reason.trimmed.head?.all isspace = true := by
  rw [PaddedText.trimmed]
  split
  next => rfl
  next hne =>
    obtain ⟨b, front, hfront⟩ := List.exists_cons_of_ne_nil (s.separated hne)
    rw [hfront]
    exact isspace_of_isBlank (s.reason.blank_front b (by rw [hfront]; exact List.mem_cons_self))

end StatusLine

namespace HTTPResponseParser

open JsonNumberValue

variable (p : HTTPResponseParser)

/-- **A status line** resets the parser. -/
theorem responseHeaderData_statusLine {s : StatusLine} (h : 0x3A ∉ s.reason.text) :
    (p.responseHeaderData s.line).2 = ⟨digitsValue s.code, s.reason.text, .new, []⟩ := by
  obtain ⟨d, d', d'', hcode, hd, hd', hd''⟩ := s.exists_code
  have hne : s.version ++ 0x20 :: s.code ++ s.reason.trimmed ≠ [] := by simp
  have hvalue : ((d.toNat : ℤ) - 0x30) * 100 + ((d'.toNat : ℤ) - 0x30) * 10 + ((d''.toNat : ℤ) - 0x30) =
      digitsValue [d, d', d''] := by
    have hlow := (isDigit_spec hd).2.2
    have hlow' := (isDigit_spec hd').2.2
    have hlow'' := (isDigit_spec hd'').2.2
    simp only [digitsValue, List.foldl_cons, List.foldl_nil]
    omega
  rw [responseHeaderData]
  dsimp only
  rw [s.trim_line, if_neg hne, if_neg (mt s.colon_mem_iff.mp h), statusLine, s.dropWhile_line, hcode]
  dsimp only [List.cons_append, List.nil_append]
  rw [hd, hd', hd'', s.all_isspace_head?_trimmed, s.reason.dropWhile_trimmed, hvalue]
  rfl

/-- **With a colon** in the reason phrase, it is a header with a slash in its name. -/
theorem responseHeaderData_statusLine_of_colon {s : StatusLine} (h : 0x3A ∈ s.reason.text) :
    ∃ name value, 0x2F ∈ name ∧ (p.responseHeaderData s.line).2 =
      { p with responseHeaders := p.responseHeaders.appendHeader name value } := by
  have hne : s.version ++ 0x20 :: s.code ++ s.reason.trimmed ≠ [] := by simp
  have hversion : ∀ b ∈ s.version, decide (b ≠ 0x3A) = true := fun b hb =>
    decide_eq_true (s.isVersion.spec.2.1 b hb).2
  have hslash : 0x2F ∈ (s.version ++ 0x20 :: s.code ++ s.reason.trimmed).takeWhile (· ≠ 0x3A) := by
    rw [List.append_assoc, List.takeWhile_append_of_pos hversion]
    exact List.mem_append_left _ s.isVersion.spec.2.2
  have hline : (p.responseHeaderData s.line).2 =
      p.headerLine (s.version ++ 0x20 :: s.code ++ s.reason.trimmed) := by
    rw [responseHeaderData]
    dsimp only
    rw [s.trim_line, if_neg hne, if_pos (s.colon_mem_iff.mpr h)]
  rw [hline, headerLine]
  exact ⟨_, _, hslash, if_neg (List.ne_nil_of_mem hslash)⟩

/-- **A header line** adds its value. -/
theorem responseHeaderData_headerField (f : HeaderField) :
    (p.responseHeaderData f.line).2 =
      { p with responseHeaders := p.responseHeaders.appendHeader f.name f.value.text } := by
  obtain ⟨b, name, hname⟩ := List.exists_cons_of_ne_nil f.name_ne_nil
  have htrim : StringUtil.trim f.line = f.name ++ 0x3A :: f.value.trimmed := by
    have hb : isspace b = false :=
      (isTokenCharacter_spec (f.isToken b (by rw [hname]; exact List.mem_cons_self))).1
    have hstart : StringUtil.rightTrim (b :: (name ++ [0x3A])) = b :: (name ++ [0x3A]) :=
      @rightTrim_concat (b :: name) 0x3A rfl
    have hline := f.value.trim_line hb hstart
    rw [HeaderField.line, hname]
    simpa using hline
  have hcolon : ∀ b ∈ f.name, decide (b ≠ 0x3A) = true := fun b hb =>
    decide_eq_true (isTokenCharacter_spec (f.isToken b hb)).2.1
  have htake : (f.name ++ 0x3A :: f.value.trimmed).takeWhile (· ≠ 0x3A) = f.name := by
    rw [List.takeWhile_append_of_pos hcolon]
    exact List.append_nil _
  have hdrop : (f.name ++ 0x3A :: f.value.trimmed).dropWhile (· ≠ 0x3A) = 0x3A :: f.value.trimmed := by
    rw [List.dropWhile_append_of_pos hcolon]
    rfl
  have hne : f.name ++ 0x3A :: f.value.trimmed ≠ [] := by simp
  have hmem : 0x3A ∈ f.name ++ 0x3A :: f.value.trimmed := by simp
  rw [responseHeaderData]
  dsimp only
  rw [htrim, if_neg hne, if_pos hmem, headerLine, htake, hdrop, List.drop_succ_cons, List.drop_zero,
    f.value.dropWhile_trimmed]
  exact if_neg f.name_ne_nil

/-! ## Runs of the parser -/

/-- The parser has exactly what a response says. -/
structure Gives (p : HTTPResponseParser) (r : ReceivedResponse) : Prop where
  responseStatus : p.responseStatus = digitsValue r.statusLine.code
  reasonPhrase : p.reasonPhrase = r.statusLine.reason.text
  responseHeaders :
    p.responseHeaders.values = HeaderValues.run (r.headerFields.map HeaderField.operation)
  responseBody : p.responseBody = r.body.flatten

theorem foldl_headerFields (fields : List HeaderField) :
    (fields.map fun f => ResponseCallback.headerData f.line).foldl apply p =
      { p with responseHeaders :=
        (fields.map HeaderField.operation).foldl HttpHeaderCollection.apply p.responseHeaders } := by
  induction fields generalizing p with
  | nil => rfl
  | cons f fields ih =>
    rw [List.map_cons, List.foldl_cons, ih, apply, p.responseHeaderData_headerField f]
    rfl

theorem foldl_body (body : List (List UInt8)) :
    (body.map ResponseCallback.bodyData).foldl apply p =
      { p with responseBody := p.responseBody ++ body.flatten } := by
  induction body generalizing p with
  | nil => rw [List.flatten_nil, List.append_nil, List.map_nil, List.foldl_nil]
  | cons buffer body ih =>
    rw [List.map_cons, List.foldl_cons, ih, List.flatten_cons, ← List.append_assoc]
    rfl

/-- The headers and the body of a response are added. -/
def addBehindStatusLine (r : ReceivedResponse) : HTTPResponseParser :=
  { p with
    responseHeaders :=
      (r.headerFields.map HeaderField.operation).foldl HttpHeaderCollection.apply p.responseHeaders
    responseBody := p.responseBody ++ r.body.flatten }

/-- **A response** adds its headers and its body to what the status line left. -/
theorem foldl_callbacks (r : ReceivedResponse) :
    r.callbacks.foldl apply p =
      (p.responseHeaderData r.statusLine.line).2.addBehindStatusLine r := by
  rw [ReceivedResponse.callbacks, List.foldl_append, List.foldl_cons, List.foldl_cons,
    foldl_headerFields, foldl_body]
  rfl

/-- After a status line that is recognised, the parser has its response. -/
theorem gives_of_not_mem {r : ReceivedResponse} (h : 0x3A ∉ r.statusLine.reason.text) :
    (r.callbacks.foldl apply p).Gives r := by
  rw [foldl_callbacks, p.responseHeaderData_statusLine h]
  exact ⟨rfl, rfl, HttpHeaderCollection.values_run _, List.nil_append _⟩

section Values

variable {values : HeaderValues} {fields : List HeaderField} {name : List UInt8}

/-- No header line has a slash in its name. -/
theorem foldl_operations_eq (h : 0x2F ∈ name) :
    (fields.map HeaderField.operation).foldl HeaderValues.apply values name = values name := by
  induction fields generalizing values with
  | nil => rfl
  | cons f fields ih =>
    have hne : name ≠ lowerCase f.name := by
      rintro rfl
      obtain ⟨b, hb, heq⟩ := List.mem_map.mp h
      exact (isTokenCharacter_spec (f.isToken b hb)).2.2 heq
    rw [List.map_cons, List.foldl_cons, ih, HeaderField.operation, HeaderValues.apply,
      Function.update_of_ne hne]

end Values

/-- A status line that is not recognised is a header that its response does not have. -/
theorem not_gives_of_mem {r : ReceivedResponse} (h : 0x3A ∈ r.statusLine.reason.text) :
    ¬ (r.callbacks.foldl apply p).Gives r := by
  intro hgives
  obtain ⟨name, value, hslash, hline⟩ := p.responseHeaderData_statusLine_of_colon h
  have hheaders := hgives.responseHeaders
  rw [foldl_callbacks, hline, addBehindStatusLine] at hheaders
  dsimp only at hheaders
  rw [HttpHeaderCollection.values_foldl, HttpHeaderCollection.values_appendHeader] at hheaders
  have hlower : 0x2F ∈ lowerCase name := List.mem_map.mpr ⟨0x2F, hslash, rfl⟩
  have hat := congrFun hheaders (lowerCase name)
  rw [foldl_operations_eq hlower, HeaderValues.run, foldl_operations_eq hlower, Function.update_self] at hat
  cases hat

/-- **Only the last response counts** exactly if there is no colon in its reason phrase. -/
theorem run_gives_last_iff (earlier : List ReceivedResponse) (last : ReceivedResponse) :
    (run ((earlier ++ [last]).flatMap ReceivedResponse.callbacks)).Gives last ↔
      0x3A ∉ last.statusLine.reason.text := by
  rw [run, List.flatMap_append, List.flatMap_singleton, List.foldl_append]
  constructor
  · intro hgives h
    exact not_gives_of_mem _ h hgives
  · exact gives_of_not_mem _

/-- **Without a recognised status line**, the response status is the initial one, which is no error. -/
theorem run_responseStatus_of_forall_mem {responses : List ReceivedResponse}
    (h : ∀ r ∈ responses, 0x3A ∈ r.statusLine.reason.text) :
    (run (responses.flatMap ReceivedResponse.callbacks)).responseStatus = initialResponseStatus := by
  have hfrom (p : HTTPResponseParser) :
      ((responses.flatMap ReceivedResponse.callbacks).foldl apply p).responseStatus =
        p.responseStatus := by
    induction responses generalizing p with
    | nil => rfl
    | cons r responses ih =>
      obtain ⟨hr, hresponses⟩ := List.forall_mem_cons.mp h
      obtain ⟨name, value, -, hline⟩ := p.responseHeaderData_statusLine_of_colon hr
      rw [List.flatMap_cons, List.foldl_append, ih hresponses, foldl_callbacks, hline]
      rfl
  exact hfrom new

/-- `HTTP/1.1 500 Error: a` -/
def colonInReasonPhrase : ReceivedResponse where
  statusLine :=
    { version := httpName ++ [0x31, 0x2E, 0x31]
      code := [0x35, 0x30, 0x30]
      reason :=
        { front := [0x20]
          text := (ofAscii ['E', 'r', 'r', 'o', 'r', ':', ' ', 'a']).data
          back := []
          blank_front := by decide +kernel
          blank_back := by decide +kernel
          isText := by decide +kernel
          leftTrim_text := by decide
          rightTrim_text := by decide }
      isVersion := .minor rfl rfl
      isDigits := ⟨List.cons_ne_nil _ _, by decide +kernel⟩
      length_code := rfl
      separated := fun _ => by decide }
  headerFields := []
  body := []

/-- **An internal error** with a colon in its reason phrase is missed. -/
theorem not_gives_colonInReasonPhrase :
    ¬ (run (([] ++ [colonInReasonPhrase]).flatMap ReceivedResponse.callbacks)).Gives
      colonInReasonPhrase := by
  rw [run_gives_last_iff, not_not]
  decide

end HTTPResponseParser

end OpenKit
