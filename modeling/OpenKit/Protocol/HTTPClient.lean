import OpenKit.Communication.WholePayload
import OpenKit.Library.LastWrite
import OpenKit.Protocol.HTTPResponseParser
import OpenKit.Protocol.RequestUrls
import OpenKit.Protocol.ResponseParser

/-!
# The HTTP client

A request is handed to the transport up to three times, until a transfer succeeds. Everything that belongs to
it is set up anew for each attempt: the headers, first those of the application and then those of the client, the
parser of the response, and the compressed payload, which the transport reads piece by piece.

## Main definitions

* `HttpRequest`: the headers of a request, with those that nobody may set
* `HTTPEnvironment`: the transport, the interceptor of the application and the compression
* `HTTPClient.sendRequestInternal`: an exchange, with its attempts
* `HTTPClient.Exchanged`: what is expected of an exchange

## Main results

* `sendRequestInternal_exchanged`: the attempts of every exchange, and its result
* `headers_of_mem_attempts`: the headers of every attempt
* `sendRequests_new`: the three requests of a new client, as exchanges
-/

namespace OpenKit

open UTF8String

/-! ## Requests -/

/-- A request, as an interceptor gets it. -/
structure HttpRequest where
  uri : List UInt8
  method : List UInt8
  headers : HttpHeaderCollection

namespace HttpRequest

def new (uri method : List UInt8) : HttpRequest := ⟨uri, method, .new⟩

/-- `RESTRICTED_HEADERS`. -/
def restrictedHeaders : List (List UInt8) :=
  ["Access-Control-Request-Headers", "Access-Control-Request-Method", "Connection", "Content-Length",
    "Content-Transfer-Encoding", "Host", "Keep-Alive", "Origin", "Trailer", "Transfer-Encoding", "Upgrade",
    "Via"].map fun name => (ofAscii name.toList).data

def isHeaderRestricted (name : List UInt8) : Bool := restrictedHeaders.any (headerNames.same name)

/-- A restricted header is not set. -/
def setHeader (r : HttpRequest) (name value : List UInt8) : HttpRequest :=
  if isHeaderRestricted name then r else { r with headers := r.headers.setHeader name value }

/-- The request after some calls of `setHeader`. -/
def setHeaders (r : HttpRequest) (calls : List (List UInt8 × List UInt8)) : HttpRequest :=
  calls.foldl (fun r call => r.setHeader call.1 call.2) r

end HttpRequest

/-! ## The transport -/

/-- What the transport is told of a request. -/
structure CurlOptions where
  url : List UInt8
  connectTimeout : ℕ
  timeout : ℕ
  isPost : Bool
  /-- The size of the payload, if there is one. -/
  postFieldSize : Option ℕ
  /-- The lines of the headers. -/
  httpHeader : List (List UInt8)
deriving DecidableEq, Repr

/-- What the transport does: the sizes that it reads of the payload, its calls for what is received, and the code
that it returns. -/
structure CurlTransfer where
  readSizes : List ℕ
  callbacks : List ResponseCallback
  code : ℤ
deriving DecidableEq, Repr

/-- What is outside of the client. The attempts of an exchange are counted from zero. -/
structure HTTPEnvironment where
  /-- Whether there is a handle for the exchange. -/
  easyInit : Bool
  /-- The calls of `setHeader` by the interceptor of the application. -/
  intercept : ℕ → HttpRequest → List (List UInt8 × List UInt8)
  /-- Whether the line at a position can be appended to the list of the headers. -/
  canAppend : ℕ → ℕ → Bool
  /-- The compression of the payload. -/
  compressMemory : List UInt8 → List UInt8
  perform : ℕ → CurlOptions → CurlTransfer

inductive HttpMethod
  | get
  | post
deriving DecidableEq, Repr

/-- What `sendRequestInternal` is called with. -/
structure HTTPRequestParts where
  url : UTF8String
  clientIPAddress : UTF8String
  beaconData : UTF8String
  method : HttpMethod
deriving DecidableEq, Repr

/-- An attempt: what the transport was told, what it read and did, and the time slept after it. -/
structure HTTPAttempt where
  options : CurlOptions
  uploaded : List (List UInt8)
  transfer : CurlTransfer
  slept : ℕ
deriving DecidableEq, Repr

/-- A client, with the buffer that the payload is read from. -/
structure HTTPClient where
  monitorURL : UTF8String
  newSessionURL : UTF8String
  readBuffer : List UInt8
  readBufferPos : ℕ
deriving DecidableEq, Repr

/-- A payload is posted. -/
def HTTPRequestParts.hasPayload (parts : HTTPRequestParts) : Bool :=
  parts.method == .post && !parts.beaconData.isEmpty

/-- Whether an exception is caught. -/
def ResponseFault.isStdException : ResponseFault → Bool
  | parsingFault .outOfRounds => false
  | parsingFault (.readingFault .outOfRounds) => false
  | nullPointerDereferenced => false
  | walkFault _ => false
  | _ => true

namespace HTTPClient

open HttpRequest

/-- `MAX_SEND_RETRIES`. -/
def maxSendRetries : ℕ := 3

/-- `RETRY_SLEEP_TIME`. -/
def retrySleepTime : ℕ := 200

def connectTimeout : ℕ := 5

def readTimeout : ℕ := 30

def curleOk : ℤ := 0

def new (baseURL : UTF8String) (configuration : HTTPClientConfiguration) : HTTPClient where
  monitorURL := buildMonitorURL baseURL configuration.applicationID configuration.serverID
  newSessionURL := buildNewSessionURL baseURL configuration.applicationID configuration.serverID
  readBuffer := []
  readBufferPos := 0

def getHttpMethodAsString : HttpMethod → List UInt8
  | .get => (ofAscii ['G', 'E', 'T']).data
  | .post => (ofAscii ['P', 'O', 'S', 'T']).data

/-! ## The payload -/

/-- The callback that the transport reads the payload with. -/
def readFunction (c : HTTPClient) (size : ℕ) : List UInt8 × HTTPClient :=
  let available := c.readBuffer.length - c.readBufferPos
  if available > 0 then
    let written := min size available
    ((c.readBuffer.drop c.readBufferPos).take written,
      { c with readBufferPos := c.readBufferPos + written })
  else ([], c)

/-- What is read by some calls. -/
def readPayload (c : HTTPClient) : List ℕ → List (List UInt8) × HTTPClient
  | [] => ([], c)
  | size :: sizes =>
    let (piece, c) := c.readFunction size
    let (pieces, c) := c.readPayload sizes
    (piece :: pieces, c)

/-! ## An attempt -/

def clientIPHeader : List UInt8 := (ofAscii "X-Client-IP".toList).data

def userAgentHeader : List UInt8 := (ofAscii "User-Agent".toList).data

def contentEncodingHeader : List UInt8 := (ofAscii "Content-Encoding".toList).data

/-- The value of the `User-Agent` header. -/
def userAgent : List UInt8 := (ofAscii "OpenKit/".toList).data ++ openKitVersion.data

def gzip : List UInt8 := (ofAscii ['g', 'z', 'i', 'p']).data

/-- The line of a header. -/
def headerLine (header : List UInt8 × List UInt8) : List UInt8 :=
  header.1 ++ (ofAscii [':', ' ']).data ++ header.2

/-- The headers, of which only the first value is taken. -/
def headersOf (r : HttpRequest) : List (List UInt8 × List UInt8) :=
  r.headers.container.entries.map fun entry => (entry.1, entry.2.headD [])

/-- The list that the lines are appended to. It is freed when a line cannot be appended, and stays empty. -/
def headerList (canAppend : ℕ → Bool) (lines : List (List UInt8)) : List (List UInt8) :=
  if (List.range lines.length).all canAppend then lines else []

/-- The headers of the client, in the order in which they are set. -/
def ownHeaders (parts : HTTPRequestParts) : List (List UInt8 × List UInt8) :=
  (if !parts.clientIPAddress.isEmpty then [(clientIPHeader, parts.clientIPAddress.getStringData)] else []) ++
    [(userAgentHeader, userAgent)] ++
      if parts.hasPayload then [(contentEncodingHeader, gzip)] else []

variable (env : HTTPEnvironment) (parts : HTTPRequestParts)

def compressedPayload : List UInt8 := env.compressMemory (compressedData parts.beaconData)

/-- The request of an attempt, with the headers of the application and of the client. -/
def httpRequest (attempt : ℕ) : HttpRequest :=
  let httpRequest := HttpRequest.new parts.url.getStringData (getHttpMethodAsString parts.method)
  (httpRequest.setHeaders (env.intercept attempt httpRequest)).setHeaders (ownHeaders parts)

/-- What the transport is told at an attempt. -/
def curlOptions (attempt : ℕ) : CurlOptions where
  url := parts.url.getStringData
  connectTimeout := connectTimeout
  timeout := readTimeout
  isPost := parts.method == .post
  postFieldSize := if parts.hasPayload then some (compressedPayload env parts).length else none
  httpHeader := headerList (env.canAppend attempt)
    ((headersOf (httpRequest env parts attempt)).map headerLine)

/-- An attempt, and the client after it. The payload is compressed anew, and read from its start. -/
def performAttempt (attempt : ℕ) (c : HTTPClient) : HTTPAttempt × HTTPClient :=
  let c :=
    if parts.hasPayload then { c with readBuffer := compressedPayload env parts, readBufferPos := 0 } else c
  let options := curlOptions env parts attempt
  let transfer := env.perform attempt options
  let (uploaded, c) := if parts.hasPayload then c.readPayload transfer.readSizes else ([], c)
  (⟨options, uploaded, transfer, if transfer.code = curleOk then 0 else retrySleepTime⟩, c)

/-! ## An exchange -/

/-- `unknownErrorResponse`. -/
def unknownErrorResponse : StatusResponse := .createErrorResponse (2 ^ 31 - 1)

/-- The response of the server, or an error response in its place. -/
def handleResponse (parser : HTTPResponseParser) : Responding StatusResponse :=
  let retryAfterInMilliseconds :=
    StatusResponse.delayOfValues (parser.responseHeaders.values StatusResponse.responseKeyRetryAfter)
  if parser.responseStatus ≥ 400 then
    .ok ⟨.undefined, parser.responseStatus, retryAfterInMilliseconds⟩
  else
    match ResponseParser.parseResponse (validateString parser.responseBody) with
    | .ok responseAttributes => .ok ⟨responseAttributes, parser.responseStatus, retryAfterInMilliseconds⟩
    | .error fault =>
      if fault.isStdException then .ok unknownErrorResponse else .error fault

/-- What is left of an exchange: its result, the attempts, and the client. -/
structure Exchange where
  result : Responding StatusResponse
  attempts : List HTTPAttempt
  client : HTTPClient

/-- The loop, with the number of attempts that are left. -/
def sendLoop : ℕ → List HTTPAttempt → HTTPClient → Exchange
  | 0, attempts, c => ⟨.ok unknownErrorResponse, attempts, c⟩
  | left + 1, attempts, c =>
    let (attempt, c) := performAttempt env parts attempts.length c
    if attempt.transfer.code = curleOk then
      ⟨handleResponse (.run attempt.transfer.callbacks), attempts ++ [attempt], c⟩
    else sendLoop left (attempts ++ [attempt]) c

def sendRequestInternal (c : HTTPClient) : Exchange :=
  if env.easyInit then sendLoop env parts maxSendRetries [] c else ⟨.ok unknownErrorResponse, [], c⟩

variable (c : HTTPClient) (configurationTimestamp : ℤ)

def sendStatusRequest : Exchange :=
  c.sendRequestInternal env
    ⟨appendAdditionalQueryParameters c.monitorURL configurationTimestamp, .nil, .nil, .get⟩

def sendBeaconRequest (clientIPAddress beaconData : UTF8String) (sessionNumber deviceID : ℤ) : Exchange :=
  c.sendRequestInternal env
    ⟨appendSessionIdentifierParameter (appendAdditionalQueryParameters c.monitorURL configurationTimestamp)
      sessionNumber deviceID, clientIPAddress, beaconData, .post⟩

def sendNewSessionRequest : Exchange :=
  c.sendRequestInternal env
    ⟨appendAdditionalQueryParameters c.newSessionURL configurationTimestamp, .nil, .nil, .get⟩

/-- The URLs of the requests. -/
theorem sendRequests_new (baseURL clientIPAddress beaconData : UTF8String)
    (configuration : HTTPClientConfiguration) (sessionNumber deviceID : ℤ) :
    (new baseURL configuration).sendStatusRequest env configurationTimestamp =
        (new baseURL configuration).sendRequestInternal env
          ⟨requestURL baseURL configuration configurationTimestamp .status, .nil, .nil, .get⟩ ∧
      (new baseURL configuration).sendNewSessionRequest env configurationTimestamp =
        (new baseURL configuration).sendRequestInternal env
          ⟨requestURL baseURL configuration configurationTimestamp .newSession, .nil, .nil, .get⟩ ∧
      (new baseURL configuration).sendBeaconRequest env configurationTimestamp clientIPAddress beaconData
          sessionNumber deviceID =
        (new baseURL configuration).sendRequestInternal env
          ⟨requestURL baseURL configuration configurationTimestamp (.beacon sessionNumber deviceID),
            clientIPAddress, beaconData, .post⟩ :=
  ⟨rfl, rfl, rfl⟩

/-! ## What is read of the payload -/

variable {env parts c}

/-- **What is read** are the bytes in front, as many as there was room for. -/
theorem flatten_readPayload (h : c.readBufferPos ≤ c.readBuffer.length) (sizes : List ℕ) :
    (c.readPayload sizes).1.flatten = (c.readBuffer.drop c.readBufferPos).take sizes.sum := by
  induction sizes generalizing c with
  | nil => exact List.take_zero.symm
  | cons size sizes ih =>
    rw [readPayload, List.sum_cons]
    dsimp only
    rw [List.flatten_cons]
    by_cases havailable : c.readBuffer.length - c.readBufferPos > 0
    · have hread : c.readFunction size =
          ((c.readBuffer.drop c.readBufferPos).take (min size (c.readBuffer.length - c.readBufferPos)),
            { c with readBufferPos :=
                c.readBufferPos + min size (c.readBuffer.length - c.readBufferPos) }) :=
        if_pos havailable
      rw [hread, ih (by dsimp only; omega), List.take_add, ← List.drop_drop, ← List.length_drop]
      -- the piece ends where the buffer ends, or it is filled
      rcases le_total size (c.readBuffer.drop c.readBufferPos).length with hle | hle
      · rw [min_eq_left hle]
      · rw [min_eq_right hle, List.take_of_length_le hle, List.take_length,
          List.drop_of_length_le hle, List.drop_length]
    · have hread : c.readFunction size = ([], c) := if_neg havailable
      have hnone : c.readBuffer.drop c.readBufferPos = [] := List.drop_of_length_le (by omega)
      rw [hread, ih h, hnone, List.take_nil, List.take_nil, List.append_nil]

/-! ## The attempts -/

/-- What is known of an attempt. -/
structure IsAttempt (env : HTTPEnvironment) (parts : HTTPRequestParts) (attempt : ℕ) (a : HTTPAttempt) :
    Prop where
  options : a.options = curlOptions env parts attempt
  transfer : a.transfer = env.perform attempt a.options
  /-- The payload is read from its start. -/
  uploaded : a.uploaded.flatten =
    if parts.hasPayload then (compressedPayload env parts).take a.transfer.readSizes.sum else []
  slept : a.slept = if a.transfer.code = curleOk then 0 else retrySleepTime

theorem isAttempt_performAttempt (attempt : ℕ) (c : HTTPClient) :
    IsAttempt env parts attempt (performAttempt env parts attempt c).1 := by
  rw [performAttempt]
  by_cases hpayload : parts.hasPayload = true
  · rw [if_pos hpayload, if_pos hpayload]
    refine ⟨rfl, rfl, ?_, rfl⟩
    rw [if_pos hpayload]
    exact flatten_readPayload
      (c := { c with readBuffer := compressedPayload env parts, readBufferPos := 0 }) (Nat.zero_le _) _
  · rw [if_neg hpayload, if_neg hpayload]
    refine ⟨rfl, rfl, ?_, rfl⟩
    rw [if_neg hpayload]
    rfl

/-- **What is expected** of an exchange for which there is a handle. -/
structure Exchanged (env : HTTPEnvironment) (parts : HTTPRequestParts) (e : Exchange) : Prop where
  length_pos : 0 < e.attempts.length
  length_le : e.attempts.length ≤ maxSendRetries
  attempt : ∀ k a, e.attempts[k]? = some a → IsAttempt env parts k a
  /-- All attempts but the last one have failed. -/
  failed : ∀ a ∈ e.attempts.dropLast, a.transfer.code ≠ curleOk
  /-- The result is made of the last one. -/
  result : ∀ a ∈ e.attempts.getLast?,
    (a.transfer.code = curleOk ∧ e.result = handleResponse (.run a.transfer.callbacks)) ∨
      (a.transfer.code ≠ curleOk ∧ e.attempts.length = maxSendRetries ∧ e.result = .ok unknownErrorResponse)

/-- **The loop** adds attempts to those that have failed. -/
theorem exchanged_sendLoop {left : ℕ} {attempts : List HTTPAttempt}
    (hlength : attempts.length + left = maxSendRetries) (hpos : 0 < attempts.length + left)
    (hattempt : ∀ k a, attempts[k]? = some a → IsAttempt env parts k a)
    (hfailed : ∀ a ∈ attempts, a.transfer.code ≠ curleOk) (c : HTTPClient) :
    Exchanged env parts (sendLoop env parts left attempts c) := by
  induction left generalizing attempts c with
  | zero =>
    refine ⟨hpos, hlength.le, hattempt, fun a ha => hfailed a (List.dropLast_subset _ ha), ?_⟩
    intro a ha
    exact .inr ⟨hfailed a (List.mem_of_getLast? ha), hlength, rfl⟩
  | succ left ih =>
    rw [sendLoop]
    dsimp only
    have hnew : IsAttempt env parts attempts.length (performAttempt env parts attempts.length c).1 :=
      isAttempt_performAttempt _ c
    generalize performAttempt env parts attempts.length c = attempt at hnew
    have hattempt' : ∀ k a, (attempts ++ [attempt.1])[k]? = some a → IsAttempt env parts k a := by
      intro k a ha
      rcases lt_or_ge k attempts.length with hk | hk
      · exact hattempt k a (by rwa [List.getElem?_append_left hk] at ha)
      · rw [List.getElem?_append_right hk, List.getElem?_singleton] at ha
        split at ha
        next hzero =>
          rw [← Option.some.inj ha, Nat.le_antisymm (Nat.le_of_sub_eq_zero hzero) hk]
          exact hnew
        next => cases ha
    split
    next hok =>
      refine ⟨by simp, by rw [List.length_append, List.length_singleton]; omega, hattempt', ?_, ?_⟩
      · rw [List.dropLast_concat]
        exact hfailed
      · intro a ha
        rw [List.getLast?_concat, Option.mem_some] at ha
        rw [← ha]
        exact .inl ⟨hok, rfl⟩
    next hcode =>
      refine ih (by rw [List.length_append, List.length_singleton]; omega) ?_ hattempt' ?_ attempt.2
      · rw [List.length_append, List.length_singleton]
        omega
      · exact List.forall_mem_append.mpr ⟨hfailed, List.forall_mem_singleton.mpr hcode⟩

theorem exchanged_sendRequestInternal (hinit : env.easyInit = true) (c : HTTPClient) :
    Exchanged env parts (c.sendRequestInternal env parts) := by
  rw [sendRequestInternal, if_pos hinit]
  refine exchanged_sendLoop rfl (by decide) ?_ (List.forall_mem_nil _) c
  intro k a ha
  cases ha

/-- A transport that fails at first. The application asks for a restricted header, and for one that the client
sets too. -/
def failingFirst : HTTPEnvironment where
  easyInit := true
  intercept _ _ := [((ofAscii ['h', 'o', 's', 't']).data, gzip),
    ((ofAscii "user-agent".toList).data, gzip)]
  canAppend _ _ := true
  compressMemory data := data
  perform attempt _ := ⟨[2, 3], [], if attempt = 0 then 7 else curleOk⟩

/-- Whether a call sets the header of a name in lower case. -/
def setsHeader (call : List UInt8 × List UInt8) (name : List UInt8) : Bool :=
  !isHeaderRestricted call.1 && lowerCase call.1 == name

theorem mem_headersOf_setHeader (r : HttpRequest) {name : List UInt8} (value : List UInt8)
    (hname : isHeaderRestricted name = false) (header : List UInt8 × List UInt8) :
    header ∈ headersOf (r.setHeader name value) ↔
      header = (name, value) ∨ header ∈ headersOf r ∧ lowerCase header.1 ≠ lowerCase name := by
  have hset : (r.setHeader name value).headers.container =
      (r.headers.container.erase name).insert (name, [value]) := by
    rw [setHeader, hname]
    rfl
  unfold headersOf
  simp only [List.mem_map, hset]
  constructor
  · rintro ⟨entry, hentry, rfl⟩
    rcases (UnorderedMap.mem_insert_erase_iff headerNames_views).mp hentry with rfl | ⟨hentry, hne⟩
    · exact .inl rfl
    · exact .inr ⟨⟨entry, hentry, rfl⟩, hne⟩
  · rintro (rfl | ⟨⟨entry, hentry, rfl⟩, hne⟩)
    · exact ⟨(name, [value]), (UnorderedMap.mem_insert_erase_iff headerNames_views).mpr (.inl rfl), rfl⟩
    · exact ⟨entry, (UnorderedMap.mem_insert_erase_iff headerNames_views).mpr (.inr ⟨hentry, hne⟩), rfl⟩

/-- **The headers** after some calls are those of the last call for each name. -/
theorem mem_headersOf_setHeaders (uri method : List UInt8) (calls : List (List UInt8 × List UInt8))
    (header : List UInt8 × List UInt8) :
    header ∈ headersOf ((HttpRequest.new uri method).setHeaders calls) ↔
      LastWrite.lastSetting setsHeader (lowerCase header.1) calls = some header := by
  induction calls using List.reverseRecOn with
  | nil => exact iff_of_false List.not_mem_nil (Option.some_ne_none _).symm
  | append_singleton calls call ih =>
    have hcalls : (HttpRequest.new uri method).setHeaders (calls ++ [call]) =
        ((HttpRequest.new uri method).setHeaders calls).setHeader call.1 call.2 := by
      rw [setHeaders, List.foldl_append]
      rfl
    rw [hcalls, LastWrite.lastSetting_concat]
    by_cases hrestricted : isHeaderRestricted call.1 = true
    · -- the call does nothing
      rw [setHeader, if_pos hrestricted, setsHeader, hrestricted]
      exact ih
    · rw [Bool.not_eq_true] at hrestricted
      rw [mem_headersOf_setHeader _ _ hrestricted, setsHeader, hrestricted, Bool.not_false, Bool.true_and, ih]
      by_cases hname : lowerCase call.1 = lowerCase header.1
      · rw [if_pos (beq_iff_eq.mpr hname), Option.some.injEq, or_iff_left]
        · exact eq_comm
        · intro h
          exact h.2 hname.symm
      · rw [if_neg (mt beq_iff_eq.mp hname), or_iff_right, and_iff_left (Ne.symm hname)]
        rintro rfl
        exact hname rfl

/-- No two headers have names that are equal in lower case. -/
theorem pairwise_headersOf (r : HttpRequest) :
    (headersOf r).Pairwise fun header header' => lowerCase header.1 ≠ lowerCase header'.1 := by
  unfold headersOf
  rw [List.pairwise_map]
  refine r.headers.container.distinct.imp ?_
  intro entry entry' hsame
  exact (UnorderedMap.same_eq_false_iff headerNames_views _ _).mp hsame

theorem map_fst_ownHeaders_sublist (parts : HTTPRequestParts) :
    ((ownHeaders parts).map Prod.fst).Sublist [clientIPHeader, userAgentHeader, contentEncodingHeader] := by
  unfold ownHeaders
  split
  · split
    · exact List.Sublist.refl _
    · exact (List.Sublist.slnil.cons _).cons_cons _ |>.cons_cons _
  · split
    · exact (List.Sublist.refl _).cons _
    · exact ((List.Sublist.slnil.cons _).cons_cons _).cons _

/-- **The headers of the client** are set last, each for a name of its own that is not restricted. -/
theorem lastSetting_ownHeaders (calls : List (List UInt8 × List UInt8))
    {header : List UInt8 × List UInt8} (h : header ∈ ownHeaders parts) :
    LastWrite.lastSetting setsHeader (lowerCase header.1) (calls ++ ownHeaders parts) = some header := by
  have hsublist := map_fst_ownHeaders_sublist parts
  have hdistinct : [clientIPHeader, userAgentHeader, contentEncodingHeader].Pairwise
      fun name name' => lowerCase name ≠ lowerCase name' := by decide
  have hunrestricted : ∀ name ∈ [clientIPHeader, userAgentHeader, contentEncodingHeader],
      isHeaderRestricted name = false := by decide
  obtain ⟨before, after, hown⟩ := List.append_of_mem h
  rw [hown, List.map_append, List.map_cons] at hsublist
  have hafter := (List.pairwise_cons.mp (List.pairwise_append.mp (hdistinct.sublist hsublist)).2.1).1
  rw [hown, ← List.append_assoc]
  refine LastWrite.lastSetting_append_cons ?_ ?_
  · have hname := hunrestricted _ (hsublist.subset (List.mem_append_right _ List.mem_cons_self))
    rw [setsHeader, hname, beq_self_eq_true]
    rfl
  · intro later hlater
    have hne := hafter _ (List.mem_map_of_mem hlater)
    rw [setsHeader, beq_eq_false_iff_ne.mpr (Ne.symm hne), Bool.and_false]

/-- **The headers of every attempt** are those of the last calls, first of the application and then of the
client: for each name in lower case the last call that is not restricted, and so all those of the client. -/
theorem headers_of_mem_attempts {c : HTTPClient} {k : ℕ} {a : HTTPAttempt}
    (h : (c.sendRequestInternal env parts).attempts[k]? = some a) :
    ∃ headers : List (List UInt8 × List UInt8),
      a.options.httpHeader = headerList (env.canAppend k) (headers.map headerLine) ∧
        headers.Pairwise (fun header header' => lowerCase header.1 ≠ lowerCase header'.1) ∧
          (∀ header, header ∈ headers ↔
            LastWrite.lastSetting setsHeader (lowerCase header.1)
              (env.intercept k (.new parts.url.getStringData (getHttpMethodAsString parts.method)) ++
                ownHeaders parts) = some header) ∧
            (∀ header ∈ ownHeaders parts, header ∈ headers) ∧
              ∀ header ∈ headers, isHeaderRestricted header.1 = false := by
  have hinit : env.easyInit = true := by
    by_contra hinit
    rw [sendRequestInternal, if_neg hinit] at h
    cases h
  have hattempt : IsAttempt env parts k a := (exchanged_sendRequestInternal hinit c).attempt k a h
  have hmem := fun header => mem_headersOf_setHeaders parts.url.getStringData
    (getHttpMethodAsString parts.method)
    (env.intercept k (.new parts.url.getStringData (getHttpMethodAsString parts.method)) ++
      ownHeaders parts) header
  have hrequest : httpRequest env parts k =
      (HttpRequest.new parts.url.getStringData (getHttpMethodAsString parts.method)).setHeaders
        (env.intercept k (.new parts.url.getStringData (getHttpMethodAsString parts.method)) ++
          ownHeaders parts) := by
    rw [httpRequest, setHeaders, setHeaders, setHeaders, ← List.foldl_append]
  refine ⟨headersOf (httpRequest env parts k), ?_, pairwise_headersOf _, ?_, ?_, ?_⟩
  · rw [hattempt.options]
    rfl
  · rw [hrequest]
    exact hmem
  · intro header hheader
    rw [hrequest]
    exact (hmem header).mpr (lastSetting_ownHeaders _ hheader)
  · intro header hheader
    rw [hrequest] at hheader
    have hset := (LastWrite.isSet_of_lastSetting ((hmem header).mp hheader)).2
    rw [setsHeader, Bool.and_eq_true, Bool.not_eq_true'] at hset
    exact hset.1

theorem headers_of_mem_attempts_failingFirst :
    ∃ a, ((HTTPClient.mk .nil .nil [] 0).sendRequestInternal failingFirst
        ⟨.nil, .nil, .nil, .get⟩).attempts[1]? = some a ∧
      ∃ headers : List (List UInt8 × List UInt8),
        a.options.httpHeader = headerList (fun _ => true) (headers.map headerLine) ∧
          (userAgentHeader, userAgent) ∈ headers ∧
            ∀ header ∈ headers, isHeaderRestricted header.1 = false := by
  refine ⟨_, rfl, ?_⟩
  obtain ⟨headers, hlines, -, -, hown, hrestricted⟩ := @headers_of_mem_attempts failingFirst
    ⟨.nil, .nil, .nil, .get⟩ (.mk .nil .nil [] 0) 1 _ rfl
  exact ⟨headers, hlines, hown _ List.mem_cons_self, hrestricted⟩

end HTTPClient

end OpenKit
