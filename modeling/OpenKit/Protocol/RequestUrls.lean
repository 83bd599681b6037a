import OpenKit.Communication.BeaconSendingContext
import OpenKit.Protocol.BeaconCalls
import OpenKit.Protocol.Framing

/-!
# The URLs of requests

The URL of a request is the base URL with a query behind it. The parameters of the query are appended one after
the other, with escaped keys and values. What a server reads from a URL is what went into it.

## Main definitions

* `HTTPClient.appendQueryParam`, `buildMonitorURL`, `buildNewSessionURL` and so on: how a URL is built
* `HTTPClient.RequestTarget`, `HTTPClient.requestURL`: the URLs of the three kinds of requests
* `HTTPClient.readURL`: how a URL is read

## Main results

* `data_appendQueryParams`: the bytes of a URL
* `readURL_requestURL`: the base URL and the parameters are read back
-/

namespace OpenKit

open EventData

namespace UTF8String

/-- ASCII characters are a text. -/
theorem isText_ofAscii {cs : List Char} (h : ∀ c ∈ cs, c.toNat ≠ 0 ∧ c.toNat < 128) :
    (ofAscii cs).IsText := by
  have hbytes : encodeText cs = (ofAscii cs).data := by
    have hbyte : ∀ c ∈ cs, String.utf8EncodeChar c = [c.toNat.toUInt8] := by
      intro c hc
      rw [String.utf8EncodeChar]
      exact if_pos (Nat.le_of_lt_succ (h c hc).2)
    rw [encodeText, List.flatMap_congr hbyte, ← List.map_eq_flatMap]
    rfl
  have hwidth : ∀ n < 128, n ≠ 0 → n.toUInt8 ≠ 0 ∧ getByteWidthOfCharacter n.toUInt8 = 1 := by
    decide
  refine ⟨cs, fun c hc => (h c hc).1, ?_⟩
  rw [hbytes, validateString_of_ascii, ofAscii, List.length_map]
  intro b hb
  obtain ⟨c, hc, rfl⟩ := List.mem_map.mp hb
  exact hwidth _ (h c hc).2 (h c hc).1

/-- Characters in front of others. -/
theorem concatenate_ofAscii (cs cs' : List Char) :
    (ofAscii cs).concatenate (ofAscii cs') = ofAscii (cs ++ cs') := by
  have hdata := concatenate_data (consistent_ofAscii cs') (ofAscii cs)
  have hlength := concatenate_stringLength (ofAscii cs) (ofAscii cs')
  generalize (ofAscii cs).concatenate (ofAscii cs') = s at hdata hlength
  obtain ⟨data, stringLength⟩ := s
  rw [ofAscii, UTF8String.mk.injEq, List.map_append, List.length_append]
  exact ⟨hdata, hlength⟩

end UTF8String

namespace HTTPClient

/-! ## Building -/

/-- `REQUEST_TYPE_MOBILE`. -/
def requestTypeMobile : UTF8String := .ofAscii ['t', 'y', 'p', 'e', '=', 'm']

def queryKeyServerID : UTF8String := .ofAscii ['s', 'r', 'v', 'i', 'd']

def queryKeyApplication : UTF8String := .ofAscii ['a', 'p', 'p']

def queryKeyVersion : UTF8String := .ofAscii ['v', 'a']

def queryKeyPlatformType : UTF8String := .ofAscii ['p', 't']

def queryKeyAgentTechnologyType : UTF8String := .ofAscii ['t', 't']

def queryKeyResponseType : UTF8String := .ofAscii ['r', 'e', 's', 'p']

def queryKeyConfigTimestamp : UTF8String := .ofAscii ['c', 't', 's']

def queryKeyNewSession : UTF8String := .ofAscii ['n', 's']

def queryKeySessionIdentifier : UTF8String := .ofAscii ['s', 'i']

def openKitVersion : UTF8String := .ofAscii ['8', '.', '3', '2', '3', '.', '3', '0', '5', '0', '0']

def platformTypeOpenKit : UTF8String := .ofAscii ['1']

def agentTechnologyType : UTF8String := .ofAscii ['o', 'k', 'c']

def responseTypeJson : UTF8String := .ofAscii ['j', 's', 'o', 'n']

/-- The conversion of an `int32_t` to a `uint32_t`. -/
def toUInt32 (value : ℤ) : ℤ := value % 4294967296

def appendQueryParam (url key value : UTF8String) : UTF8String :=
  (((url.concatenate (.ofAscii ['&'])).concatenate (urlencode key [95])).concatenate
    (.ofAscii ['='])).concatenate (urlencode value [95])

/-- The client keeps the id of the server as a number without a sign. -/
def buildMonitorURL (baseURL applicationID : UTF8String) (serverID : ℤ) : UTF8String :=
  let monitorURL := (baseURL.concatenate (.ofAscii ['?'])).concatenate requestTypeMobile
  let monitorURL := appendQueryParam monitorURL queryKeyServerID (toInvariantString (toUInt32 serverID))
  let monitorURL := appendQueryParam monitorURL queryKeyApplication applicationID
  let monitorURL := appendQueryParam monitorURL queryKeyVersion openKitVersion
  let monitorURL := appendQueryParam monitorURL queryKeyPlatformType platformTypeOpenKit
  let monitorURL := appendQueryParam monitorURL queryKeyAgentTechnologyType agentTechnologyType
  appendQueryParam monitorURL queryKeyResponseType responseTypeJson

def buildNewSessionURL (baseURL applicationID : UTF8String) (serverID : ℤ) : UTF8String :=
  appendQueryParam (buildMonitorURL baseURL applicationID serverID) queryKeyNewSession (.ofAscii ['1'])

def appendAdditionalQueryParameters (baseUrl : UTF8String) (configurationTimestamp : ℤ) : UTF8String :=
  appendQueryParam baseUrl queryKeyConfigTimestamp (toInvariantString configurationTimestamp)

/-- The identifier of a session: its number and the id of the device. -/
def sessionIdentifier (sessionNumber deviceID : ℤ) : UTF8String :=
  ((toInvariantString sessionNumber).concatenate (.ofAscii ['_'])).concatenate (toInvariantString deviceID)

def appendSessionIdentifierParameter (baseUrl : UTF8String) (sessionNumber deviceID : ℤ) : UTF8String :=
  appendQueryParam baseUrl queryKeySessionIdentifier (sessionIdentifier sessionNumber deviceID)

/-- What a request is for. -/
inductive RequestTarget
  | status
  | newSession
  | beacon (sessionNumber deviceID : ℤ)
deriving DecidableEq, Repr

/-- The URLs in `sendStatusRequest`, `sendNewSessionRequest` and `sendBeaconRequest`. -/
def requestURL (baseURL : UTF8String) (configuration : HTTPClientConfiguration)
    (configurationTimestamp : ℤ) : RequestTarget → UTF8String
  | .status =>
    appendAdditionalQueryParameters
      (buildMonitorURL baseURL configuration.applicationID configuration.serverID) configurationTimestamp
  | .newSession =>
    appendAdditionalQueryParameters
      (buildNewSessionURL baseURL configuration.applicationID configuration.serverID)
      configurationTimestamp
  | .beacon sessionNumber deviceID =>
    appendSessionIdentifierParameter
      (appendAdditionalQueryParameters
        (buildMonitorURL baseURL configuration.applicationID configuration.serverID)
        configurationTimestamp) sessionNumber deviceID

/-! ## Reading -/

/-- The base URL and the parameters of a URL: the query is what is behind the first question mark. -/
def readURL (url : List UInt8) : List UInt8 × List (List UInt8 × UTF8String) :=
  (url.takeWhile (· ≠ 63), (itemsOf ((url.dropWhile (· ≠ 63)).drop 1) 38).map pairIn)

/-- The parameters that every request has. -/
def commonParameters (configuration : HTTPClientConfiguration) : List (UTF8String × UTF8String) :=
  [(queryKeyServerID, toInvariantString (toUInt32 configuration.serverID)),
    (queryKeyApplication, configuration.applicationID), (queryKeyVersion, openKitVersion),
    (queryKeyPlatformType, platformTypeOpenKit), (queryKeyAgentTechnologyType, agentTechnologyType),
    (queryKeyResponseType, responseTypeJson)]

/-- The parameters of a request behind its type. -/
def parametersOf (configuration : HTTPClientConfiguration) (configurationTimestamp : ℤ) :
    RequestTarget → List (UTF8String × UTF8String)
  | .status =>
    commonParameters configuration ++
      [(queryKeyConfigTimestamp, toInvariantString configurationTimestamp)]
  | .newSession =>
    commonParameters configuration ++
      [(queryKeyNewSession, .ofAscii ['1']),
        (queryKeyConfigTimestamp, toInvariantString configurationTimestamp)]
  | .beacon sessionNumber deviceID =>
    commonParameters configuration ++
      [(queryKeyConfigTimestamp, toInvariantString configurationTimestamp),
        (queryKeySessionIdentifier, sessionIdentifier sessionNumber deviceID)]

/-! ## The bytes of a URL -/

/-- A key of the client: it is ASCII, and escaping keeps it. -/
structure IsQueryKey (key : UTF8String) : Prop where
  framing : IsFramingKey key
  kept : (urlencode key [95]).data = key.data

variable {url key value : UTF8String}

theorem data_appendQueryParam (hkey : IsQueryKey key) (value : UTF8String) :
    (appendQueryParam url key value).data = url.data ++ 38 :: pairData key value := by
  have hencoded (s : UTF8String) : (urlencode s [95]).Consistent := (isAscii_urlencode s [95]).consistent
  rw [appendQueryParam, UTF8String.concatenate_data (hencoded value),
    UTF8String.concatenate_data (UTF8String.consistent_ofAscii _),
    UTF8String.concatenate_data (hencoded key),
    UTF8String.concatenate_data (UTF8String.consistent_ofAscii _), hkey.kept, pairData]
  simp only [List.append_assoc]
  rfl

/-- A URL with some parameters behind it. -/
def appendQueryParams (url : UTF8String) (pairs : List (UTF8String × UTF8String)) : UTF8String :=
  pairs.foldl (fun url pair => appendQueryParam url pair.1 pair.2) url

/-- **The bytes** of a URL with some parameters behind it. -/
theorem data_appendQueryParams {pairs : List (UTF8String × UTF8String)}
    (hkeys : ∀ pair ∈ pairs, IsQueryKey pair.1) :
    (appendQueryParams url pairs).data =
      url.data ++ pairs.flatMap fun pair => 38 :: pairData pair.1 pair.2 := by
  induction pairs generalizing url with
  | nil => exact (List.append_nil _).symm
  | cons pair pairs ih =>
    obtain ⟨hkey, hkeys⟩ := List.forall_mem_cons.mp hkeys
    rw [appendQueryParams, List.foldl_cons, ← appendQueryParams, ih hkeys, data_appendQueryParam hkey,
      List.flatMap_cons, List.append_assoc]

/-- The parts of a query. -/
theorem splitOn_query {start : List UInt8} (hstart : 38 ∉ start)
    {pairs : List (UTF8String × UTF8String)} (hkeys : ∀ pair ∈ pairs, IsQueryKey pair.1) :
    (start ++ pairs.flatMap fun pair => 38 :: pairData pair.1 pair.2).splitOn 38 =
      start :: pairs.map fun pair => pairData pair.1 pair.2 := by
  induction pairs generalizing start with
  | nil => rw [List.flatMap_nil, List.append_nil, List.splitOn_eq_singleton hstart, List.map_nil]
  | cons pair pairs ih =>
    obtain ⟨hkey, hkeys⟩ := List.forall_mem_cons.mp hkeys
    rw [List.flatMap_cons, List.cons_append, List.splitOn_append_cons_self_of_not_mem hstart,
      ih (ampersand_notMem_pairData hkey.framing.2.1) hkeys, List.map_cons]

/-! ## What is read -/

/-- The text of a number is a text. -/
theorem isText_toInvariantString (value : ℤ) : (toInvariantString value).IsText := by
  refine UTF8String.isText_ofAscii fun c hc => ?_
  have hcode := toNat_of_mem_toString hc
  omega

theorem isText_sessionIdentifier (sessionNumber deviceID : ℤ) :
    (sessionIdentifier sessionNumber deviceID).IsText := by
  have hnumber (value : ℤ) : ∀ c ∈ (toString value).toList, c.toNat ≠ 0 ∧ c.toNat < 128 := by
    intro c hc
    have hcode := toNat_of_mem_toString hc
    omega
  rw [sessionIdentifier, toInvariantString, toInvariantString, UTF8String.concatenate_ofAscii,
    UTF8String.concatenate_ofAscii]
  refine UTF8String.isText_ofAscii (List.forall_mem_append.mpr ⟨?_, hnumber deviceID⟩)
  refine List.forall_mem_append.mpr ⟨hnumber sessionNumber, List.forall_mem_singleton.mpr ?_⟩
  exact ⟨by decide, by decide⟩

variable {configuration : HTTPClientConfiguration} {configurationTimestamp : ℤ} {target : RequestTarget}

/-- What holds of all parameters. -/
theorem forall_parametersOf {P : UTF8String × UTF8String → Prop}
    (hcommon : ∀ pair ∈ commonParameters configuration, P pair)
    (hnewSession : P (queryKeyNewSession, .ofAscii ['1']))
    (htimestamp : P (queryKeyConfigTimestamp, toInvariantString configurationTimestamp))
    (hsession : ∀ sessionNumber deviceID,
      P (queryKeySessionIdentifier, sessionIdentifier sessionNumber deviceID)) :
    ∀ pair ∈ parametersOf configuration configurationTimestamp target, P pair := by
  cases target with
  | status => exact List.forall_mem_append.mpr ⟨hcommon, List.forall_mem_singleton.mpr htimestamp⟩
  | newSession =>
    exact List.forall_mem_append.mpr ⟨hcommon,
      List.forall_mem_cons.mpr ⟨hnewSession, List.forall_mem_singleton.mpr htimestamp⟩⟩
  | beacon sessionNumber deviceID =>
    exact List.forall_mem_append.mpr ⟨hcommon,
      List.forall_mem_cons.mpr ⟨htimestamp, List.forall_mem_singleton.mpr (hsession ..)⟩⟩

theorem isQueryKey_parametersOf :
    ∀ pair ∈ parametersOf configuration configurationTimestamp target, IsQueryKey pair.1 := by
  have hdecided {key : UTF8String} (h : (UTF8String.validateString key.data = key ∧
      38 ∉ key.data ∧ 61 ∉ key.data ∧ 37 ∉ key.data) ∧ (urlencode key [95]).data = key.data) :
      IsQueryKey key := ⟨⟨⟨key.data, h.1.1.symm⟩, h.1.2⟩, h.2⟩
  have htimestamp : IsQueryKey queryKeyConfigTimestamp := hdecided (by decide)
  have hsession : IsQueryKey queryKeySessionIdentifier := hdecided (by decide)
  refine forall_parametersOf ?_ (hdecided (by decide)) htimestamp fun _ _ => hsession
  simp only [commonParameters, List.forall_mem_cons]
  exact ⟨hdecided (by decide), hdecided (by decide), hdecided (by decide),
    hdecided (by decide), hdecided (by decide), hdecided (by decide),
    List.forall_mem_nil _⟩

theorem isText_parametersOf (happlication : configuration.applicationID.IsText) :
    ∀ pair ∈ parametersOf configuration configurationTimestamp target, pair.2.IsText := by
  have hconstant {cs : List Char} (hcs : cs.all (fun c => c.toNat != 0 && c.toNat < 128) = true) :
      (UTF8String.ofAscii cs).IsText := UTF8String.isText_ofAscii fun c hc => by
    simpa using List.all_eq_true.mp hcs c hc
  refine forall_parametersOf ?_ (hconstant (by decide)) (isText_toInvariantString _)
    isText_sessionIdentifier
  simp only [commonParameters, List.forall_mem_cons]
  exact ⟨isText_toInvariantString _, happlication, hconstant (by decide), hconstant (by decide),
    hconstant (by decide), hconstant (by decide), List.forall_mem_nil _⟩

/-- A URL is the base URL, the type of the request, and its parameters. -/
theorem requestURL_eq (baseURL : UTF8String) :
    requestURL baseURL configuration configurationTimestamp target =
      appendQueryParams ((baseURL.concatenate (.ofAscii ['?'])).concatenate requestTypeMobile)
        (parametersOf configuration configurationTimestamp target) := by
  cases target <;> rfl

/-- The bytes of a URL. -/
theorem data_requestURL (baseURL : UTF8String) :
    (requestURL baseURL configuration configurationTimestamp target).data =
      baseURL.data ++ 63 :: (requestTypeMobile.data ++
        (parametersOf configuration configurationTimestamp target).flatMap fun pair =>
          38 :: pairData pair.1 pair.2) := by
  have htype : requestTypeMobile.Consistent := UTF8String.consistent_ofAscii _
  have hmark : (UTF8String.ofAscii ['?']).Consistent := UTF8String.consistent_ofAscii _
  rw [requestURL_eq, data_appendQueryParams isQueryKey_parametersOf, UTF8String.concatenate_data htype,
    UTF8String.concatenate_data hmark, List.append_assoc, List.append_assoc]
  rfl

/-- **The parameters** are read as they went into a URL. -/
theorem readURL_data_requestURL {baseURL : UTF8String} (hbase : 63 ∉ baseURL.data)
    (happlication : configuration.applicationID.IsText) :
    readURL (requestURL baseURL configuration configurationTimestamp target).data =
      (baseURL.data, ((UTF8String.ofAscii ['t', 'y', 'p', 'e']).data, .ofAscii ['m']) ::
        (parametersOf configuration configurationTimestamp target).map fun pair => (pair.1.data, pair.2)) := by
  have hkeys : ∀ pair ∈ parametersOf configuration configurationTimestamp target, IsQueryKey pair.1 :=
    isQueryKey_parametersOf
  have hvalues : ∀ pair ∈ parametersOf configuration configurationTimestamp target, pair.2.IsText :=
    isText_parametersOf happlication
  have hpass : ∀ b ∈ baseURL.data, (decide (b ≠ 63)) = true :=
    fun b hb => decide_eq_true fun hsame => hbase (hsame ▸ hb)
  have hsplit := @splitOn_query requestTypeMobile.data (by decide) _ hkeys
  -- no part of the query is empty
  have hlast : (requestTypeMobile.data :: (parametersOf configuration configurationTimestamp target).map
      fun pair => pairData pair.1 pair.2).getLast? ≠ some [] := by
    intro hnil
    rcases List.mem_cons.mp (List.mem_of_getLast? hnil) with hnil | hnil
    · cases hnil
    · obtain ⟨pair, -, hpair⟩ := List.mem_map.mp hnil
      exact absurd hpair (by simp [pairData])
  rw [readURL, data_requestURL, List.takeWhile_append_of_pos hpass, List.dropWhile_append_of_pos hpass,
    List.takeWhile_cons_of_neg (by simp), List.dropWhile_cons_of_neg (by simp), List.append_nil,
    List.drop_succ_cons, List.drop_zero, itemsOf, hsplit, if_neg hlast, List.map_cons, List.map_map]
  have htype : pairIn requestTypeMobile.data =
      ((UTF8String.ofAscii ['t', 'y', 'p', 'e']).data, .ofAscii ['m']) := by decide
  rw [htype]
  refine congrArg (fun pairs => (baseURL.data, _ :: pairs)) (List.map_congr_left fun pair hpair => ?_)
  exact pairIn_pairData (hkeys pair hpair).framing (hvalues pair hpair)

/-- A session is determined by its identifier. -/
theorem sessionIdentifier_injective {sessionNumber deviceID sessionNumber' deviceID' : ℤ}
    (h : sessionIdentifier sessionNumber deviceID = sessionIdentifier sessionNumber' deviceID') :
    sessionNumber = sessionNumber' ∧ deviceID = deviceID' := by
  have hdata (sessionNumber deviceID : ℤ) : (sessionIdentifier sessionNumber deviceID).data =
      (toInvariantString sessionNumber).data ++ 95 :: (toInvariantString deviceID).data := by
    have hnumber : (toInvariantString deviceID).Consistent := UTF8String.consistent_ofAscii _
    rw [sessionIdentifier, UTF8String.concatenate_data hnumber,
      UTF8String.concatenate_data (UTF8String.consistent_ofAscii _), List.append_assoc]
    rfl
  -- the underscore is behind the first number
  have hsplit (sessionNumber deviceID : ℤ) : (sessionIdentifier sessionNumber deviceID).data.splitOn 95 =
      [(toInvariantString sessionNumber).data, (toInvariantString deviceID).data] := by
    rw [hdata, List.splitOn_append_cons_self_of_not_mem (underscore_notMem_toInvariantString _),
      List.splitOn_eq_singleton (underscore_notMem_toInvariantString _)]
  have hsame := hsplit sessionNumber deviceID
  rw [h, hsplit, List.cons.injEq, List.cons.injEq] at hsame
  exact ⟨toInvariantString_injective hsame.1.symm, toInvariantString_injective hsame.2.1.symm⟩

/-- What a URL was built from, as far as it tells. -/
structure SameRequest (configuration configuration' : HTTPClientConfiguration)
    (configurationTimestamp configurationTimestamp' : ℤ) (target target' : RequestTarget) : Prop where
  serverID : toUInt32 configuration.serverID = toUInt32 configuration'.serverID
  applicationID : configuration.applicationID = configuration'.applicationID
  configurationTimestamp : configurationTimestamp = configurationTimestamp'
  target : target = target'

/-- The parameters determine the request. -/
theorem sameRequest_of_parametersOf {configuration' : HTTPClientConfiguration}
    {configurationTimestamp' : ℤ} {target' : RequestTarget}
    (h : (parametersOf configuration configurationTimestamp target).map
        (fun pair => (pair.1.data, pair.2)) =
      (parametersOf configuration' configurationTimestamp' target').map fun pair => (pair.1.data, pair.2)) :
    SameRequest configuration configuration' configurationTimestamp configurationTimestamp' target
      target' := by
  have hnumber {value value' : ℤ} (h : toInvariantString value = toInvariantString value') :
      value = value' := toInvariantString_injective (congrArg UTF8String.data h)
  have hkey : queryKeyNewSession.data ≠ queryKeyConfigTimestamp.data := by decide
  cases target <;> cases target' <;>
    simp only [parametersOf, commonParameters, List.cons_append, List.nil_append, List.map_cons,
      List.map_nil, List.cons.injEq, Prod.mk.injEq, true_and, and_true, reduceCtorEq, and_false,
      hkey, hkey.symm, false_and] at h
  case status.status =>
    exact ⟨hnumber h.1, h.2.1, hnumber h.2.2, rfl⟩
  case newSession.newSession =>
    exact ⟨hnumber h.1, h.2.1, hnumber h.2.2, rfl⟩
  case beacon.beacon =>
    obtain ⟨hsession, hdevice⟩ := sessionIdentifier_injective h.2.2.2
    exact ⟨hnumber h.1, h.2.1, hnumber h.2.2.1, by rw [hsession, hdevice]⟩

/-- **URLs** are read as they were built: the base URL and the parameters are those that went into a URL, and two
URLs that are the same are of the same request. -/
theorem readURL_requestURL {baseURL : UTF8String} (hbase : 63 ∉ baseURL.data)
    (happlication : configuration.applicationID.IsText) :
    readURL (requestURL baseURL configuration configurationTimestamp target).data =
        (baseURL.data, ((UTF8String.ofAscii ['t', 'y', 'p', 'e']).data, .ofAscii ['m']) ::
          (parametersOf configuration configurationTimestamp target).map
            fun pair => (pair.1.data, pair.2)) ∧
      ∀ baseURL' configuration' configurationTimestamp' target', 63 ∉ UTF8String.data baseURL' →
        configuration'.applicationID.IsText →
        (requestURL baseURL configuration configurationTimestamp target).data =
            (requestURL baseURL' configuration' configurationTimestamp' target').data →
          baseURL.data = baseURL'.data ∧
            SameRequest configuration configuration' configurationTimestamp configurationTimestamp' target
              target' := by
  refine ⟨readURL_data_requestURL hbase happlication, ?_⟩
  intro baseURL' configuration' configurationTimestamp' target' hbase' happlication' hsame
  have hread : readURL (requestURL baseURL configuration configurationTimestamp target).data = _ :=
    readURL_data_requestURL hbase happlication
  rw [hsame, readURL_data_requestURL hbase' happlication', Prod.mk.injEq, List.cons.injEq] at hread
  exact ⟨hread.1.symm, sameRequest_of_parametersOf hread.2.2.symm⟩

/-- A request of a beacon, for an application whose id has a separator and a letter of two bytes. -/
theorem readURL_requestURL_beacon :
    readURL (requestURL (.ofAscii ['h', ':', '/']) ⟨-1, .validateString (UTF8String.encodeText ['&', 'ä'])⟩
        12 (.beacon 3 (-4))).data =
      ([104, 58, 47], [("type", "m"), ("srvid", "4294967295"), ("app", "&ä"), ("va", "8.323.30500"),
        ("pt", "1"), ("tt", "okc"), ("resp", "json"), ("cts", "12"), ("si", "3_-4")].map fun pair =>
          (UTF8String.encodeText pair.1.toList, .validateString (UTF8String.encodeText pair.2.toList))) := by
  refine (readURL_requestURL (by decide) ⟨['&', 'ä'], ?_, rfl⟩).1.trans ?_
  · exact List.all_iff_forall_prop.mp (by decide)
  · decide

end HTTPClient

end OpenKit
