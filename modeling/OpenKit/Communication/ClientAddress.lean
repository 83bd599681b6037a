import OpenKit.Communication.SendFrame
import OpenKit.Communication.WholePayload
import OpenKit.Core.InetAddressValidator
import OpenKit.Protocol.Framing

/-!
# The client address

The address that a session is created with is transmitted in two places: as a pair of the immutable data,
unless its validation failed, and as a header of every request, unless it is empty.

## Main definitions

* `Beacon.constructValidated`: the constructor, with the validation of the address
* `BeaconRequest`, `HTTPClient.clientIPHeaders`: the address as an argument, and the headers it makes
* `ClientAddress.beaconRequest`: the request for a chunk, with the address of its beacon
* `ClientAddress.CarriesIfAccepted`: the address is transmitted if it is accepted
* `ClientAddress.AddressStep`: the steps of the other threads

## Main results

* `values_of_reaches`: the pairs with an address in the requests of every run
* `carriesIfAccepted_iff`: when a request transmits the address if it is accepted
-/

namespace OpenKit

open Thread EventData

/-- The address that the creator of a session is constructed with, which is empty for no string. -/
def SessionCreator.clientIPAddressOf (clientIPAddress : Option (List UInt8)) : UTF8String :=
  clientIPAddress.elim .nil .validateString

/-- The constructor of a beacon. The fault of the validation is one of the constructor. -/
def Beacon.constructValidated (openKitConfiguration : OpenKitDescription)
    (beaconConfiguration : BeaconConfiguration) (initializer : BeaconInitializer) :
    Except UTF8String.WalkFault Beacon := do
  let useClientIPAddress ←
    if initializer.useClientIPAddress then
      InetAddressValidator.isValidIP initializer.clientIPAddress
    else .ok false
  return .construct (fun _ => useClientIPAddress) openKitConfiguration beaconConfiguration initializer

/-- What a beacon request is made with. -/
structure BeaconRequest where
  clientIPAddress : UTF8String
  beaconData : UTF8String

namespace HTTPClient

def clientIPHeaderName : List UInt8 := (UTF8String.ofAscii "X-Client-IP: ".toList).data

/-- The lines that the address of a request adds to the header list. -/
def clientIPHeaders (request : BeaconRequest) : List (List UInt8) :=
  if !request.clientIPAddress.isEmpty then
    [clientIPHeaderName ++ request.clientIPAddress.getStringData]
  else []

end HTTPClient

namespace ClientAddress

open SessionCreator HTTPClient

/-- The request for a chunk: `send` passes the address of the beacon on, which is the same at any time. -/
def beaconRequest (w : World) (chunk : BeaconChunk) : BeaconRequest :=
  ⟨(w.session chunk.key).beacon.clientIPAddress, chunk.text⟩

/-- A beacon of a session that was created with an address. -/
def IsConstructed (clientIPAddress : Option (List UInt8)) (beacon : Beacon) : Prop :=
  ∃ openKitConfiguration beaconConfiguration initializer,
    initializer.useClientIPAddress = clientIPAddress.isSome ∧
      initializer.clientIPAddress = clientIPAddressOf clientIPAddress ∧
        Beacon.constructValidated openKitConfiguration beaconConfiguration initializer = .ok beacon

/-- A string was passed, and is accepted. -/
def IsAccepted (clientIPAddress : Option (List UInt8)) : Prop :=
  ∃ stringData, clientIPAddress = some stringData ∧
    InetAddressValidator.isValidIP (.validateString stringData) = .ok true

instance (clientIPAddress : Option (List UInt8)) : Decidable (IsAccepted clientIPAddress) :=
  match clientIPAddress with
  | none => isFalse fun h => nomatch h
  | some stringData =>
    decidable_of_iff (InetAddressValidator.isValidIP (.validateString stringData) = .ok true)
      ⟨fun h => ⟨stringData, rfl, h⟩, fun ⟨_, hsame, h⟩ => Option.some.inj hsame ▸ h⟩

/-- **The address is transmitted** in both places if it is accepted, and in none if not. -/
def CarriesIfAccepted (clientIPAddress : Option (List UInt8)) (request : BeaconRequest) : Prop :=
  (IsAccepted clientIPAddress →
    clientIPHeaders request = [clientIPHeaderName ++ (clientIPAddressOf clientIPAddress).data] ∧
      valuesOf keyClientIPAddress request.beaconData =
        [(urlencode (clientIPAddressOf clientIPAddress) [95]).data]) ∧
  (¬ IsAccepted clientIPAddress →
    clientIPHeaders request = [] ∧ valuesOf keyClientIPAddress request.beaconData = [])

/-- A step of the other threads. The sessions are created with their addresses, and nothing else sets an
address. -/
inductive AddressStep (clientIPAddress : BeaconKey → Option (List UInt8)) : World → World → Prop
  | create (w : World) (k : BeaconKey) (beacon : Beacon)
      (h : IsConstructed (clientIPAddress k) beacon) :
      AddressStep clientIPAddress w
        { w.updateSession k fun _ => .new beacon with
          created := w.created ++ [k]
          context := w.context.addSession k }
  | other (w w' : World) (h : PayloadStep (fun _ => false) w w') (hcreated : w'.created = w.created)
      (haddress : ∀ k, (w'.session k).beacon.clientIPAddress = (w.session k).beacon.clientIPAddress) :
      AddressStep clientIPAddress w w'

/-! ## The pairs with an address -/

/-- The values of the pairs with an address. -/
def addressValues (clientIPAddress : Option (List UInt8)) : List (List UInt8) :=
  if IsAccepted clientIPAddress then [(urlencode (clientIPAddressOf clientIPAddress) [95]).data] else []

theorem isKey_clientIPAddress : IsKey keyClientIPAddress := by decide

/-- The immutable data has a pair with the address if it is used. -/
theorem hasValues_createImmutableBeaconData (openKitConfiguration : OpenKitDescription)
    (privacyConfiguration : PrivacyConfiguration) (deviceID sessionNumber : ℤ)
    (useClientIPAddress : Bool) (clientIPAddress : UTF8String) :
    HasValues keyClientIPAddress
      (if useClientIPAddress then [(urlencode clientIPAddress [95]).data] else [])
      (createImmutableBeaconData openKitConfiguration privacyConfiguration deviceID sessionNumber
        useClientIPAddress clientIPAddress) := by
  have hkey := isKey_clientIPAddress
  -- the pairs from the last one on
  refine HasValues.addOther (.addOther ?_ hkey (by decide) (by decide) _) hkey (by decide) (by decide) _
  apply HasValues.addOtherIfNotEmpty _ hkey (by decide) (by decide)
  apply HasValues.addOtherIfNotEmpty _ hkey (by decide) (by decide)
  apply HasValues.addOtherIfNotEmpty _ hkey (by decide) (by decide)
  have hfront : HasValues keyClientIPAddress [] (addKeyIntPair (addKeyIntPair (addKeyValuePair
      (addKeyValuePair (addKeyValuePairIfNotEmpty (addKeyValuePair (addKeyValuePair
        (addKeyIntPair .nil keyProtocolVersion SessionObject.protocolVersion) keyOpenKitVersion
          openKitVersion) keyApplicationID openKitConfiguration.applicationID) keyApplicationVersion
            openKitConfiguration.applicationVersion) keyPlatformType platformTypeOpenKit)
              keyAgentTechnologyType agentTechnologyType) keyVisitorID deviceID) keySessionNumber
                sessionNumber) := by
    refine HasValues.addOther (.addOther (.addOther (.addOther ?_ hkey (by decide) (by decide) _) hkey
      (by decide) (by decide) _) hkey (by decide) (by decide) _) hkey (by decide) (by decide) _
    apply HasValues.addOtherIfNotEmpty _ hkey (by decide) (by decide)
    refine HasValues.addOther (.addOther ?_ hkey (by decide) (by decide) _) hkey (by decide)
      (by decide) _
    exact .first hkey (by decide) (by decide) _
  cases useClientIPAddress with
  | false => exact hfront
  | true => exact hfront.add hkey clientIPAddress

/-- The data of the moment has no pair with an address. -/
theorem hasValues_getMutableBeaconData (input : MutableBeaconInput) :
    HasValues keyClientIPAddress [] (getMutableBeaconData input) := by
  have hkey := isKey_clientIPAddress
  have hpair {s key value : UTF8String} {c : Prop} [Decidable c] (h : HasValues keyClientIPAddress [] s)
      (hkey' : IsKey key) (hne : key.data ≠ keyClientIPAddress.data) :
      HasValues keyClientIPAddress [] (if c then addKeyValuePair s key value else s) := by
    split
    · exact h.addOther hkey hkey' hne value
    · exact h
  refine hpair (hpair (hpair ?_ (by decide) (by decide)) (by decide) (by decide)) (by decide) (by decide)
  have hversion : HasValues keyClientIPAddress [] (addKeyIntPair .nil keyVisitStoreVersion
      input.serverConfiguration.visitStoreVersion) := .first hkey (by decide) (by decide) _
  have htimestamp : HasValues keyClientIPAddress []
      (createTimestampData input.transmissionTime input.sessionStartTime) :=
    HasValues.addOther (.first hkey (by decide) (by decide) _) hkey (by decide) (by decide) _
  have hmultiplicity : HasValues keyClientIPAddress []
      (createMultiplicityData input.serverConfiguration) := .first hkey (by decide) (by decide) _
  exact ((hpair hversion (by decide) (by decide)).join htimestamp).join hmultiplicity

/-- The text of a record has no pair with an address. -/
def HasNoAddress (text : UTF8String) : Prop := valuesOf keyClientIPAddress text = [] ∧ text.Consistent

theorem hasNoAddress_of_builtOf {text : UTF8String} (h : BuiltOf recordKeys text) : HasNoAddress text := by
  have hkeys : ∀ key ∈ recordKeys, IsKey key ∧ key.data ≠ keyClientIPAddress.data :=
    List.all_iff_forall_prop.mp (by decide)
  have hvalues : text = .nil ∨ HasValues keyClientIPAddress [] text := by
    induction h with
    | nil => exact .inl rfl
    | add h hkey value ih =>
      obtain ⟨hkey', hne⟩ := hkeys _ hkey
      rcases ih with rfl | ih
      · exact .inr (.first isKey_clientIPAddress hkey' hne value)
      · exact .inr (ih.addOther isKey_clientIPAddress hkey' hne value)
  rcases hvalues with rfl | hvalues
  · exact ⟨valuesOf_nil _, fun _ => rfl⟩
  · exact ⟨hvalues.values, hvalues.consistent⟩

/-- Records add no pair with an address. -/
theorem valuesOf_appendRecords {rs : List BeaconCacheRecord} (hrs : ∀ r ∈ rs, HasNoAddress r.data)
    (chunk : UTF8String) :
    valuesOf keyClientIPAddress
        (BeaconCacheEntry.appendRecords chunk BeaconSend.beaconDataDelimiter rs) =
      valuesOf keyClientIPAddress chunk := by
  induction rs generalizing chunk with
  | nil => rfl
  | cons r rs ih =>
    obtain ⟨hr, hrs⟩ := List.forall_mem_cons.mp hrs
    have hstep := ih hrs ((chunk.concatenate BeaconSend.beaconDataDelimiter).concatenate r.data)
    have hjoin : valuesOf keyClientIPAddress
        ((chunk.concatenate BeaconSend.beaconDataDelimiter).concatenate r.data) =
          valuesOf keyClientIPAddress chunk ++ valuesOf keyClientIPAddress r.data :=
      valuesOf_join hr.2 _ _
    rw [hjoin, hr.1, List.append_nil] at hstep
    exact hstep

/-- A beacon that was constructed has the pair of its address. -/
theorem hasValues_of_isConstructed {clientIPAddress : Option (List UInt8)} {beacon : Beacon}
    (h : IsConstructed clientIPAddress beacon) :
    HasValues keyClientIPAddress (addressValues clientIPAddress) beacon.immutableBasicBeaconData := by
  obtain ⟨openKitConfiguration, beaconConfiguration, initializer, huse, haddress, hok⟩ := h
  rw [Beacon.constructValidated, huse, haddress] at hok
  -- the flag is what the validation answers
  obtain ⟨valid, hvalid, rfl⟩ : ∃ valid, (IsAccepted clientIPAddress ↔
      (clientIPAddress.isSome && valid) = true) ∧ .construct (fun _ => valid) openKitConfiguration
        beaconConfiguration initializer = beacon := by
    cases clientIPAddress with
    | none => exact ⟨false, iff_of_false (fun h => nomatch h) Bool.false_ne_true, Except.ok.inj hok⟩
    | some stringData =>
      rw [Option.isSome_some, if_pos rfl] at hok
      cases hcheck : InetAddressValidator.isValidIP (clientIPAddressOf (some stringData)) with
      | error fault =>
        rw [hcheck] at hok
        cases hok
      | ok valid =>
        rw [hcheck] at hok
        refine ⟨valid, ?_, Except.ok.inj hok⟩
        constructor
        · rintro ⟨_, hsame, haccepted⟩
          rw [← Option.some.inj hsame] at haccepted
          exact Except.ok.inj (hcheck.symm.trans haccepted)
        · rintro rfl
          exact ⟨stringData, rfl, hcheck⟩
  have hvalues : addressValues clientIPAddress =
      if initializer.useClientIPAddress && valid then
        [(urlencode initializer.clientIPAddress [95]).data]
      else [] := by
    rw [addressValues, huse, haddress]
    exact if_congr hvalid rfl rfl
  rw [hvalues]
  exact hasValues_createImmutableBeaconData ..

/-! ## Every run -/

/-- What is known of a chunk that is not empty: its pairs with an address are those of its beacon. -/
def HasAddress (clientIPAddress : BeaconKey → Option (List UInt8)) (chunk : BeaconChunk) : Prop :=
  valuesOf keyClientIPAddress chunk.text = addressValues (clientIPAddress chunk.key)

variable {clientIPAddress : BeaconKey → Option (List UInt8)}

/-- The invariant of a run. -/
abbrev Addressed (clientIPAddress : BeaconKey → Option (List UInt8)) : World → Prop :=
  RequestTexts HasNoAddress
    (fun k => HasValues keyClientIPAddress (addressValues (clientIPAddress k))) (HasAddress clientIPAddress)

/-- **The other threads** keep the invariant. -/
theorem stable_addressed : Stable (AddressStep clientIPAddress) (Addressed clientIPAddress) := by
  intro w w' hstep h
  cases hstep with
  | create k beacon hbeacon =>
    refine ⟨h.cached, fun k' => ?_, h.requested⟩
    have hsession : (w.updateSession k fun _ => .new beacon).session k' = _ :=
      World.session_updateSession ..
    show HasValues _ _ ((w.updateSession k fun _ => .new beacon).session k').beacon.immutableBasicBeaconData
    rw [hsession]
    split
    next hk => exact hk ▸ hasValues_of_isConstructed hbeacon
    next => exact h.immutable k'
  | other _ hpayload hcreated _ =>
    refine ⟨hpayload.cached (fun text => hasNoAddress_of_builtOf) h.cached, fun k => ?_,
      hpayload.requests_eq ▸ h.requested⟩
    rcases hpayload.immutable_cases k with hsame | ⟨hnew, -⟩
    · exact hsame ▸ h.immutable k
    · exact absurd hcreated hnew

/-- A chunk has the pairs of its prefix. -/
theorem takesChunks_hasAddress {env : Environment}
    (hmutable : ∀ k n, HasValues keyClientIPAddress [] (env.mutableBeaconData k n)) :
    BeaconSend.TakesChunks HasNoAddress
      (fun k => HasValues keyClientIPAddress (addressValues (clientIPAddress k)))
      (HasAddress clientIPAddress) env := by
  rintro c k _ maxSize hcached ⟨basicData, n, hbasic, rfl⟩ hne
  have hprefix : HasValues keyClientIPAddress (addressValues (clientIPAddress k) ++ [])
      ((basicData.concatenate BeaconSend.beaconDataDelimiter).concatenate (env.mutableBeaconData k n)) :=
    hbasic.join (hmutable k n)
  rw [List.append_nil] at hprefix
  rw [HasAddress, BeaconCache.getNextBeaconChunk_fst, BeaconCacheEntry.getChunk]
  rw [BeaconCache.getNextBeaconChunk_fst, BeaconCacheEntry.getChunk] at hne
  split
  next hdata =>
    -- without data there is no chunk
    rw [if_pos hdata] at hne
    cases hne
  next =>
    rw [BeaconCacheEntry.getNextChunk_fst, valuesOf_appendRecords fun r hr =>
      (hcached k).beingSent r (List.mem_of_mem_take hr), ← hprefix.values]
    rw [valuesOf, UTF8String.concatenate_data hprefix.consistent]
    rfl

section Run

variable {response : ℕ → Option StatusResponse} {input : BeaconKey → ℕ → MutableBeaconInput}
  {beacon : BeaconKey → Beacon} {context : BeaconSendingContext} {rounds : ℕ} {ks : List BeaconKey}
  {w : World} {p : Sender (ForInStep (Option Answer))}

/-- **The payload** has a pair with the address if the address is accepted, in every request of a run. -/
theorem values_of_reaches (hbeacon : ∀ k, IsConstructed (clientIPAddress k) (beacon k))
    (h : Program.Reaches (AddressStep clientIPAddress)
      (BeaconSend.sendEach ⟨response, fun k n => getMutableBeaconData (input k n)⟩ rounds ks,
        World.new (fun k => .new (beacon k)) context) (p, w)) :
    ∀ request ∈ requests w.log, HasAddress clientIPAddress request.1 := by
  have hchunks : BeaconSend.TakesChunks HasNoAddress
      (fun k => HasValues keyClientIPAddress (addressValues (clientIPAddress k)))
      (HasAddress clientIPAddress) ⟨response, fun k n => getMutableBeaconData (input k n)⟩ :=
    takesChunks_hasAddress fun k n => hasValues_getMutableBeaconData _
  exact ((BeaconSend.sat_sendEach_requestTexts stable_addressed hchunks rounds ks
    (RequestTexts.new fun k => hasValues_of_isConstructed (hbeacon k))).invariant h).requested

/-- A beacon that was constructed has the address that was passed. -/
theorem IsConstructed.clientIPAddress_eq {clientIPAddress : Option (List UInt8)} {beacon : Beacon}
    (h : IsConstructed clientIPAddress beacon) :
    beacon.clientIPAddress = clientIPAddressOf clientIPAddress := by
  obtain ⟨openKitConfiguration, beaconConfiguration, initializer, -, haddress, hok⟩ := h
  rw [← haddress]
  rw [Beacon.constructValidated] at hok
  split at hok
  · cases hcheck : InetAddressValidator.isValidIP initializer.clientIPAddress with
    | error fault =>
      rw [hcheck] at hok
      cases hok
    | ok valid =>
      rw [hcheck] at hok
      rw [← Except.ok.inj hok]
      rfl
  · rw [← Except.ok.inj hok]
    rfl

/-- **The address of a beacon** is the one that was passed, at every point of a run. -/
theorem clientIPAddress_of_reaches (hbeacon : ∀ k, IsConstructed (clientIPAddress k) (beacon k))
    {env : Environment} (h : Program.Reaches (AddressStep clientIPAddress)
      (BeaconSend.sendEach env rounds ks, World.new (fun k => .new (beacon k)) context) (p, w))
    (k : BeaconKey) : (w.session k).beacon.clientIPAddress = clientIPAddressOf (clientIPAddress k) := by
  have hsends : Program.Guarantees (fun t t' : World => t'.sessions = t.sessions)
      (BeaconSend.sendEach env rounds ks) := by
    refine Program.guarantees_forEach (fun k _ _ => ?_) none
    have hsend : Program.Guarantees (fun t t' : World => t'.sessions = t.sessions)
        (BeaconSend.send env rounds k) := (BeaconSend.guarantees_send rounds).mono fun _ _ h => h.sessions
    exact hsend.bind fun _ => trivial
  refine (hsends.sat (I := fun t => ∀ k, (t.session k).beacon.clientIPAddress =
    clientIPAddressOf (clientIPAddress k)) ?_ ?_ fun k => (hbeacon k).clientIPAddress_eq).invariant h k
  · intro t t' hstep haddresses k
    cases hstep with
    | create k' beacon' hbeacon' =>
      have hsession : (t.updateSession k' fun _ => .new beacon').session k = _ :=
        World.session_updateSession ..
      show ((t.updateSession k' fun _ => .new beacon').session k).beacon.clientIPAddress = _
      rw [hsession]
      split
      next hk => exact hk ▸ hbeacon'.clientIPAddress_eq
      next => exact haddresses k
    | other _ _ _ hsame => exact (hsame k).trans (haddresses k)
  · intro t t' hsame haddresses k
    rw [World.session, hsame]
    exact haddresses k

/-- An accepted address is not empty. -/
theorem IsAccepted.isEmpty {clientIPAddress : Option (List UInt8)} (h : IsAccepted clientIPAddress) :
    (clientIPAddressOf clientIPAddress).isEmpty = false := by
  obtain ⟨stringData, rfl, hvalid⟩ := h
  rw [UTF8String.isEmpty_eq_false_iff]
  refine Nat.pos_of_ne_zero fun hlength => ?_
  have hempty : UTF8String.validateString stringData = .nil := by
    have hdata := UTF8String.consistent_validateString stringData hlength
    have heta : UTF8String.validateString stringData =
      ⟨(UTF8String.validateString stringData).data, (UTF8String.validateString stringData).stringLength⟩ := rfl
    rw [heta, hdata]
    exact congrArg (UTF8String.mk []) hlength
  rw [hempty] at hvalid
  exact absurd hvalid (by decide)

/-- **Only accepted addresses** are transmitted exactly by the requests of sessions whose address is
accepted or empty, or that have none. -/
theorem carriesIfAccepted_iff (hbeacon : ∀ k, IsConstructed (clientIPAddress k) (beacon k))
    (h : Program.Reaches (AddressStep clientIPAddress)
      (BeaconSend.sendEach ⟨response, fun k n => getMutableBeaconData (input k n)⟩ rounds ks,
        World.new (fun k => .new (beacon k)) context) (p, w)) :
    ∀ request ∈ requests w.log,
      CarriesIfAccepted (clientIPAddress request.1.key) (beaconRequest w request.1) ↔
        IsAccepted (clientIPAddress request.1.key) ∨
          (clientIPAddressOf (clientIPAddress request.1.key)).isEmpty = true := by
  intro request hrequest
  have hvalues := values_of_reaches hbeacon h request hrequest
  rw [HasAddress] at hvalues
  rw [CarriesIfAccepted, clientIPHeaders, beaconRequest, clientIPAddress_of_reaches hbeacon h, hvalues,
    addressValues]
  by_cases haccepted : IsAccepted (clientIPAddress request.1.key)
  · rw [haccepted.isEmpty, if_pos haccepted]
    exact iff_of_true ⟨fun _ => ⟨rfl, rfl⟩, fun hnot => absurd haccepted hnot⟩ (.inl haccepted)
  · rw [if_neg haccepted]
    cases hempty : (clientIPAddressOf (clientIPAddress request.1.key)).isEmpty with
    | true => exact iff_of_true ⟨fun hyes => absurd hyes haccepted, fun _ => ⟨rfl, rfl⟩⟩ (.inr rfl)
    | false =>
      refine iff_of_false (fun hcarries => ?_) fun hor => ?_
      · exact absurd (hcarries.2 haccepted).1 (List.cons_ne_nil _ _)
      · exact hor.elim haccepted Bool.false_ne_true

end Run

/-! ## A run with one event -/

/-- A beacon with an address, after its validation. -/
def oneBeacon (stringData : List UInt8) (valid : Bool) : Beacon :=
  .construct (fun _ => valid) ⟨⟨.ofAscii ['a'], 7⟩, .nil, .nil, .nil, .nil⟩
    (.new ⟨.userBehavior, .optInCrashes⟩) ⟨true, .validateString stringData, 1, 0, 0, 5, 10⟩

theorem isConstructed_oneBeacon {stringData : List UInt8} {valid : Bool}
    (h : InetAddressValidator.isValidIP (.validateString stringData) = .ok valid) :
    IsConstructed (some stringData) (oneBeacon stringData valid) := by
  refine ⟨⟨⟨.ofAscii ['a'], 7⟩, .nil, .nil, .nil, .nil⟩, .new ⟨.userBehavior, .optInCrashes⟩,
    ⟨true, .validateString stringData, 1, 0, 0, 5, 10⟩, rfl, rfl, ?_⟩
  rw [Beacon.constructValidated, if_pos rfl, h]
  rfl

/-- The data of the moment in this run. -/
def oneInput : MutableBeaconInput :=
  ⟨BeaconConfiguration.getServerConfiguration (.new ⟨.userBehavior, .optInCrashes⟩), 0, 20, 10,
    ⟨.nil, .nil, .unset, false, false, false⟩⟩

/-- Sending the data of this beacon. -/
def oneSend : Sender (ForInStep (Option Answer)) :=
  BeaconSend.sendEach ⟨fun _ => some ⟨.undefined, 200, 0⟩, fun _ _ => getMutableBeaconData oneInput⟩ 2
    [⟨1, 0⟩]

/-- The texts of the records of an event that was reported before. -/
def oneRecord (stringData : List UInt8) (valid : Bool) : List BeaconRecord :=
  (((BeaconCall.reportEvent 0 (.ofAscii ['e'])).perform ⟨3, fun _ => 15⟩).run
    ⟨.new (oneBeacon stringData valid), 0, []⟩).2.records

/-- The world in which the data is sent. -/
def oneWorld (stringData : List UInt8) (valid : Bool) : World :=
  (World.new (fun _ => .new (oneBeacon stringData valid)) (.new ⟨1, .nil⟩)).addData ⟨1, 0⟩ .event 15
    ((oneRecord stringData valid).head?.elim .nil (·.data))

/-- What is left is reached. -/
theorem reaches_oneSend {stringData : List UInt8} {valid : Bool}
    (hok : (oneSend.run (oneWorld stringData valid)).1.isOk = true)
    (hrecord : ⟨.event, 15, (oneRecord stringData valid).head?.elim .nil (·.data)⟩ ∈
      oneRecord stringData valid) :
    ∃ p, Program.Reaches (AddressStep fun _ => some stringData)
      (oneSend, World.new (fun _ => .new (oneBeacon stringData valid)) (.new ⟨1, .nil⟩))
      (p, (oneSend.run (oneWorld stringData valid)).2) := by
  have hreport := @AddressStep.other (fun _ => some stringData) _ _
    (.report (World.new (fun _ => .new (oneBeacon stringData valid)) (.new ⟨1, .nil⟩)) ⟨1, 0⟩
      ⟨3, fun _ => 15⟩ (.reportEvent 0 (.ofAscii ['e'])) _ 0 _ hrecord) rfl fun _ => rfl
  rcases hrun : oneSend.run (oneWorld stringData valid) with ⟨r, t⟩
  rw [hrun] at hok
  cases r with
  | error e => exact absurd hok Bool.false_ne_true
  | ok r => exact ⟨_, .head (.other _ hreport) (Program.reaches_of_run hrun)⟩

/-- The address of the machine itself is transmitted. -/
theorem carriesIfAccepted_loopback :
    let w := (oneSend.run (oneWorld [58, 58, 49] true)).2
    requests w.log ≠ [] ∧ ∀ request ∈ requests w.log,
      CarriesIfAccepted (some [58, 58, 49]) (beaconRequest w request.1) := by
  intro w
  have hvalid : InetAddressValidator.isValidIP (.validateString [58, 58, 49]) = .ok true := by
    decide
  obtain ⟨p, hreaches⟩ := @reaches_oneSend [58, 58, 49] true (by decide) (by decide)
  refine ⟨by decide, fun request hrequest => ?_⟩
  exact (carriesIfAccepted_iff (fun _ => isConstructed_oneBeacon hvalid) hreaches request
    hrequest).mpr (.inl ⟨_, rfl, hvalid⟩)

/-- A string with a line break is refused, and makes a header of its own. -/
theorem not_carriesIfAccepted_line_break :
    let stringData : List UInt8 := (UTF8String.ofAscii "1\r\nX: 1".toList).data
    let w := (oneSend.run (oneWorld stringData false)).2
    IsConstructed (some stringData) (oneBeacon stringData false) ∧
      (∃ p, Program.Reaches (AddressStep fun _ => some stringData)
        (oneSend, World.new (fun _ => .new (oneBeacon stringData false)) (.new ⟨1, .nil⟩)) (p, w)) ∧
      ∃ request ∈ requests w.log,
        clientIPHeaders (beaconRequest w request.1) =
            [(UTF8String.ofAscii "X-Client-IP: 1\r\nX: 1".toList).data] ∧
          ¬ CarriesIfAccepted (some stringData) (beaconRequest w request.1) := by
  intro stringData w
  have hrefused : InetAddressValidator.isValidIP (.validateString stringData) = .ok false := by
    decide
  have hlog : (requests w.log).head?.isSome = true := by decide
  obtain ⟨request, hrequest⟩ := Option.isSome_iff_exists.mp hlog
  obtain ⟨p, hreaches⟩ := @reaches_oneSend stringData false (by decide) (by decide)
  have hheaders : clientIPHeaders (beaconRequest w request.1) =
      [(UTF8String.ofAscii "X-Client-IP: 1\r\nX: 1".toList).data] := by
    rw [clientIPHeaders, beaconRequest,
      clientIPAddress_of_reaches (fun _ => isConstructed_oneBeacon hrefused) hreaches]
    show (if !(clientIPAddressOf (some stringData)).isEmpty then
      [clientIPHeaderName ++ (clientIPAddressOf (some stringData)).getStringData] else []) = _
    decide
  refine ⟨isConstructed_oneBeacon hrefused, ⟨p, hreaches⟩, request, List.mem_of_head? hrequest, hheaders,
    fun hcarries => ?_⟩
  have hnot : ¬ IsAccepted (some stringData) := by
    rintro ⟨_, hsame, haccepted⟩
    rw [← Option.some.inj hsame, hrefused] at haccepted
    cases haccepted
  rw [(hcarries.2 hnot).1] at hheaders
  cases hheaders

end ClientAddress

end OpenKit
