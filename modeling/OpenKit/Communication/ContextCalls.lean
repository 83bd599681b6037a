import OpenKit.Communication.CaptureOnState

/-!
# What the context takes over from responses

The context folds the successful responses it is given: it merges their attributes, makes its server
configuration from what it has merged, and follows that configuration's server id in its HTTP client
configuration. An error, and a call that disables capturing, only turns the capture flag off. What
the context keeps is stated here over all sequences of these calls, from the responses alone.

## Main definitions

* `ContextCall`: the calls on a context that change what it is configured with
* `World.afterContextCalls`: some of them, one after the other
* `successes`, `disabledSince`: the responses taken over, and whether a disable came after the last
* `lastValue`, `capturing`: an attribute and the capture flag, from the responses taken over
* `Folded`: what the context keeps after some calls
* `OnlyRealServerIDs`: the server id of the HTTP client is the configured one or one of a response

## Main results

* `folded_afterContextCalls`: the context keeps what the calls have given it
* `onlyRealServerIDs_iff`: when the server id of the HTTP client is real at every point
-/

namespace OpenKit

open Thread BeaconSendingResponseUtil

/-! ## Calls -/

/-- The calls that change what a context is configured with. -/
inductive ContextCall
  | updateFrom (response : Option Answer)
  | handleStatusResponse (response : Option Answer)
  | disableCaptureAndClear

namespace ContextCall

/-- The call on the context of the world. -/
def perform : ContextCall → Sender Unit
  | updateFrom response => .write fun w => w.setContext (w.context.updateFrom response).2
  | handleStatusResponse response => do
    let _ ← BeaconSendingContext.handleStatusResponse response
    return ()
  | disableCaptureAndClear => do
    let _ ← BeaconSendingContext.disableCaptureAndClear
    return ()

/-- The attributes that a call takes over: those of a successful response. -/
def success : ContextCall → Option ResponseAttributes
  | updateFrom (some answer) | handleStatusResponse (some answer) =>
    if isSuccessfulResponse (some answer) then some answer.response.responseAttributes else none
  | updateFrom none | handleStatusResponse none | disableCaptureAndClear => none

/-- A call that disables capturing. No response, and an erroneous one, disable it when handled. -/
def disables : ContextCall → Bool
  | updateFrom _ => false
  | handleStatusResponse response => !isSuccessfulResponse response
  | disableCaptureAndClear => true

end ContextCall

namespace World

/-- The world after a call on its context. -/
def afterContextCall (w : World) (call : ContextCall) : World := (call.perform.run w).2

/-- The world after some calls on its context. -/
def afterContextCalls (w : World) (calls : List ContextCall) : World :=
  calls.foldl afterContextCall w

theorem afterContextCalls_concat (w : World) (calls : List ContextCall) (call : ContextCall) :
    w.afterContextCalls (calls ++ [call]) = (w.afterContextCalls calls).afterContextCall call := by
  rw [afterContextCalls, List.foldl_append]
  rfl

end World

/-! ## What a call does to the configuration -/

namespace BeaconSendingContext

/-- Two states of a context that is configured alike. -/
structure SameConfiguration (c c' : BeaconSendingContext) : Prop where
  serverConfiguration : c'.serverConfiguration = c.serverConfiguration
  lastResponseAttributes : c'.lastResponseAttributes = c.lastResponseAttributes
  httpClientConfiguration : c'.httpClientConfiguration = c.httpClientConfiguration

theorem SameConfiguration.refl (c : BeaconSendingContext) : SameConfiguration c c := ⟨rfl, rfl, rfl⟩

theorem SameConfiguration.trans {c c' c'' : BeaconSendingContext} (h : SameConfiguration c c')
    (h' : SameConfiguration c' c'') : SameConfiguration c c'' :=
  ⟨h'.serverConfiguration.trans h.serverConfiguration,
    h'.lastResponseAttributes.trans h.lastResponseAttributes,
    h'.httpClientConfiguration.trans h.httpClientConfiguration⟩

/-- The context after a call, as to its configuration. -/
def configured (c : BeaconSendingContext) : ContextCall → BeaconSendingContext
  | .updateFrom response => (c.updateFrom response).2
  | .handleStatusResponse response =>
    if isSuccessfulResponse response then (c.updateFrom response).2 else c.disableCapture
  | .disableCaptureAndClear => c.disableCapture

/-- The context after a successful response with some attributes. -/
def takeOver (c : BeaconSendingContext) (attributes : ResponseAttributes) : BeaconSendingContext :=
  let merged := c.lastResponseAttributes.merge attributes
  let builder := ServerConfiguration.ofAttributes merged
  let config := if c.isApplicationIdMismatch merged then builder.withCapture false else builder
  { c with
    lastResponseAttributes := merged
    serverConfiguration := .made config
    httpClientConfiguration := { c.httpClientConfiguration with serverID := config.serverId } }

theorem updateFrom_of_success {answer : Answer} (h : isSuccessfulResponse (some answer) = true)
    (c : BeaconSendingContext) :
    c.updateFrom (some answer) =
      (c.lastResponseAttributes.merge answer.response.responseAttributes,
        c.takeOver answer.response.responseAttributes) := by
  rw [updateFrom, h, Bool.not_true, if_neg Bool.false_ne_true]
  rfl

theorem updateFrom_of_not_success {response : Option Answer}
    (h : isSuccessfulResponse response = false) (c : BeaconSendingContext) :
    c.updateFrom response = (c.lastResponseAttributes, c) := by
  cases response with
  | none => rfl
  | some answer => rw [updateFrom, h, Bool.not_false, if_pos rfl]

theorem configured_of_success {call : ContextCall} {attributes : ResponseAttributes}
    (h : call.success = some attributes) (c : BeaconSendingContext) :
    c.configured call = c.takeOver attributes := by
  rcases call with (_ | answer) | (_ | answer) | _
  · cases h
  · rw [ContextCall.success] at h
    split at h
    next hsuccess =>
      obtain rfl := Option.some.inj h
      rw [configured, updateFrom_of_success hsuccess]
    next => cases h
  · cases h
  · rw [ContextCall.success] at h
    split at h
    next hsuccess =>
      obtain rfl := Option.some.inj h
      rw [configured, if_pos hsuccess, updateFrom_of_success hsuccess]
    next => cases h
  · cases h

theorem configured_of_not_success {call : ContextCall} (h : call.success = none)
    (c : BeaconSendingContext) :
    c.configured call = if call.disables then c.disableCapture else c := by
  rcases call with (_ | answer) | (_ | answer) | _
  · rfl
  · rw [ContextCall.success] at h
    split at h
    next => cases h
    next hfail =>
      rw [configured, updateFrom_of_not_success (Bool.not_eq_true _ ▸ hfail)]
      rfl
  · rfl
  · rw [ContextCall.success] at h
    split at h
    next => cases h
    next hfail => rw [configured, if_neg hfail, ContextCall.disables, if_pos (by simpa using hfail)]
  · rfl

/-- Clearing the data of the sessions does not touch what the context is configured with. -/
theorem guarantees_clearAllSessionData :
    Program.Guarantees (fun w w' => w.context.SameConfiguration w'.context)
      clearAllSessionData := by
  refine (Program.guarantees_atomic fun w => .refl _).bind fun sessions => ?_
  refine Program.guarantees_forEach (fun k _ _ => ?_) ()
  refine Program.Guarantees.bind (Program.guarantees_atomic fun w => ⟨rfl, rfl, rfl⟩) fun _ => ?_
  refine (Program.guarantees_atomic fun w => .refl _).bind fun finished => ?_
  split
  · exact (Program.guarantees_atomic fun w => ⟨rfl, rfl, rfl⟩).bind fun _ => trivial
  · trivial

theorem sameConfiguration_clearAllSessionData (w : World) :
    w.context.SameConfiguration (clearAllSessionData.run w).2.context :=
  guarantees_clearAllSessionData.run (fun w => .refl w.context) (fun _ _ _ => .trans) rfl

end BeaconSendingContext

theorem sameConfiguration_disableCaptureAndClear (w : World) :
    w.context.disableCapture.SameConfiguration
      ((BeaconSendingContext.disableCaptureAndClear.run w).2).context := by
  rw [BeaconSendingContext.disableCaptureAndClear, Program.run_bind_ok (Program.run_write _ w)]
  exact BeaconSendingContext.sameConfiguration_clearAllSessionData (w.setContext _)

/-- **What a call does**: the context after it is configured as the call says. -/
theorem sameConfiguration_afterContextCall (w : World) (call : ContextCall) :
    (w.context.configured call).SameConfiguration (w.afterContextCall call).context := by
  cases call with
  | updateFrom response => exact .refl _
  | disableCaptureAndClear =>
    rw [World.afterContextCall, ContextCall.perform, Program.pure_eq, Program.run_bind_ret]
    exact sameConfiguration_disableCaptureAndClear w
  | handleStatusResponse response =>
    rw [World.afterContextCall, ContextCall.perform, Program.pure_eq, Program.run_bind_ret,
      BeaconSendingContext.handleStatusResponse, BeaconSendingContext.configured]
    cases hsuccess : isSuccessfulResponse response with
    | false =>
      rw [Bool.not_false, if_pos rfl, if_neg Bool.false_ne_true]
      exact sameConfiguration_disableCaptureAndClear w
    | true =>
      rw [Bool.not_true, if_neg Bool.false_ne_true, if_pos rfl,
        Program.run_bind_ok (Program.run_write _ w), Program.run_bind_ok (Program.run_read _ _)]
      -- the context is configured by now, and only clearing may follow
      split
      · exact BeaconSendingContext.sameConfiguration_clearAllSessionData (w.setContext _)
      · exact .refl _

/-! ## The responses taken over -/

/-- The attributes of the successful responses, in order. -/
def successes (calls : List ContextCall) : List ResponseAttributes :=
  calls.filterMap ContextCall.success

/-- Capturing was disabled after the last successful response. -/
def disabledSince (calls : List ContextCall) : Bool :=
  (calls.reverse.takeWhile (·.success.isNone)).any (·.disables)

/-- The last successful response that has set an attribute. -/
def lastSetting (attr : ResponseAttribute) (calls : List ContextCall) : Option ResponseAttributes :=
  LastWrite.lastSetting ResponseAttributes.isAttributeSet attr (successes calls)

/-- The value of an attribute in the last successful response that has set it, or its undefined
default. -/
def lastValue (attr : ResponseAttribute) (calls : List ContextCall) :
    ResponseAttributes.AttributeValue :=
  ((lastSetting attr calls).map (·.value attr)).getD (ResponseAttributes.undefined.value attr)

/-- The capture flag of the last successful response that has set it. -/
def lastCaptureFlag (calls : List ContextCall) : Bool :=
  ((lastSetting .isCapture calls).map (·.isCapture)).getD ResponseAttributes.undefined.isCapture

/-- The last application id that a successful response has set is another one. -/
def lastMismatch (applicationID : UTF8String) (calls : List ContextCall) : Bool :=
  (lastSetting .applicationId calls).any fun a => applicationID.data != a.applicationId.data

/-- The last capture flag, with no mismatch, unless capturing was disabled since. -/
def capturing (applicationID : UTF8String) (calls : List ContextCall) : Bool :=
  lastCaptureFlag calls && !lastMismatch applicationID calls && !disabledSince calls

section History

variable {calls : List ContextCall} {call : ContextCall} {attributes : ResponseAttributes}

theorem successes_concat_of_success (h : call.success = some attributes) :
    successes (calls ++ [call]) = successes calls ++ [attributes] := by
  rw [successes, List.filterMap_append, List.filterMap_cons_some h]
  rfl

theorem successes_concat_of_not_success (h : call.success = none) :
    successes (calls ++ [call]) = successes calls := by
  rw [successes, List.filterMap_append, List.filterMap_cons_none h]
  exact List.append_nil _

theorem disabledSince_concat_of_success (h : call.success = some attributes) :
    disabledSince (calls ++ [call]) = false := by
  rw [disabledSince, List.reverse_append, List.reverse_singleton, List.singleton_append,
    List.takeWhile_cons_of_neg (by simp [h])]
  rfl

theorem disabledSince_concat_of_not_success (h : call.success = none) :
    disabledSince (calls ++ [call]) = (call.disables || disabledSince calls) := by
  rw [disabledSince, List.reverse_append, List.reverse_singleton, List.singleton_append,
    List.takeWhile_cons_of_pos (by simp [h]), List.any_cons]
  rfl

end History

/-! ## The fold -/

/-- The attributes after some responses, merged one after the other. -/
def mergedAttributes (responses : List ResponseAttributes) : ResponseAttributes :=
  responses.foldl ResponseAttributes.merge .undefined

theorem isCapture_mergedAttributes (calls : List ContextCall) :
    (mergedAttributes (successes calls)).isCapture = lastCaptureFlag calls := by
  have h := ResponseAttributes.overrides_merge.value_foldl .undefined (successes calls) .isCapture
  rw [lastCaptureFlag, lastSetting]
  rcases hlast : LastWrite.lastSetting ResponseAttributes.isAttributeSet .isCapture
      (successes calls) with _ | attributes
  · rw [hlast] at h
    exact ResponseAttributes.AttributeValue.flag.inj h
  · rw [hlast] at h
    exact ResponseAttributes.AttributeValue.flag.inj h

theorem isApplicationIdMismatch_mergedAttributes (c : BeaconSendingContext)
    (calls : List ContextCall) :
    c.isApplicationIdMismatch (mergedAttributes (successes calls)) =
      lastMismatch c.httpClientConfiguration.applicationID calls := by
  have hvalue := ResponseAttributes.overrides_merge.value_foldl .undefined (successes calls)
    .applicationId
  have hset := ResponseAttributes.overrides_merge.isSet_foldl .undefined (successes calls)
    .applicationId
  rw [BeaconSendingContext.isApplicationIdMismatch, mergedAttributes, hset, lastMismatch,
    lastSetting]
  rcases hlast : LastWrite.lastSetting ResponseAttributes.isAttributeSet .applicationId
      (successes calls) with _ | attributes
  · -- no response has set an application id
    have hnone := LastWrite.lastSetting_eq_none.mp hlast
    have hany : (successes calls).any (·.isAttributeSet .applicationId) = false :=
      List.any_eq_false.mpr fun a ha => by simp [hnone a ha]
    rw [hany]
    rfl
  · obtain ⟨hmem, hisSet⟩ := LastWrite.isSet_of_lastSetting hlast
    have hany : (successes calls).any (·.isAttributeSet .applicationId) = true :=
      List.any_eq_true.mpr ⟨attributes, hmem, hisSet⟩
    rw [hlast] at hvalue
    rw [hany, Bool.or_true, if_pos rfl, ResponseAttributes.AttributeValue.text.inj hvalue]
    rfl

/-- What a context keeps after some calls, starting out with an HTTP client configuration. -/
structure Tracks (http : HTTPClientConfiguration) (calls : List ContextCall)
    (c : BeaconSendingContext) : Prop where
  lastResponseAttributes : c.lastResponseAttributes = mergedAttributes (successes calls)
  applicationID : c.httpClientConfiguration.applicationID = http.applicationID
  serverID_of_nil : successes calls = [] → c.httpClientConfiguration.serverID = http.serverID
  serverId : successes calls ≠ [] →
    c.serverConfiguration.get.serverId = c.lastResponseAttributes.serverId ∧
    c.httpClientConfiguration.serverID = c.lastResponseAttributes.serverId
  isCaptureOn : c.isCaptureOn = capturing http.applicationID calls

namespace Tracks

variable {http : HTTPClientConfiguration} {calls : List ContextCall} {c c' : BeaconSendingContext}

theorem new (http : HTTPClientConfiguration) : Tracks http [] (.new http) :=
  ⟨rfl, rfl, fun _ => rfl, fun h => absurd rfl h, rfl⟩

theorem congr (h : Tracks http calls c) (hc : c.SameConfiguration c') : Tracks http calls c' := by
  obtain ⟨hconfig, hattributes, hhttp⟩ := hc
  constructor
  · rw [hattributes, h.lastResponseAttributes]
  · rw [hhttp, h.applicationID]
  · intro hnil
    rw [hhttp, h.serverID_of_nil hnil]
  · intro hsome
    rw [hconfig, hattributes, hhttp]
    exact h.serverId hsome
  · rw [BeaconSendingContext.isCaptureOn, hconfig]
    exact h.isCaptureOn

/-- A successful response is merged, and the configurations are made from what is merged. -/
theorem takeOver (h : Tracks http calls c) {call : ContextCall} {attributes : ResponseAttributes}
    (hcall : call.success = some attributes) :
    Tracks http (calls ++ [call]) (c.takeOver attributes) := by
  have hsuccesses : successes (calls ++ [call]) = successes calls ++ [attributes] :=
    successes_concat_of_success hcall
  have hmerged : c.lastResponseAttributes.merge attributes =
      mergedAttributes (successes (calls ++ [call])) := by
    rw [hsuccesses, mergedAttributes, List.foldl_append, h.lastResponseAttributes]
    rfl
  have hserverId : (c.takeOver attributes).serverConfiguration.get.serverId =
      (c.lastResponseAttributes.merge attributes).serverId := by
    show (ite _ _ _ : ServerConfiguration).serverId = _
    split <;> rfl
  refine ⟨hmerged, h.applicationID, fun hnil => ?_, fun _ => ⟨hserverId, hserverId⟩, ?_⟩
  · rw [hsuccesses] at hnil
    exact absurd hnil (List.append_ne_nil_of_right_ne_nil _ (List.cons_ne_nil _ _))
  · rw [capturing, disabledSince_concat_of_success hcall, Bool.not_false, Bool.and_true,
      ← isCapture_mergedAttributes, ← h.applicationID, ← isApplicationIdMismatch_mergedAttributes c,
      ← hmerged]
    show (ite _ _ _ : ServerConfiguration).captureEnabled = _
    split
    next hmismatch =>
      rw [hmismatch, Bool.not_true, Bool.and_false]
      rfl
    next hmatch =>
      rw [Bool.not_eq_true] at hmatch
      rw [hmatch, Bool.not_false, Bool.and_true]
      rfl

/-- Any other call leaves all but the capture flag, which it may turn off. -/
theorem unsuccessful (h : Tracks http calls c) {call : ContextCall} (hcall : call.success = none) :
    Tracks http (calls ++ [call]) (if call.disables then c.disableCapture else c) := by
  have hsuccesses : successes (calls ++ [call]) = successes calls :=
    successes_concat_of_not_success hcall
  have hlast (attr : ResponseAttribute) : lastSetting attr (calls ++ [call]) =
      lastSetting attr calls := by rw [lastSetting, hsuccesses, lastSetting]
  have hsince : disabledSince (calls ++ [call]) = (call.disables || disabledSince calls) :=
    disabledSince_concat_of_not_success hcall
  cases hdisables : call.disables with
  | true =>
    rw [if_pos rfl]
    refine ⟨?_, h.applicationID, ?_, ?_, ?_⟩
    · rw [hsuccesses]
      exact h.lastResponseAttributes
    · rw [hsuccesses]
      exact h.serverID_of_nil
    · rw [hsuccesses]
      exact h.serverId
    · rw [capturing, hsince, hdisables, Bool.true_or, Bool.not_true, Bool.and_false]
      rfl
  | false =>
    rw [if_neg Bool.false_ne_true]
    refine ⟨?_, h.applicationID, ?_, ?_, ?_⟩
    · rw [hsuccesses]
      exact h.lastResponseAttributes
    · rw [hsuccesses]
      exact h.serverID_of_nil
    · rw [hsuccesses]
      exact h.serverId
    · rw [capturing, hsince, hdisables, Bool.false_or, lastCaptureFlag, lastMismatch, hlast, hlast]
      exact h.isCaptureOn

theorem configured (h : Tracks http calls c) (call : ContextCall) :
    Tracks http (calls ++ [call]) (c.configured call) := by
  rcases hcall : call.success with _ | attributes
  · rw [BeaconSendingContext.configured_of_not_success hcall]
    exact h.unsuccessful hcall
  · rw [BeaconSendingContext.configured_of_success hcall]
    exact h.takeOver hcall

end Tracks

/-- The world before the calls: any, with a new context that has some sessions. -/
def World.withNewContext (w : World) (http : HTTPClientConfiguration) (keys : List BeaconKey) :
    World :=
  w.setContext { BeaconSendingContext.new http with sessions := keys }

/-- **The run**: after any calls the context keeps what they say. -/
theorem tracks_afterContextCalls (w : World) (http : HTTPClientConfiguration)
    (keys : List BeaconKey) (calls : List ContextCall) :
    Tracks http calls ((w.withNewContext http keys).afterContextCalls calls).context := by
  induction calls using List.reverseRecOn with
  | nil => exact (Tracks.new http).congr ⟨rfl, rfl, rfl⟩
  | append_singleton calls call ih =>
    rw [World.afterContextCalls_concat]
    exact (ih.configured call).congr (sameConfiguration_afterContextCall _ call)

/-- What the context says after some calls, in terms of the responses. -/
structure Folded (http : HTTPClientConfiguration) (calls : List ContextCall)
    (c : BeaconSendingContext) : Prop where
  value : ∀ attr, c.lastResponseAttributes.value attr = lastValue attr calls
  isAttributeSet : ∀ attr, c.lastResponseAttributes.isAttributeSet attr = true ↔
    ∃ attributes ∈ successes calls, attributes.isAttributeSet attr = true
  serverID : successes calls ≠ [] →
    c.httpClientConfiguration.serverID = c.serverConfiguration.get.serverId
  isCaptureOn : c.isCaptureOn = capturing http.applicationID calls

/-- **Response folding**: after any calls on a context, each attribute is that of the last successful
response that has set it, and the two configurations made from the attributes follow them. -/
theorem folded_afterContextCalls (w : World) (http : HTTPClientConfiguration)
    (keys : List BeaconKey) (calls : List ContextCall) :
    Folded http calls ((w.withNewContext http keys).afterContextCalls calls).context := by
  have h := tracks_afterContextCalls w http keys calls
  constructor
  · intro attr
    rw [h.lastResponseAttributes, mergedAttributes,
      ResponseAttributes.overrides_merge.value_foldl]
    rfl
  · intro attr
    rw [h.lastResponseAttributes, mergedAttributes,
      ResponseAttributes.overrides_merge.isSet_foldl]
    show (false || _) = true ↔ _
    rw [Bool.false_or, List.any_eq_true]
  · intro hsome
    obtain ⟨hconfig, hhttp⟩ := h.serverId hsome
    rw [hconfig, hhttp]
  · exact h.isCaptureOn

/-! ## Server ids -/

/-- The server id of the HTTP client is the configured one, or one that a response has set. -/
def RealServerID (http : HTTPClientConfiguration) (calls : List ContextCall)
    (c : BeaconSendingContext) : Prop :=
  c.httpClientConfiguration.serverID = http.serverID ∨
    ∃ attributes ∈ successes calls, attributes.isAttributeSet .serverId = true ∧
      c.httpClientConfiguration.serverID = attributes.serverId

/-- It is real after each of the calls. -/
def OnlyRealServerIDs (http : HTTPClientConfiguration) (calls : List ContextCall) (w : World) :
    Prop :=
  ∀ earlier, earlier <+: calls → RealServerID http earlier (w.afterContextCalls earlier).context

/-- The server id of the merged attributes is that of the last response that has set it, and a
placeholder if none has. -/
theorem serverId_mergedAttributes (responses : List ResponseAttributes) :
    (mergedAttributes responses).serverId =
      ((LastWrite.lastSetting ResponseAttributes.isAttributeSet .serverId responses).map
        (·.serverId)).getD ResponseAttributes.undefined.serverId := by
  have h := ResponseAttributes.overrides_merge.value_foldl .undefined responses .serverId
  rcases hlast : LastWrite.lastSetting ResponseAttributes.isAttributeSet .serverId responses with
    _ | attributes
  · rw [hlast] at h
    exact ResponseAttributes.AttributeValue.number.inj h
  · rw [hlast] at h
    exact ResponseAttributes.AttributeValue.number.inj h

/-- **Real server ids**: the HTTP client has real server ids only, exactly if the first successful
response sets one, or the configured one is the placeholder. -/
theorem onlyRealServerIDs_iff (w : World) (http : HTTPClientConfiguration) (keys : List BeaconKey)
    (calls : List ContextCall) :
    OnlyRealServerIDs http calls (w.withNewContext http keys) ↔
      http.serverID = ResponseAttributes.undefined.serverId ∨
        ∀ first, (successes calls).head? = some first → first.isAttributeSet .serverId = true := by
  constructor
  · intro h
    by_cases hdefault : http.serverID = ResponseAttributes.undefined.serverId
    · exact .inl hdefault
    · refine .inr fun first hfirst => ?_
      -- the calls up to the first successful response
      obtain ⟨rest, hrest⟩ := List.head?_eq_some_iff.mp hfirst
      obtain ⟨earlier, call, later, rfl, hnone, hcall, -⟩ := List.filterMap_eq_cons_iff.mp hrest
      have hsuccesses : successes (earlier ++ [call]) = [first] := by
        rw [successes_concat_of_success hcall, successes, List.filterMap_eq_nil_iff.mpr hnone]
        rfl
      have htracks := tracks_afterContextCalls w http keys (earlier ++ [call])
      have hid := (htracks.serverId (by rw [hsuccesses]; exact List.cons_ne_nil _ _)).2
      rw [htracks.lastResponseAttributes, hsuccesses, serverId_mergedAttributes] at hid
      by_contra hunset
      have hlast : LastWrite.lastSetting ResponseAttributes.isAttributeSet .serverId [first] =
          none := LastWrite.lastSetting_eq_none.mpr (by simpa using hunset)
      rw [hlast] at hid
      rcases h (earlier ++ [call]) ⟨later, by simp⟩ with hreal | ⟨attributes, hmem, hset, -⟩
      · exact hdefault (hreal.symm.trans hid)
      · rw [hsuccesses, List.mem_singleton] at hmem
        exact hunset (hmem ▸ hset)
  · intro h earlier hprefix
    have htracks := tracks_afterContextCalls w http keys earlier
    rcases hsuccesses : successes earlier with _ | ⟨first, rest⟩
    · exact .inl (htracks.serverID_of_nil hsuccesses)
    · have hid := (htracks.serverId (by rw [hsuccesses]; exact List.cons_ne_nil _ _)).2
      rw [htracks.lastResponseAttributes, serverId_mergedAttributes] at hid
      rcases hlast : LastWrite.lastSetting ResponseAttributes.isAttributeSet .serverId
          (successes earlier) with _ | attributes
      · -- no response so far has set the id, in particular not the first
        rw [hlast] at hid
        rcases h with hdefault | hfirst
        · exact .inl (hid.trans hdefault.symm)
        · obtain ⟨later, rfl⟩ := hprefix
          have hhead : (successes (earlier ++ later)).head? = some first := by
            rw [successes, List.filterMap_append, ← successes, hsuccesses]
            rfl
          have hunset := LastWrite.lastSetting_eq_none.mp hlast first
            (by rw [hsuccesses]; exact List.mem_cons_self)
          exact absurd ((hfirst first hhead).symm.trans hunset) Bool.true_eq_false.mp
      · rw [hlast] at hid
        obtain ⟨hmem, hset⟩ := LastWrite.isSet_of_lastSetting hlast
        exact .inr ⟨attributes, hmem, hset, hid⟩

/-- A successful response that only says that capturing is on. -/
def captureOnAnswer : Answer :=
  ⟨0, ResponseAttributes.undefined.withCapture true, 200, 0⟩

/-- The default server id is replaced by the placeholder, by a response that leaves it out. -/
theorem not_onlyRealServerIDs : ¬ ∀ (w : World) (http : HTTPClientConfiguration)
    (keys : List BeaconKey) (calls : List ContextCall),
    OnlyRealServerIDs http calls (w.withNewContext http keys) := by
  intro h
  have hreal := h (.new (fun _ => .new (.new (.new ⟨.off, .off⟩) 0 0 .nil)) (.new ⟨1, .nil⟩))
    ⟨1, .nil⟩ [] [.handleStatusResponse (some captureOnAnswer)] _ List.prefix_rfl
  rcases hreal with hdefault | ⟨attributes, hmem, hset, -⟩
  · exact absurd hdefault (by decide)
  · have hattributes : isSuccessfulResponse (some captureOnAnswer) = true ∧
        captureOnAnswer.response.responseAttributes = attributes := by
      simpa [successes, ContextCall.success] using hmem
    rw [← hattributes.2] at hset
    exact absurd hset (by decide)

end OpenKit
