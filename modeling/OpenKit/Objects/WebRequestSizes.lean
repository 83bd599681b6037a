import OpenKit.Objects.ClosingObjects
import OpenKit.Objects.WebRequestTag
import OpenKit.Protocol.ReportNumbers

/-!
# The sizes of web requests

The numbers of bytes sent and received are set, and kept, as 64-bit numbers. They are converted to
`int32_t` when the web request is reported, so that only some of them are in its record.

## Main definitions

* `SizeCall`: the setters of the sizes, with the widths of their arguments
* `Survives`: what a record should have of a size
* `Fits`: the conversion does no harm

## Main results

* `object_afterCalls_sizeCalls`: the last value set is kept
* `survives_stop_iff`: when the record of a web request has its sizes
-/

namespace OpenKit

open Thread EventData BeaconReports HeapCalls SessionHeap

/-! ## The setters -/

/-- The sizes of a web request. -/
inductive WebRequestSize
  | bytesSent
  | bytesReceived
deriving DecidableEq, Repr

/-- The setters: two of each name, for two widths. -/
inductive SizeCall
  | setBytesSentInt32 (bytesSent : Int32)
  | setBytesSent (bytesSent : Int64)
  | setBytesReceivedInt32 (bytesReceived : Int32)
  | setBytesReceived (bytesReceived : Int64)

namespace SizeCall

/-- The narrow setters call the wide ones. -/
def toObjectCall : SizeCall → ObjectCall
  | setBytesSentInt32 bytesSent => .setBytesSent bytesSent.toInt64.toInt
  | setBytesSent bytesSent => .setBytesSent bytesSent.toInt
  | setBytesReceivedInt32 bytesReceived => .setBytesReceived bytesReceived.toInt64.toInt
  | setBytesReceived bytesReceived => .setBytesReceived bytesReceived.toInt

/-- The size that is set. -/
def size : SizeCall → WebRequestSize
  | setBytesSentInt32 _ => .bytesSent
  | setBytesSent _ => .bytesSent
  | setBytesReceivedInt32 _ => .bytesReceived
  | setBytesReceived _ => .bytesReceived

/-- The value that it is set to. -/
def value : SizeCall → ℤ
  | setBytesSentInt32 bytesSent => bytesSent.toInt
  | setBytesSent bytesSent => bytesSent.toInt
  | setBytesReceivedInt32 bytesReceived => bytesReceived.toInt
  | setBytesReceived bytesReceived => bytesReceived.toInt

/-- The last value that a size is set to, or the one it has. -/
def lastValue (size : WebRequestSize) (initial : ℤ) (calls : List SizeCall) : ℤ :=
  (((calls.filter fun call => call.size = size).getLast?).map value).getD initial

theorem lastValue_concat (size : WebRequestSize) (initial : ℤ) (calls : List SizeCall)
    (call : SizeCall) : lastValue size initial (calls ++ [call]) =
      if call.size = size then call.value else lastValue size initial calls := by
  rw [lastValue, List.filter_append]
  by_cases h : call.size = size
  · have hone : [call].filter (fun call => call.size = size) = [call] :=
      List.filter_cons_of_pos (decide_eq_true h)
    rw [if_pos h, hone, List.getLast?_concat]
    rfl
  · have hnone : [call].filter (fun call => call.size = size) = [] := by simpa using h
    rw [if_neg h, hnone, List.append_nil]
    rfl

/-- The tracer after some setters. -/
def applied (tracer : WebRequestTracer) (calls : List SizeCall) : WebRequestTracer :=
  { tracer with
    bytesSent := lastValue .bytesSent tracer.bytesSent calls
    bytesReceived := lastValue .bytesReceived tracer.bytesReceived calls }

end SizeCall

section Setters

variable {clock : ℕ → ℕ} {caller : Caller} {s : SessionHeap} {r : ObjectRef} {parent : ObjectParent}
  {tracer : WebRequestTracer}

theorem run_whenNotStopped {body : HeapProgram Unit} (hnode : s.object r = .webRequest parent tracer)
    (hopen : tracer.isStopped = false) : (whenNotStopped r body).run s = body.run s := by
  rw [whenNotStopped, Program.run_bind_ok (Program.run_read _ s), hnode]
  dsimp only
  rw [hopen, if_neg Bool.false_ne_true]

/-- The call reaches the web request. -/
theorem afterCall_onObject (hr : r < s.objects.size) (call : ObjectCall) :
    s.afterCall caller (.onObject r call) = ((performObjectCall caller s.fuel r call).run s).2 := by
  rw [afterCall, HeapCall.perform, Program.run_bind_ok (Program.run_read _ s),
    if_pos (decide_eq_true hr)]

variable (caller) in
/-- **A setter** changes the size alone. -/
theorem afterCall_sizeCall (hr : r < s.objects.size) (hnode : s.object r = .webRequest parent tracer)
    (hopen : tracer.isStopped = false) (call : SizeCall) :
    (s.afterCall caller (.onObject r call.toObjectCall)).object r =
        .webRequest parent (SizeCall.applied tracer [call]) ∧
      (s.afterCall caller (.onObject r call.toObjectCall)).objects.size = s.objects.size := by
  rw [afterCall_onObject hr]
  cases call with
  | setBytesSentInt32 bytesSent =>
    rw [SizeCall.toObjectCall, performObjectCall, run_whenNotStopped hnode hopen, Program.run_write]
    refine ⟨?_, rfl⟩
    rw [object_updateObject_self, hnode, Int32.toInt_toInt64]
    rfl
  | setBytesSent bytesSent =>
    rw [SizeCall.toObjectCall, performObjectCall, run_whenNotStopped hnode hopen, Program.run_write]
    refine ⟨?_, rfl⟩
    rw [object_updateObject_self, hnode]
    rfl
  | setBytesReceivedInt32 bytesReceived =>
    rw [SizeCall.toObjectCall, performObjectCall, run_whenNotStopped hnode hopen, Program.run_write]
    refine ⟨?_, rfl⟩
    rw [object_updateObject_self, hnode, Int32.toInt_toInt64]
    rfl
  | setBytesReceived bytesReceived =>
    rw [SizeCall.toObjectCall, performObjectCall, run_whenNotStopped hnode hopen, Program.run_write]
    refine ⟨?_, rfl⟩
    rw [object_updateObject_self, hnode]
    rfl

/-- The setters as calls of the session, each by a thread. -/
def sizeCalls (r : ObjectRef) (calls : List (ℤ × SizeCall)) : List (ℤ × HeapCall) :=
  calls.map fun call => (call.1, .onObject r call.2.toObjectCall)

variable (clock) in
/-- **The last value set** is kept. -/
theorem object_afterCalls_sizeCalls (hr : r < s.objects.size)
    (hnode : s.object r = .webRequest parent tracer) (hopen : tracer.isStopped = false)
    (calls : List (ℤ × SizeCall)) :
    (s.afterCalls clock (sizeCalls r calls)).object r =
        .webRequest parent (SizeCall.applied tracer (calls.map Prod.snd)) ∧
      (s.afterCalls clock (sizeCalls r calls)).objects.size = s.objects.size := by
  induction calls using List.reverseRecOn with
  | nil => exact ⟨hnode, rfl⟩
  | append_singleton calls call ih =>
    obtain ⟨hnode', hsize⟩ := ih
    have hrun : s.afterCalls clock (sizeCalls r (calls ++ [call])) =
        (s.afterCalls clock (sizeCalls r calls)).afterCall ⟨call.1, clock⟩
          (.onObject r call.2.toObjectCall) := by
      rw [sizeCalls, List.map_append, afterCalls, List.foldl_append]
      rfl
    obtain ⟨hnode'', hsize'⟩ := afterCall_sizeCall ⟨call.1, clock⟩ (hsize ▸ hr) hnode' hopen
      call.2
    rw [hrun]
    refine ⟨?_, hsize'.trans hsize⟩
    rw [hnode'', List.map_append, List.map_singleton]
    congr 1
    rw [SizeCall.applied, SizeCall.applied, SizeCall.applied, SizeCall.lastValue_concat,
      SizeCall.lastValue_concat]
    cases call.2 <;> rfl

end Setters

/-! ## The record -/

/-- The conversion does no harm: what is not negative is kept, and what is negative stays so. -/
def Fits (value : ℤ) : Prop := if 0 ≤ value then value < 2 ^ 31 else toInt32 value < 0

namespace WebRequestSize

def key : WebRequestSize → UTF8String
  | bytesSent => keyWebrequestBytesSent
  | bytesReceived => keyWebrequestBytesReceived

/-- The size that a web request has. -/
def valueOf : WebRequestSize → WebRequestTracer → ℤ
  | bytesSent, tracer => tracer.bytesSent
  | bytesReceived, tracer => tracer.bytesReceived

end WebRequestSize

/-- **What a record should have of a size**: one pair with the value, unless it is negative. -/
def Survives (size : WebRequestSize) (value : ℤ) (text : UTF8String) : Prop :=
  valuesOf size.key text = if 0 ≤ value then [decimal value] else []

section Records

variable {caller : Caller} {r : Reporting} {record : BeaconRecord}

/-- **The sizes in the record** of a web request are the converted ones. -/
theorem valuesOf_addWebRequest {parentActionID : ℤ} {tracer : WebRequestTracer}
    (h : record ∈ ((addWebRequest caller parentActionID tracer).run r).2.records.drop r.records.length)
    (size : WebRequestSize) :
    valuesOf size.key record.data =
      if toInt32 (size.valueOf tracer) > -1 then [decimal (toInt32 (size.valueOf tracer))] else [] := by
  have hnothing (p : Prop) (h : record ∈ r.records.drop r.records.length) : p := by
    rw [List.drop_length] at h
    cases h
  rcases run_requireNonEmpty_bind_snd (r := r) tracer.url _ with hrun | hrun
  · rw [BeaconReports.addWebRequest, hrun] at h
    exact hnothing _ h
  · rw [BeaconReports.addWebRequest, hrun] at h
    rcases run_report_snd (r := r) (·.isWebRequestTracingAllowed) (·.isDataCapturingEnabled) with hrun | hrun
    · rw [hrun] at h
      exact hnothing _ h
    · have htime : (timeSinceSessionStart tracer.startTime).run r =
          (.ok (r.beacon.getTimeSinceSessionStartTime tracer.startTime), r) := rfl
      rw [hrun, Program.run_bind_ok htime] at h
      rw [mem_drop_addData h]
      have hkey : IsKey size.key := by cases size <;> decide
      have hother (key : UTF8String) (hkeys : key ∈ [keyParentActionID, keyStartSequenceNumber, keyTime0,
          keyEndSequenceNumber, keyTime1, keyWebrequestResponseCode]) :
          IsKey key ∧ key.data ≠ size.key.data := by
        revert key
        cases size <;> decide
      have hbase : HasValues size.key [] (createBasicEventData caller.threadID .webRequest tracer.url) :=
        hasValues_createBasicEventData hkey (by cases size <;> decide) _ _ _
      have hparent := hother keyParentActionID (by simp)
      have hstart := hother keyStartSequenceNumber (by simp)
      have htime0 := hother keyTime0 (by simp)
      have hend := hother keyEndSequenceNumber (by simp)
      have htime1 := hother keyTime1 (by simp)
      have hcode := hother keyWebrequestResponseCode (by simp)
      have hfirst := ((((hbase.addOther hkey hparent.1 hparent.2
        (toInvariantString parentActionID)).addOther hkey hstart.1 hstart.2
        (toInvariantString tracer.startSequenceNo)).addOther hkey htime0.1 htime0.2 (toInvariantString
        (r.beacon.getTimeSinceSessionStartTime tracer.startTime))).addOther hkey hend.1 hend.2
        (toInvariantString tracer.endSequenceNo)).addOther hkey htime1.1 htime1.2
        (toInvariantString (tracer.endTime - tracer.startTime))
      -- the pair of the size itself, and that of the other one
      cases size with
      | bytesSent =>
        exact (((hfirst.addIfPresent hkey _).addOtherIfPresent hkey (by decide) (by decide)
          _).addOtherIfPresent hkey hcode.1 hcode.2 _).values
      | bytesReceived =>
        exact (((hfirst.addOtherIfPresent hkey (by decide) (by decide) _).addIfPresent hkey
          _).addOtherIfPresent hkey hcode.1 hcode.2 _).values

end Records

/-- A size survives the conversion exactly if it fits. -/
theorem converted_eq_iff (value : ℤ) :
    (if toInt32 value > -1 then [decimal (toInt32 value)] else []) =
        (if 0 ≤ value then [decimal value] else []) ↔ Fits value := by
  rw [Fits]
  by_cases hvalue : 0 ≤ value
  · rw [if_pos hvalue, if_pos hvalue]
    constructor
    · intro h
      split at h
      · have hsame := toInvariantString_injective (List.cons.inj h).1
        unfold toInt32 at hsame
        omega
      · cases h
    · intro h
      rw [toInt32_of_mem (by omega) h, if_pos (by omega)]
  · rw [if_neg hvalue, if_neg hvalue]
    constructor
    · intro h
      split at h
      · cases h
      · omega
    · intro h
      rw [if_neg (by omega)]

/-! ## Stopping -/

section Stop

variable {clock : ℕ → ℕ} {caller : Caller} {s : SessionHeap} {r : ObjectRef} {parent : ObjectParent}
  {tracer : WebRequestTracer} {record : BeaconRecord}

/-- The end of a session adds its own record at most. -/
theorem records_endSession (fuel : ℕ) (hchildren : s.children = []) :
    ∃ new, ((HeapCalls.endSession caller true fuel).run s).2.reporting.records =
        s.reporting.records ++ new ∧ ∀ record ∈ new, HasEventType .sessionEnd record.data := by
  have hnothing : ∃ new, s.reporting.records = s.reporting.records ++ new ∧
      ∀ record ∈ new, HasEventType .sessionEnd record.data :=
    ⟨[], (List.append_nil _).symm, List.forall_mem_nil _⟩
  cases fuel with
  | zero => exact hnothing
  | succ fuel =>
    rw [HeapCalls.endSession, Program.run_bind_ok (Program.run_read _ s)]
    split
    · exact hnothing
    · let s₁ := s.setSession { s.reporting.session with isSessionFinishing := true }
      have hreturns : (BeaconReports.endSession caller).Returns := returns_endSession
      obtain ⟨_, after, hreport⟩ := hreturns.run s₁.reporting
      have hstep : ReportStepOf (EventType.sessionEnd = ·) s₁.reporting after :=
        (guarantees_endSession rfl).run ReportStepOf.refl (fun _ _ _ => ReportStepOf.trans) hreport
      obtain ⟨new, hnew, -⟩ := hstep.records
      have hbeacon : (reportEnd caller).run s₁ = (.ok (), { s₁.remember .sessionEnd with
          reporting := after }) := by
        rw [reportEnd, Program.run_bind_ok (Program.run_write _ s₁)]
        exact run_onBeacon hreport
      rw [Program.run_bind_ok (Program.run_write _ s), Program.run_bind_ok (Program.run_read _ _)]
      have hnone : (s.setSession { s.reporting.session with isSessionFinishing := true }).children = [] :=
        hchildren
      rw [hnone]
      refine ⟨new, ?_, fun record hrecord => ?_⟩
      · show ((reportEnd caller >>= _).run s₁).2.reporting.records = _
        rw [Program.run_bind_ok hbeacon]
        exact hnew
      · obtain ⟨eventType, rfl, htype⟩ := hstep.hasEventTypeOf new hnew record hrecord
        exact htype

/-- The parent that is called back adds no record of a web request. -/
theorem records_onChildClosed (caller : Caller) (s : SessionHeap) (r : ObjectRef) (parent : ObjectParent)
    (fuel : ℕ) :
    ∃ new, ((onChildClosed caller fuel parent r).run s).2.reporting.records =
        s.reporting.records ++ new ∧ ∀ record ∈ new, HasEventType .sessionEnd record.data := by
  have hnothing : ∃ new, s.reporting.records = s.reporting.records ++ new ∧
      ∀ record ∈ new, HasEventType .sessionEnd record.data :=
    ⟨[], (List.append_nil _).symm, List.forall_mem_nil _⟩
  cases fuel with
  | zero =>
    cases parent <;> exact hnothing
  | succ fuel =>
    cases parent with
    | action p => exact hnothing
    | session =>
      rw [onChildClosed, Program.run_bind_ok (Program.run_write _ s),
        Program.run_bind_ok (Program.run_read _ _)]
      split
      next h =>
        rw [Bool.and_eq_true, List.isEmpty_iff] at h
        exact records_endSession fuel h.2
      next => exact hnothing

/-- **The record of a web request** that is stopped. -/
theorem valuesOf_stop (hr : r < s.objects.size) (hnode : s.object r = .webRequest parent tracer)
    (hopen : tracer.isStopped = false) {responseCode : ℤ}
    (hrecord : record ∈ (s.afterCall caller (.onObject r (.stop responseCode))).reporting.records.drop
      s.reporting.records.length)
    (htype : HasEventType .webRequest record.data) (size : WebRequestSize) :
    valuesOf size.key record.data =
      if toInt32 (size.valueOf tracer) > -1 then [decimal (toInt32 (size.valueOf tracer))] else [] := by
  obtain ⟨fuel, hfuel⟩ : ∃ fuel, s.fuel = fuel + 1 := ⟨2 * s.objects.size + 4, rfl⟩
  rw [afterCall_onObject hr, performObjectCall, hfuel, run_doStop responseCode hnode hopen] at hrecord
  generalize hclosed : closedBy s false r _ _ = u at hrecord
  obtain ⟨new, hnew, hends⟩ := records_onChildClosed caller u r parent fuel
  -- what the web request was reported with
  let r₁ : Reporting :=
    { (createSequenceNumber.run s.reporting).2 with numReads := s.reporting.numReads + 1 }
  let tracer₁ := withStop caller responseCode s.reporting tracer
  have hreporting : u.reporting =
      ((BeaconReports.addWebRequest caller tracer.parentActionID tracer₁).run r₁).2 := by
    rw [← hclosed]
    rfl
  have hadds : Adds .webRequest tracer₁.startSequenceNo tracer₁.endSequenceNo r₁
      ((BeaconReports.addWebRequest caller tracer.parentActionID tracer₁).run r₁).2 :=
    adds_addWebRequest tracer.parentActionID tracer₁
  have hlength : s.reporting.records.length ≤ u.reporting.records.length := by
    rw [hreporting]
    rcases hadds.records with hsame | ⟨_, hsame, -⟩
    · rw [hsame]
      exact le_refl _
    · rw [hsame, List.length_append]
      exact Nat.le_add_right _ _
  rw [hnew, List.drop_append_of_le_length hlength] at hrecord
  rcases List.mem_append.mp hrecord with hrecord | hrecord
  · rw [hreporting] at hrecord
    have hvalues := valuesOf_addWebRequest (r := r₁) hrecord size
    cases size <;> exact hvalues
  · exact absurd (htype.unique (hends record hrecord)) (by decide)

variable (clock) in
/-- **The sizes of a web request**, set to some values one after another, are in its record exactly if
the last ones fit. -/
theorem survives_stop_iff (hr : r < s.objects.size) (hnode : s.object r = .webRequest parent tracer)
    (hopen : tracer.isStopped = false) (calls : List (ℤ × SizeCall)) {responseCode : ℤ}
    (hrecord : record ∈ ((s.afterCalls clock (sizeCalls r calls)).afterCall caller
      (.onObject r (.stop responseCode))).reporting.records.drop
        (s.afterCalls clock (sizeCalls r calls)).reporting.records.length)
    (htype : HasEventType .webRequest record.data) :
    (∀ size : WebRequestSize, Survives size
      (SizeCall.lastValue size (size.valueOf tracer) (calls.map Prod.snd)) record.data) ↔
      ∀ size : WebRequestSize,
        Fits (SizeCall.lastValue size (size.valueOf tracer) (calls.map Prod.snd)) := by
  obtain ⟨hnode', hsize⟩ := object_afterCalls_sizeCalls clock hr hnode hopen calls
  refine forall_congr' fun size => ?_
  have hvalue : size.valueOf (SizeCall.applied tracer (calls.map Prod.snd)) =
      SizeCall.lastValue size (size.valueOf tracer) (calls.map Prod.snd) := by
    cases size <;> rfl
  have hvalues := valuesOf_stop (hsize ▸ hr) hnode' hopen hrecord htype size
  rw [hvalue] at hvalues
  rw [Survives, hvalues, converted_eq_iff]

end Stop

/-- A session with a web request. -/
def tracedSession : SessionHeap :=
  (SessionHeap.new (.new (.new ⟨.userBehavior, .optInCrashes⟩) 0 0 .nil) 0).afterCalls id
    [(1, .traceWebRequest (.ofAscii ['u']))]

/-- What is reported when the web request is stopped after some setters. -/
def stopRecords (calls : List (ℤ × SizeCall)) : List BeaconRecord :=
  ((tracedSession.afterCalls id (sizeCalls 0 calls)).afterCall ⟨1, id⟩
    (.onObject 0 (.stop 200))).reporting.records.drop
      (tracedSession.afterCalls id (sizeCalls 0 calls)).reporting.records.length

/-- A size below two gibibytes, and one that is not set. -/
theorem survives_stop_of_fits : ∃ record ∈ stopRecords [(1, .setBytesSent 2147483648),
    (1, .setBytesSentInt32 1000)], HasEventType .webRequest record.data ∧
    Survives .bytesSent 1000 record.data ∧ Survives .bytesReceived (-1) record.data := by
  obtain ⟨record, hmem, htype⟩ : ∃ record ∈ stopRecords [(1, .setBytesSent 2147483648),
      (1, .setBytesSentInt32 1000)], HasEventType .webRequest record.data := by
    unfold HasEventType UTF8String.HasPrefix
    decide
  have hnode : tracedSession.object 0 =
      .webRequest .session ⟨0, .ofAscii ['u'], rfl, -1, -1, -1, 0, -1, 1, -1⟩ := rfl
  have hsurvives := (survives_stop_iff id (by decide) hnode rfl
    [(1, .setBytesSent 2147483648), (1, .setBytesSentInt32 1000)] hmem htype).mpr fun size => by
      unfold Fits
      cases size <;> decide
  exact ⟨record, hmem, htype, hsurvives .bytesSent, hsurvives .bytesReceived⟩

/-- Two gibibytes are not in the record. -/
theorem not_survives_stop : ∃ record ∈ stopRecords [(1, .setBytesSent 2147483648)],
    HasEventType .webRequest record.data ∧ ¬ Survives .bytesSent 2147483648 record.data := by
  unfold HasEventType UTF8String.HasPrefix Survives
  decide

end OpenKit
