import Mathlib.Tactic.IntervalCases
import OpenKit.Objects.InstanceRuns

/-!
# The start of a session

A beacon can report that its session has started, and a session can ask its beacon to do so. Neither the
creator of a session nor its proxy does, on any of the paths on which sessions are made. So no session
of any run has the event of its start among its records.

## Main definitions

* `recordsOf`: the records of a session
* `StartsWithStart`: the first record of a session is that of its start, and there is no other such
* `CapturesThroughout`: capturing is enabled for a session from its creation on

## Main results

* `not_startsWithStart`: no session starts so
-/

namespace OpenKit

namespace OpenKitInstance

/-- The records of a session, in the order they were handed to the cache. -/
def recordsOf (s : OpenKitInstance) (k : SessionRef) : List BeaconRecord :=
  s.records.filterMap fun record => if record.1 = k then some record.2 else none

/-- The first record of a session is that of its start, and it is the only such record. -/
def StartsWithStart (s : OpenKitInstance) (k : SessionRef) : Prop :=
  ∃ record rest, s.recordsOf k = record :: rest ∧
    EventData.HasEventType .sessionStart record.data ∧
    ∀ record' ∈ rest, ¬ EventData.HasEventType .sessionStart record'.data

/-- In a run, capturing is enabled for a session from its creation on. -/
def CapturesThroughout (env : InstanceEnvironment) (s : OpenKitInstance)
    (calls : List InstanceCall) (k : SessionRef) : Prop :=
  ∀ earlier, earlier <+: calls → k < (s.afterCalls env earlier).sessions.size →
    ((s.afterCalls env earlier).session k).session.beacon.isDataCapturingEnabled = true

variable {env : InstanceEnvironment}

/-- No record of a run is that of a start. -/
theorem not_hasEventType_sessionStart (http : HTTPClientConfiguration)
    (provider : SessionIDProvider) (calls : List InstanceCall) {record : SessionRef × BeaconRecord}
    (hmem : record ∈ ((new http provider env).afterCalls env calls).records) :
    ¬ EventData.HasEventType .sessionStart record.2.data := by
  intro hstart
  obtain ⟨added, hrecords, hadded⟩ := (extends_afterCalls env (s := new http provider env) calls).records
  rw [hrecords, show (new http provider env).records = [] from rfl, List.nil_append] at hmem
  obtain ⟨eventType, hne, htype⟩ := hadded record hmem
  exact hne (htype.unique hstart)

theorem mem_records_of_mem_recordsOf {s : OpenKitInstance} {k : SessionRef}
    {record : BeaconRecord} (h : record ∈ s.recordsOf k) : (k, record) ∈ s.records := by
  obtain ⟨⟨k', record'⟩, hmem, hsome⟩ := List.mem_filterMap.mp h
  dsimp only at hsome
  split at hsome
  next hk =>
    obtain rfl := Option.some.inj hsome
    rwa [← hk]
  next => cases hsome

/-- **No session** of any run has its start among its records, so none starts with it. -/
theorem not_startsWithStart (http : HTTPClientConfiguration) (provider : SessionIDProvider)
    (calls : List InstanceCall) (k : SessionRef) :
    ¬ ((new http provider env).afterCalls env calls).StartsWithStart k := by
  rintro ⟨record, rest, hrecords, hstart, -⟩
  have hmem : record ∈ ((new http provider env).afterCalls env calls).recordsOf k :=
    hrecords ▸ List.mem_cons_self
  exact not_hasEventType_sessionStart http provider calls (mem_records_of_mem_recordsOf hmem) hstart

/-- A session is created, and its user is identified. -/
def identifyingCalls : List InstanceCall :=
  [.createSession, .onProxy 0 1 (.identifyUser (.ofAscii ['u']))]

/-- A session that captures from its creation on, and whose first record is that of its user. -/
theorem not_startsWithStart_of_capturesThroughout : ¬ ∀ (env : InstanceEnvironment)
    (http : HTTPClientConfiguration) (provider : SessionIDProvider) (calls : List InstanceCall)
    (k : SessionRef), k < ((new http provider env).afterCalls env calls).sessions.size →
    CapturesThroughout env (new http provider env) calls k →
    ((new http provider env).afterCalls env calls).StartsWithStart k := by
  intro h
  have hcaptures : CapturesThroughout .plain (new ⟨1, .nil⟩ ⟨0⟩ .plain) identifyingCalls 0 := by
    intro earlier hprefix _
    obtain ⟨n, hn, rfl⟩ : ∃ n, n ≤ 2 ∧ earlier = identifyingCalls.take n :=
      ⟨_, hprefix.length_le, List.prefix_iff_eq_take.mp hprefix⟩
    interval_cases n
    · decide
    · decide
    · decide
  obtain ⟨record, rest, hrecords, hstart, -⟩ :=
    h .plain ⟨1, .nil⟩ ⟨0⟩ identifyingCalls 0 (by decide) hcaptures
  have hmem : record ∈ ((new ⟨1, .nil⟩ ⟨0⟩ .plain).afterCalls .plain identifyingCalls).recordsOf 0 :=
    hrecords ▸ List.mem_cons_self
  exact not_hasEventType_sessionStart _ _ _ (mem_records_of_mem_recordsOf hmem) hstart

example : (((new ⟨1, .nil⟩ ⟨0⟩ .plain).afterCalls .plain identifyingCalls).recordsOf 0).length = 1 := by
  decide

end OpenKitInstance

end OpenKit
