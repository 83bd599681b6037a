import OpenKit.Communication.FinishedSessions
import OpenKit.Communication.Ledger

/-!
# No finished session is dropped with unsent data

Cycles of capturing, among threads that report data, finish sessions and create new ones, keep the
invariant `NoLoss`. The parts of a cycle that touch no data are dealt with by their guarantees. The
loop over the finished sessions is proved action by action: at the removal of a session its last
send was successful, so that nothing was left of it, or its counter was zero, so that no record was,
as no reported text is empty.

## Main definitions

* `Steady`: the invariant between sends
* `Listed k`: the session is in the context, and finished
* `LeavesNothing k`: no record of the session is left, unless its data was cleared elsewhere

## Main results

* `sat_sendFinishedSession`: the turn of a finished session keeps the invariant
* `sat_cycles`: any number of cycles keeps the invariant
* `acknowledged_of_removed`: the records of a removed session were acknowledged before, if no record
  is added to a finished session
* `not_acknowledged_of_removed`: a record that is added after the last send is lost
-/

namespace OpenKit

open Thread

/-- The invariant between sends. -/
def Steady (w : World) : Prop := NoLoss w ∧ Idle w

theorem stable_steady : Stable (AppStep Reports) Steady := stable_noLoss.and stable_idle

/-- The steps that keep the invariant between sends. -/
def KeepsSteady (w w' : World) : Prop := Steady w → Steady w'

theorem NoteStep.keepsSteady {w w' : World} (h : NoteStep w w') : KeepsSteady w w' := by
  rintro ⟨hn, hidle⟩
  refine ⟨hn.of_noteStep h, fun k => ?_⟩
  rw [h.cache]
  exact hidle k

/-- A program that keeps the invariant between sends, among the threads of the application. -/
theorem sat_of_keepsSteady {α : Type} {p : Sender α} {w : World}
    (hp : Program.Guarantees KeepsSteady p) (h : Steady w) :
    Program.Sat (AppStep Reports) NoLoss p (fun _ w => Idle w) w := by
  have hsat := hp.sat stable_steady (fun _ _ hstep hs => hstep hs) h
  exact (hsat.mono fun _ _ hs _ => hs.2).weaken fun _ => And.left

/-! ## The parts that touch no data -/

theorem guarantees_noteRead {α : Type} (f : World → α) :
    Program.Guarantees NoteStep (Program.read f : Sender α) :=
  Program.guarantees_atomic fun _ => .of_log rfl rfl rfl (fun _ => rfl) rfl

/-- Selecting sessions only reads. -/
theorem guarantees_filterSessions (p : Session → Bool) (ks : List BeaconKey) :
    Program.Guarantees (fun w w' => w' = w) (filterSessions p ks) := by
  induction ks with
  | nil => trivial
  | cons k ks ih =>
    have hread : Program.Guarantees (fun w w' => w' = w)
        (Program.read fun w => p (w.session k) : Sender Bool) := fun _ => ⟨rfl, trivial⟩
    refine hread.bind fun _ => ih.bind fun _ => ?_
    trivial

theorem guarantees_selectSessions (p : Session → Bool) :
    Program.Guarantees NoteStep (selectSessions p) := by
  refine (guarantees_noteRead _).bind fun ks => (guarantees_filterSessions p ks).mono ?_
  rintro w w' rfl
  exact .of_log rfl rfl rfl (fun _ => rfl) rfl

/-- A change of the context that leaves its sessions. -/
theorem guarantees_setContext {f : World → BeaconSendingContext}
    (hf : ∀ w, (f w).sessions = w.context.sessions) :
    Program.Guarantees NoteStep (Program.write fun w => w.setContext (f w) : Sender Unit) :=
  Program.guarantees_atomic fun w => .of_log rfl rfl (hf w) (fun _ => rfl) rfl

/-- A change of the configuration of a session. -/
theorem guarantees_updateSession (k : BeaconKey) {f : Session → Session}
    (hf : ∀ s, (f s).isSessionFinished = s.isSessionFinished) :
    Program.Guarantees NoteStep (Program.write fun w => w.updateSession k f : Sender Unit) := by
  apply Program.guarantees_atomic
  intro w
  refine .of_log rfl rfl rfl (fun k' => ?_) rfl
  show ((w.updateSession k f).session k').isSessionFinished = _
  rw [World.session_updateSession]
  split
  · exact hf _
  · rfl

namespace CaptureOnState

variable {env : Environment} {rounds : ℕ} {k : BeaconKey} {w : World}

theorem guarantees_enter (phase : Phase) :
    Program.Guarantees NoteStep (Program.write (·.enter phase) : Sender Unit) :=
  Program.guarantees_atomic fun _ => .of_log rfl rfl rfl (fun _ => rfl) rfl

theorem guarantees_requestNewSession (response : Option Answer) :
    Program.Guarantees NoteStep (requestNewSession env k response) := by
  refine (guarantees_noteRead _).bind fun canSend => ?_
  split
  · refine (guarantees_updateSession k fun _ => ?_).bind fun _ => ?_
    · rfl
    · trivial
  · have hrequest : Program.Guarantees NoteStep (sendNewSessionRequest env) := by
      apply Program.guarantees_atomic
      intro w
      exact ⟨rfl, rfl, rfl, fun _ => rfl, _, rfl,
        List.forall_mem_singleton.mpr ⟨trivial, fun _ => Event.noConfusion⟩⟩
    refine hrequest.bind fun answer => ?_
    split
    · refine (Program.guarantees_atomic fun w => ?_).bind fun attributes => ?_
      · exact .of_log rfl rfl (BeaconSendingContext.updateFrom_sessions _ _) (fun _ => rfl) rfl
      · refine (guarantees_updateSession k fun _ => ?_).bind fun _ => ?_
        · rfl
        · trivial
    · split
      · trivial
      · refine (guarantees_updateSession k fun _ => ?_).bind fun _ => ?_
        · rfl
        · trivial

theorem guarantees_sendNewSessionRequests :
    Program.Guarantees NoteStep (sendNewSessionRequests env) := by
  refine (guarantees_enter _).bind fun _ => ?_
  refine (guarantees_selectSessions _).bind fun ks => ?_
  have hloop : Program.Guarantees NoteStep (Program.forEach (requestNewSession env) ks none) :=
    Program.guarantees_forEach
    (fun k _ response => guarantees_requestNewSession response) none
  exact hloop.bind fun _ => trivial

theorem guarantees_switchToCaptureOff (response : Option Answer) :
    Program.Guarantees NoteStep (switchToCaptureOff response) :=
  guarantees_setContext fun _ => rfl

/-! ## Handling the last answer -/

end CaptureOnState

/-- A step of handling an answer: it touches no data and makes no request, clears the data of a
session, or removes a session that it has cleared. -/
inductive HandlingStep : World → World → Prop
  | note {w w' : World} (h : NoteStep w w') (hnumber : w'.numRequests = w.numRequests) :
      HandlingStep w w'
  | clear (w : World) (k : BeaconKey) :
      HandlingStep w ((w.setCache (w.cache.deleteCacheEntry k)).write (.cleared .handling k))
  | drop (w : World) (k : BeaconKey) : HandlingStep w (w.setContext (w.context.removeSession k))

theorem HandlingStep.numRequests_eq {w w' : World} (h : HandlingStep w w') :
    w'.numRequests = w.numRequests := by
  cases h with
  | note h hnumber => exact hnumber
  | clear k => rfl
  | drop k => rfl

theorem handling_read {α : Type} (f : World → α) :
    Program.Guarantees HandlingStep (Program.read f : Sender α) :=
  Program.guarantees_atomic fun w => .note (.refl w) rfl

theorem handling_setContext {f : World → BeaconSendingContext}
    (hf : ∀ w, (f w).sessions = w.context.sessions) :
    Program.Guarantees HandlingStep (Program.write fun w => w.setContext (f w) : Sender Unit) :=
  Program.guarantees_atomic fun w => .note (.of_log rfl rfl (hf w) (fun _ => rfl) rfl) rfl

theorem HandlingStep.keepsSteady {w w' : World} (h : HandlingStep w w') : KeepsSteady w w' := by
  cases h with
  | note h hnumber => exact h.keepsSteady
  | clear k =>
    rintro ⟨hn, hidle⟩
    exact ⟨hn.clear fun h => absurd h Phase.noConfusion, hidle.clear .handling k⟩
  | drop k =>
    rintro ⟨hn, hidle⟩
    exact ⟨hn.drop k, hidle⟩

namespace BeaconSendingContext

theorem handling_clearSessionData (k : BeaconKey) (u : Unit) :
    Program.Guarantees HandlingStep (clearSessionData k u) := by
  refine (Program.guarantees_atomic fun w => HandlingStep.clear w k).bind fun _ => ?_
  refine (handling_read _).bind fun finished => ?_
  split
  · exact (Program.guarantees_atomic fun w => HandlingStep.drop w k).bind fun _ => trivial
  · trivial

theorem handling_clearAllSessionData : Program.Guarantees HandlingStep clearAllSessionData := by
  refine (handling_read _).bind fun ks => ?_
  exact Program.guarantees_forEach (fun k _ u => handling_clearSessionData k u) ()

theorem handling_disableCaptureAndClear :
    Program.Guarantees HandlingStep disableCaptureAndClear := by
  refine (handling_setContext fun _ => ?_).bind fun _ => ?_
  · rfl
  · exact handling_clearAllSessionData

/-- **Handling an answer** may clear all data, but notes it. -/
theorem handling_handleStatusResponse (response : Option Answer) :
    Program.Guarantees HandlingStep (handleStatusResponse response) := by
  rw [handleStatusResponse]
  split
  · exact handling_disableCaptureAndClear
  · refine (handling_setContext fun _ => updateFrom_sessions _ _).bind fun _ => ?_
    refine (handling_read _).bind fun captureOn => ?_
    split
    · exact handling_clearAllSessionData
    · trivial

end BeaconSendingContext

namespace CaptureOnState

variable {env : Environment} {rounds : ℕ} {k : BeaconKey} {w : World}

theorem guarantees_clearData {phase : Phase} (hphase : phase ≠ .finishedSessions) :
    Program.Guarantees KeepsSteady (clearCapturedData phase k) := by
  apply Program.guarantees_atomic
  rintro w ⟨hn, hidle⟩
  exact ⟨hn.clear fun h => absurd h hphase, hidle.clear phase k⟩

theorem guarantees_handleStatusResponse (response : Option Answer) :
    Program.Guarantees HandlingStep (handleStatusResponse response) := by
  cases response with
  | none => trivial
  | some answer =>
    have hlogged : Program.Guarantees HandlingStep
        (Program.write fun w => (w.enter .handling).write (.handled answer) : Sender Unit) := by
      apply Program.guarantees_atomic
      intro w
      exact .note ⟨rfl, rfl, rfl, fun _ => rfl, _, rfl,
        List.forall_mem_singleton.mpr ⟨trivial, fun _ => Event.noConfusion⟩⟩ rfl
    refine hlogged.bind fun _ => ?_
    refine (BeaconSendingContext.handling_handleStatusResponse _).bind fun _ => ?_
    refine (handling_read _).bind fun captureOn => ?_
    split
    · exact handling_setContext fun _ => rfl
    · trivial

/-! ## The sends -/

/-- Sending from the invariant between sends. -/
theorem sat_sendBeacon {hf : Prop} (hs : Steady w) (hfin : hf → Finished k w) :
    Program.Sat (AppStep Reports) NoLoss (sendBeacon env rounds k) (BeaconSend.Sent hf k) w := by
  have hguard : hf → ∀ w data, Reports w k data → (w.session k).isSessionFinished = false :=
    fun _ _ _ h => h.1
  have hsent := BeaconSend.stable_sent (k := k) hguard
  have hsend : Program.Sat (AppStep Reports) NoLoss (BeaconSend.send env rounds k)
      (BeaconSend.Sent hf k) w := by
    have hdelivered : Program.Sat (AppStep Reports) (Delivery (cleared w.log))
        (BeaconSend.send env rounds k) (BeaconSend.Sent hf k) w :=
      BeaconSend.sat_send hguard rounds hs.1.delivery hs.2 hfin
    have hsteps : Program.Guarantees (SendStep k) (BeaconSend.send env rounds k) :=
      BeaconSend.guarantees_send rounds
    have hkept := hsteps.sat stable_ledger stable_ledger_send hs.1.ledger
    exact ((hdelivered.and hkept).mono fun _ _ _ h => h.1).weaken fun _ h => ⟨h.1.self, h.2⟩
  refine hsend.seq fun answer w hn h => ?_
  refine (Program.sat_write (Q := fun _ w => BeaconSend.Sent hf k answer w) stable_noLoss
    (hsent answer) (fun _ => hsent answer) (fun t hn ht => ?_) hn h).seq fun _ w hn h =>
    Program.sat_ret stable_noLoss (hsent answer) hn h
  have hnote : NoteStep t (t.write (.sent t.phase k answer)) := ⟨rfl, rfl, rfl, fun _ => rfl, _,
    rfl, List.forall_mem_singleton.mpr ⟨trivial, fun _ => Event.noConfusion⟩⟩
  exact ⟨hn.of_noteStep hnote, ht⟩

/-! ## The finished sessions -/

end CaptureOnState

/-- The session is in the context, and finished. -/
def Listed (k : BeaconKey) (w : World) : Prop := k ∈ w.context.sessions ∧ Finished k w

/-- The session was created, and is not in the context any more. -/
def Gone (k : BeaconKey) (w : World) : Prop := k ∈ w.created ∧ k ∉ w.context.sessions

/-- Nothing is left of the session but what is being sent, unless data was cleared elsewhere. -/
def LeavesNothing (k : BeaconKey) (w : World) : Prop :=
  ClearsFinishedOnly w.log → Drained True k w

section Stable

variable {k : BeaconKey}

/-- The application takes no session out of the context. -/
theorem stable_mem_sessions : Stable (AppStep Reports) fun w => k ∈ w.context.sessions := by
  intro w w' hstep hk
  cases hstep with
  | create => exact List.mem_append_left _ hk
  | _ => exact hk

theorem stable_listed : Stable (AppStep Reports) (Listed k) :=
  stable_mem_sessions.and stable_finished

theorem stable_listed_forall {cs : List BeaconKey} :
    Stable (AppStep Reports) fun w => ∀ k ∈ cs, Listed k w :=
  fun _ _ hstep h k hk => stable_listed _ _ hstep (h k hk)

theorem stable_gone : Stable (AppStep Reports) (Gone k) := by
  rintro w w' hstep ⟨hc, hk⟩
  cases hstep with
  | create k' session hnew hopen =>
    refine ⟨List.mem_append_left _ hc, fun hk' => ?_⟩
    rcases List.mem_append.mp hk' with hk' | hk'
    · exact hk hk'
    · obtain rfl := List.mem_singleton.mp hk'
      exact hnew hc
  | _ => exact ⟨hc, hk⟩

theorem stable_leavesNothing : Stable (AppStep Reports) (LeavesNothing k) := by
  intro w w' hstep h hclears
  obtain ⟨new, hlog⟩ := hstep.log_grows
  rw [hlog] at hclears
  exact stable_drained (fun _ _ _ h => h.1) _ _ hstep (h hclears.of_append)

/-- A counter of zero means that nothing is left, as no reported text is empty. -/
theorem NoLoss.leavesNothing {w : World} (hn : NoLoss w) (hl : Listed k w)
    (hempty : w.cache.isEmpty k = true) : LeavesNothing k w := by
  intro hclears _
  refine ⟨hl.2, ?_⟩
  have hnot := hn.ledger.not_mem_cleared hl.1 hclears
  intro kind
  rw [List.eq_nil_iff_forall_not_mem]
  intro r hr
  have hpositive : 0 < r.getDataSizeInBytes := by
    refine hn.ledger.reported k kind r ?_
    rw [← hn.delivery.exactlyOnce k hnot kind]
    exact List.mem_append_right _ (List.mem_append_right _ hr)
  rw [hn.ledger.accounted.covered.isEmpty_eq_false hr hpositive] at hempty
  exact Bool.false_ne_true hempty

end Stable

namespace CaptureOnState

section Finished

variable {env : Environment} {rounds : ℕ} {k : BeaconKey} {cs : List BeaconKey} {w : World}

theorem guarantees_listed_sendBeacon :
    Program.Guarantees (fun w w' => (∀ k ∈ cs, Listed k w) → ∀ k ∈ cs, Listed k w')
      (sendBeacon env rounds k) := by
  have hsend : Program.Guarantees (fun w w' => (∀ k ∈ cs, Listed k w) → ∀ k ∈ cs, Listed k w')
      (BeaconSend.send env rounds k) := by
    refine (BeaconSend.guarantees_send rounds).mono fun w w' hstep h k hk => ?_
    rw [Listed, Finished, hstep.context, hstep.created, hstep.session]
    exact h k hk
  refine hsend.bind fun answer => ?_
  refine (Program.guarantees_atomic fun w => ?_).bind fun _ => trivial
  exact id

/-- **Removal** of the session of the turn, of which nothing is left if it was to be sent. -/
theorem sat_removeSession {allowed : Bool} (hs : Steady w) (hlisted : ∀ k' ∈ k :: cs, Listed k' w)
    (hnodup : (k :: cs).Nodup) (hempty : allowed = true → LeavesNothing k w) :
    Program.Sat (AppStep Reports) NoLoss (removeSession k allowed)
      (fun _ w => Idle w ∧ ∀ k' ∈ cs, Listed k' w) w := by
  have hrest : Stable (AppStep Reports) fun w => Idle w ∧ ∀ k' ∈ cs, Listed k' w :=
    stable_idle.and stable_listed_forall
  have hbefore : Stable (AppStep Reports) fun w => (Idle w ∧ ∀ k' ∈ k :: cs, Listed k' w) ∧
      (allowed = true → LeavesNothing k w) :=
    (stable_idle.and stable_listed_forall).and fun _ _ hstep h ha =>
      stable_leavesNothing _ _ hstep (h ha)
  refine (Program.sat_write (Q := fun _ w => (Idle w ∧ ∀ k' ∈ cs, Listed k' w) ∧ Gone k w)
    stable_noLoss hbefore (fun _ => hrest.and stable_gone) (fun t hn ht => ?_) hs.1
    ⟨⟨hs.2, hlisted⟩, hempty⟩).seq fun _ w hn h => ?_
  · obtain ⟨⟨hidle, hlisted⟩, hempty⟩ := ht
    obtain ⟨hk, hcs⟩ := List.forall_mem_cons.mp hlisted
    refine ⟨hn.remove hk.1 hk.2 fun ha hclears kind => ?_, ⟨hidle, fun k' hk' => ?_⟩, hk.2.1, ?_⟩
    · -- nothing is being sent, and nothing is active
      have hsending := BeaconCacheEntry.beingSent_eq_nil_iff.mp (hidle k) kind
      rw [BeaconCacheEntry.records, hsending, (hempty ha hclears trivial).2 kind]
      rfl
    · have hne : k' ≠ k := by
        rintro rfl
        exact (List.nodup_cons.mp hnodup).1 hk'
      exact ⟨(List.mem_erase_of_ne hne).mpr (hcs k' hk').1, (hcs k' hk').2⟩
    · exact hn.ledger.nodup.not_mem_erase
  · refine Program.sat_write (Q := fun _ w => Idle w ∧ ∀ k' ∈ cs, Listed k' w) stable_noLoss
      (hrest.and stable_gone) (fun _ => hrest) (fun t hn ht => ?_) hn h
    obtain ⟨⟨hidle, hcs⟩, hgone⟩ := ht
    exact ⟨hn.clear fun _ => hgone, hidle.clear _ _, hcs⟩

/-- **The turn of a finished session** keeps the invariant. -/
theorem sat_sendFinishedSession (hs : Steady w) (hlisted : ∀ k' ∈ k :: cs, Listed k' w)
    (hnodup : (k :: cs).Nodup) (response : Option Answer) :
    Program.Sat (AppStep Reports) NoLoss (sendFinishedSession env rounds k response)
      (Program.Round (fun _ w => Idle w ∧ ∀ k' ∈ cs, Listed k' w) fun _ w => Idle w) w := by
  have hturn : Stable (AppStep Reports) fun w => Idle w ∧ ∀ k' ∈ k :: cs, Listed k' w :=
    stable_idle.and stable_listed_forall
  have hrest : Stable (AppStep Reports) fun w => Idle w ∧ ∀ k' ∈ cs, Listed k' w :=
    stable_idle.and stable_listed_forall
  have hround := Program.Round.stable (fun _ : Option Answer => hrest)
    (fun _ : Option Answer => stable_idle)
  have hremove {w : World} {allowed : Bool} (response : Option Answer) (hn : NoLoss w)
      (h : Idle w ∧ ∀ k' ∈ k :: cs, Listed k' w) (hempty : allowed = true → LeavesNothing k w) :
      Program.Sat (AppStep Reports) NoLoss
        (removeSession k allowed >>= fun _ => Program.ret (.yield response))
        (Program.Round (fun _ w => Idle w ∧ ∀ k' ∈ cs, Listed k' w) fun _ w => Idle w) w :=
    (sat_removeSession ⟨hn, h.1⟩ h.2 hnodup hempty).seq fun _ w hn h =>
      Program.sat_ret stable_noLoss (hround _) hn h
  refine (Program.sat_read (Q := fun (_ : Bool) w => Idle w ∧ ∀ k' ∈ k :: cs, Listed k' w)
    stable_noLoss hturn (fun _ => hturn) (fun _ _ ht => ht) hs.1 ⟨hs.2, hlisted⟩).seq
    fun allowed w hn h => ?_
  cases allowed with
  | false => exact hremove response hn h (fun ha => absurd ha Bool.false_ne_true)
  | true =>
    have hk : True → Finished k w := fun _ => (h.2 k List.mem_cons_self).2
    refine ((sat_sendBeacon ⟨hn, h.1⟩ hk).frame guarantees_listed_sendBeacon stable_listed_forall
      (fun _ _ hstep hl => hstep hl) h.2).seq fun answer w hn h => ?_
    obtain ⟨⟨hidle, hdrained⟩, hlisted⟩ := h
    cases hsuccess : BeaconSendingResponseUtil.isSuccessfulResponse answer with
    | true =>
      exact hremove answer hn ⟨hidle, hlisted⟩ fun _ _ =>
        hdrained.mono fun _ => ⟨trivial, hsuccess⟩
    | false =>
      cases hmany : BeaconSendingResponseUtil.isTooManyRequestsResponse answer with
      | true => exact Program.sat_ret stable_noLoss (hround _) hn hidle
      | false =>
        -- whether the session is empty is read from its counter
        refine (Program.sat_read (Q := fun (isEmpty : Bool) w =>
            (Idle w ∧ ∀ k' ∈ k :: cs, Listed k' w) ∧ (isEmpty = true → LeavesNothing k w))
          stable_noLoss hturn (fun isEmpty => hturn.and fun _ _ hstep h he =>
            stable_leavesNothing _ _ hstep (h he))
          (fun t hn ht => ⟨ht, hn.leavesNothing (ht.2 k List.mem_cons_self)⟩) hn
          ⟨hidle, hlisted⟩).seq fun isEmpty w hn h => ?_
        cases isEmpty with
        | false => exact Program.sat_ret stable_noLoss (hround _) hn h.1.1
        | true => exact hremove answer hn h.1 fun _ => h.2 rfl

/-- The sessions selected are those of the context that were finished when they were read. -/
theorem sat_filterSessions {ks : List BeaconKey} (hs : Steady w)
    (hks : ∀ k ∈ ks, k ∈ w.context.sessions) :
    Program.Sat (AppStep Reports) NoLoss (filterSessions (·.isConfiguredAndFinished) ks)
      (fun ks' w => ks'.Sublist ks ∧ Idle w ∧ ∀ k ∈ ks', Listed k w) w := by
  have hlist (ks ks' : List BeaconKey) : Stable (AppStep Reports) fun w =>
      ks'.Sublist ks ∧ Idle w ∧ ∀ k ∈ ks', Listed k w :=
    (Stable.const _).and (stable_idle.and stable_listed_forall)
  induction ks generalizing w with
  | nil =>
    refine Program.sat_ret stable_noLoss (hlist [] _) hs.1 ?_
    exact ⟨List.Sublist.refl _, hs.2, List.forall_mem_nil _⟩
  | cons k ks ih =>
    have hmem : Stable (AppStep Reports) fun w => ∀ k ∈ ks, k ∈ w.context.sessions :=
      fun _ _ hstep h k hk => stable_mem_sessions _ _ hstep (h k hk)
    have hselected (selected : Bool) : Stable (AppStep Reports) fun w =>
        selected = true → Listed k w := fun _ _ hstep h hsel => stable_listed _ _ hstep (h hsel)
    obtain ⟨hk, hrest⟩ := List.forall_mem_cons.mp hks
    refine (Program.sat_read (P := fun w => k ∈ w.context.sessions ∧ Idle w ∧
        ∀ k ∈ ks, k ∈ w.context.sessions)
      (Q := fun selected w => (Idle w ∧ ∀ k ∈ ks, k ∈ w.context.sessions) ∧
        (selected = true → Listed k w)) stable_noLoss
      (stable_mem_sessions.and (stable_idle.and hmem))
      (fun selected => (stable_idle.and hmem).and (hselected selected)) (fun t hn ht => ?_) hs.1
      ⟨hk, hs.2, hrest⟩).seq fun selected w hn h => ?_
    · refine ⟨ht.2, fun hsel => ⟨ht.1, hn.ledger.created k ht.1, ?_⟩⟩
      exact (Bool.and_eq_true_iff.mp hsel).2
    · obtain ⟨⟨hidle, hrest⟩, hsel⟩ := h
      refine ((ih ⟨hn, hidle⟩ hrest).frame (guarantees_filterSessions _ ks) (hselected selected)
        (fun _ _ heq h => heq ▸ h) hsel).seq fun rest w hn h => ?_
      obtain ⟨⟨hsub, hidle, hlisted⟩, hsel⟩ := h
      refine Program.sat_ret stable_noLoss (hlist (k :: ks) _) hn ?_
      cases selected with
      | true => exact ⟨hsub.cons_cons k, hidle, List.forall_mem_cons.mpr ⟨hsel rfl, hlisted⟩⟩
      | false => exact ⟨hsub.cons k, hidle, hlisted⟩

/-- **The loop over the finished sessions** keeps the invariant. -/
theorem sat_sendFinishedSessions (hs : Steady w) :
    Program.Sat (AppStep Reports) NoLoss (sendFinishedSessions env rounds)
      (fun _ w => Idle w) w := by
  have hkeeps {α : Type} {p : Sender α} (h : Program.Guarantees NoteStep p) :=
    h.mono fun _ _ => NoteStep.keepsSteady
  refine (sat_of_keepsSteady (hkeeps (guarantees_enter _)) hs).seq fun _ w hn hidle => ?_
  -- the snapshot
  have hsnapshot (ks : List BeaconKey) : Stable (AppStep Reports) fun w =>
      (ks.Nodup ∧ Idle w) ∧ ∀ k ∈ ks, k ∈ w.context.sessions :=
    ((Stable.const _).and stable_idle).and fun _ _ hstep h k hk =>
      stable_mem_sessions _ _ hstep (h k hk)
  have hselect : Program.Sat (AppStep Reports) NoLoss
      BeaconSendingContext.getAllFinishedAndConfiguredSessions
      (fun ks w => ks.Nodup ∧ Idle w ∧ ∀ k ∈ ks, Listed k w) w := by
    refine (Program.sat_read (Q := fun (ks : List BeaconKey) w =>
        (ks.Nodup ∧ Idle w) ∧ ∀ k ∈ ks, k ∈ w.context.sessions) stable_noLoss stable_idle hsnapshot
      (fun t hn ht => ⟨⟨hn.ledger.nodup, ht⟩, fun _ => id⟩) hn hidle).seq fun ks w hn h => ?_
    obtain ⟨⟨hnodup, hidle⟩, hks⟩ := h
    exact (sat_filterSessions ⟨hn, hidle⟩ hks).mono fun _ _ _ h => ⟨h.1.nodup hnodup, h.2⟩
  refine hselect.seq fun ks w hn h => ?_
  -- the turns
  have hloop : Program.Sat (AppStep Reports) NoLoss
      (Program.forEach (sendFinishedSession env rounds) ks none)
      (Program.Round (fun _ w => ([] : List BeaconKey).Nodup ∧ Idle w ∧
        ∀ k ∈ ([] : List BeaconKey), Listed k w) fun _ w => Idle w) w := by
    refine Program.sat_forEach (J := fun cs _ w => cs.Nodup ∧ Idle w ∧ ∀ k ∈ cs, Listed k w)
      stable_noLoss (fun _ => (Stable.const _).and (stable_idle.and stable_listed_forall))
      (fun _ => stable_idle) (fun k cs response w hn h => ?_) hn h
    obtain ⟨hnodup, hidle, hlisted⟩ := h
    refine (sat_sendFinishedSession ⟨hn, hidle⟩ hlisted hnodup response).mono fun r _ _ h => ?_
    cases r with
    | yield _ => exact ⟨(List.nodup_cons.mp hnodup).2, h⟩
    | done _ => exact h
  refine hloop.seq fun r w hn h => Program.sat_ret stable_noLoss stable_idle hn ?_
  cases r with
  | yield _ => exact h.2.1
  | done _ => exact h

/-! ## The open sessions -/

theorem sat_sendOpenSession (hs : Steady w) (response : Option Answer) :
    Program.Sat (AppStep Reports) NoLoss (sendOpenSession env rounds k response)
      (Program.Round (fun _ w => Idle w) fun _ w => Idle w) w := by
  have hround := Program.Round.stable (R := AppStep Reports)
    (fun _ : Option Answer => stable_idle) (fun _ : Option Answer => stable_idle)
  refine (Program.sat_read (Q := fun (_ : Bool) w => Idle w) stable_noLoss stable_idle
    (fun _ => stable_idle) (fun _ _ ht => ht) hs.1 hs.2).seq fun allowed w hn hidle => ?_
  cases allowed with
  | false =>
    refine (sat_of_keepsSteady (guarantees_clearData Phase.noConfusion) ⟨hn, hidle⟩).seq
      fun _ w hn hidle => ?_
    exact Program.sat_ret stable_noLoss (hround _) hn hidle
  | true =>
    have hsend : Program.Sat (AppStep Reports) NoLoss (sendBeacon env rounds k)
        (BeaconSend.Sent False k) w := sat_sendBeacon ⟨hn, hidle⟩ False.elim
    refine hsend.seq fun answer w hn h => ?_
    cases hmany : BeaconSendingResponseUtil.isTooManyRequestsResponse answer with
    | true => exact Program.sat_ret stable_noLoss (hround _) hn h.1
    | false => exact Program.sat_ret stable_noLoss (hround _) hn h.1

theorem sat_sendOpenSessions (hs : Steady w) :
    Program.Sat (AppStep Reports) NoLoss (sendOpenSessions env rounds) (fun _ w => Idle w) w := by
  have hkeeps {α : Type} {p : Sender α} (h : Program.Guarantees NoteStep p) {w : World}
      (hn : NoLoss w) (hidle : Idle w) := sat_of_keepsSteady
        (h.mono fun _ _ => NoteStep.keepsSteady) ⟨hn, hidle⟩
  refine (hkeeps (guarantees_enter _) hs.1 hs.2).seq fun _ w hn hidle => ?_
  refine (hkeeps (guarantees_noteRead _) hn hidle).seq fun currentTimestamp w hn hidle => ?_
  refine (hkeeps (guarantees_noteRead _) hn hidle).seq fun lastSendTime w hn hidle => ?_
  refine (hkeeps (guarantees_noteRead _) hn hidle).seq fun sendInterval w hn hidle => ?_
  split
  · exact Program.sat_ret stable_noLoss stable_idle hn hidle
  · refine (hkeeps (guarantees_selectSessions _) hn hidle).seq fun ks w hn hidle => ?_
    have hloop : Program.Sat (AppStep Reports) NoLoss
        (Program.forEach (sendOpenSession env rounds) ks none)
        (Program.Round (fun _ w => Idle w) fun _ w => Idle w) w :=
      Program.sat_forEach (J := fun _ _ w => Idle w) stable_noLoss (fun _ => stable_idle)
        (fun _ => stable_idle)
        (fun k _ response w hn hidle => sat_sendOpenSession ⟨hn, hidle⟩ response) hn hidle
    refine hloop.seq fun r w hn h => ?_
    have hidle : Idle w := by
      cases r with
      | yield _ => exact h
      | done _ => exact h
    refine (hkeeps (guarantees_setContext fun _ => ?_) hn hidle).seq fun _ w hn hidle => ?_
    · rfl
    · exact Program.sat_ret stable_noLoss stable_idle hn hidle

/-! ## Cycles -/

theorem sat_doExecute (hs : Steady w) :
    Program.Sat (AppStep Reports) NoLoss (doExecute env rounds) (fun _ w => Idle w) w := by
  have hkeeps {α : Type} {p : Sender α} (h : Program.Guarantees NoteStep p) {w : World}
      (hn : NoLoss w) (hidle : Idle w) := sat_of_keepsSteady
        (h.mono fun _ _ => NoteStep.keepsSteady) ⟨hn, hidle⟩
  refine (hkeeps (guarantees_noteRead _) hs.1 hs.2).seq fun shutdown w hn hidle => ?_
  split
  · exact Program.sat_ret stable_noLoss stable_idle hn hidle
  · refine (hkeeps guarantees_sendNewSessionRequests hn hidle).seq fun newResponse w hn hidle => ?_
    split
    · exact hkeeps (guarantees_switchToCaptureOff _) hn hidle
    · refine (sat_sendFinishedSessions ⟨hn, hidle⟩).seq fun finishedResponse w hn hidle => ?_
      split
      · exact hkeeps (guarantees_switchToCaptureOff _) hn hidle
      · refine (sat_sendOpenSessions ⟨hn, hidle⟩).seq fun openResponse w hn hidle => ?_
        split
        · exact hkeeps (guarantees_switchToCaptureOff _) hn hidle
        · have hhandle := (guarantees_handleStatusResponse
            (lastStatusResponse newResponse finishedResponse openResponse)).mono
            fun _ _ => HandlingStep.keepsSteady
          exact sat_of_keepsSteady hhandle ⟨hn, hidle⟩

theorem sat_execute (hs : Steady w) :
    Program.Sat (AppStep Reports) NoLoss (execute env rounds) (fun _ w => Idle w) w := by
  have hkeeps {α : Type} {p : Sender α} (h : Program.Guarantees NoteStep p) {w : World}
      (hn : NoLoss w) (hidle : Idle w) := sat_of_keepsSteady
        (h.mono fun _ _ => NoteStep.keepsSteady) ⟨hn, hidle⟩
  refine (hkeeps (guarantees_setContext fun _ => ?_) hs.1 hs.2).seq fun _ w hn hidle => ?_
  · rfl
  · refine (sat_doExecute ⟨hn, hidle⟩).seq fun _ w hn hidle => ?_
    refine (hkeeps (guarantees_noteRead _) hn hidle).seq fun shutdown w hn hidle => ?_
    split
    · refine hkeeps (guarantees_setContext fun _ => ?_) hn hidle
      rfl
    · exact Program.sat_ret stable_noLoss stable_idle hn hidle

/-- **Any number of cycles** keeps the invariant. -/
theorem sat_cycles (n : ℕ) (hs : Steady w) :
    Program.Sat (AppStep Reports) NoLoss (cycles env rounds n) (fun _ w => Idle w) w := by
  induction n generalizing w with
  | zero => exact Program.sat_ret stable_noLoss stable_idle hs.1 hs.2
  | succ n ih => exact (sat_execute hs).seq fun _ w hn hidle => ih ⟨hn, hidle⟩

end Finished

/-! ## The runs -/

/-- At the start nothing is cached, logged or listed. -/
theorem steady_of_empty {w : World} (hcache : w.cache = .empty) (hlog : w.log = [])
    (hsessions : w.context.sessions = []) : Steady w := by
  refine ⟨⟨(BeaconSend.delivery_of_empty hcache hlog).self, ?_⟩, BeaconSend.idle_of_empty hcache⟩
  refine ⟨?_, fun k kind r hr => ?_, ?_, fun k hk => ?_, fun k hk => ?_, fun l l' k hsplit => ?_⟩
  · rw [hcache]
    exact BeaconCache.accounted_empty
  · rw [hlog] at hr
    exact absurd hr List.not_mem_nil
  · rw [hsessions]
    exact List.nodup_nil
  · rw [hsessions] at hk
    exact absurd hk List.not_mem_nil
  · rw [hlog] at hk
    exact absurd hk List.not_mem_nil
  · rw [hlog] at hsplit
    simp at hsplit

/-- **No unsent data is dropped**: at every point of any number of cycles among threads that report
data, when a session that was to be sent had been removed and no data had been cleared but in the
loop over the finished sessions, the records ever added to it were acknowledged before, in
chunks that were requested and answered successfully. -/
theorem acknowledged_of_removed (env : Environment) (rounds n : ℕ) {w w' : World}
    {p : Sender Unit} (hcache : w.cache = .empty) (hlog : w.log = [])
    (hsessions : w.context.sessions = [])
    (h : Program.Reaches (AppStep Reports) (cycles env rounds n, w) (p, w'))
    {l l' : List Event} {k : BeaconKey} (hremoved : w'.log = l ++ .removed k true :: l')
    (hclears : ClearsFinishedOnly l) :
    (∀ kind, acknowledged k kind l = added k kind w'.log) ∧
      ∀ chunk, .acknowledged chunk ∈ l → Answered chunk w' := by
  have hn := (sat_cycles n (steady_of_empty hcache hlog hsessions)).invariant h
  refine ⟨(hn.ledger.removed l l' k hremoved).2 hclears, fun chunk hc => ?_⟩
  apply hn.delivery.answered
  rw [hremoved]
  exact List.mem_append_left _ hc

/-- A session is created, reports one event and is finished; a cycle sends and removes it. -/
theorem acknowledged_of_oneEvent :
    let k : BeaconKey := ⟨1, 0⟩
    let text : UTF8String := .ofAscii ['e', 't', '=', '1', '8']
    let env : Environment := ⟨fun _ => some ⟨.undefined, 200, 0⟩, fun _ _ => .nil⟩
    let session := (Session.new (.new (.new ⟨.userBehavior, .optInCrashes⟩) 0 0 .nil)
      ).updateServerConfiguration .defaultInstance
    let w := World.new (fun _ => session) (.new ⟨1, .nil⟩)
    let w₁ := { w.updateSession k fun _ => session with
      created := [k], context := w.context.addSession k }
    let w₂ := (w₁.addData k .event 0 text).updateSession k (·.markAsFinished)
    ∃ l l', ((cycles env 2 1).run w₂).2.log = l ++ .removed k true :: l' ∧
      acknowledged k .event l = [.new 0 text] := by
  intro k text env session w w₁ w₂
  have hok : ((cycles env 2 1).run w₂).1 = .ok () := by decide
  have hremoved : k ∈ removals ((cycles env 2 1).run w₂).2.log := by decide
  have hclears : ClearsFinishedOnly ((cycles env 2 1).run w₂).2.log := by decide
  have hadded : added k .event ((cycles env 2 1).run w₂).2.log = [.new 0 text] := by
    decide
  rcases hrun : (cycles env 2 1).run w₂ with ⟨r, w'⟩
  rw [hrun] at hok hremoved hclears hadded
  obtain rfl : r = .ok () := hok
  have hreaches : Program.Reaches (AppStep Reports) (cycles env 2 1, w) (.ret (), w') := by
    refine .head (.other _ (.create w k session List.not_mem_nil rfl)) ?_
    refine .head (.other _ (.add w₁ k .event 0 text ⟨rfl, by decide, by decide⟩)) ?_
    exact .head (.other _ (.finish _ k)) (Program.reaches_of_run hrun)
  obtain ⟨l, l', hlog⟩ := List.append_of_mem (mem_removals hremoved)
  refine ⟨l, l', hlog, ?_⟩
  rw [hlog] at hclears
  rw [(acknowledged_of_removed env 2 1 rfl rfl rfl hreaches hlog hclears.of_append).1 .event]
  exact hadded

/-! ## A late record -/

/-- A server that answers each request successfully. -/
def succeedingEnvironment : Environment := ⟨fun _ => some ⟨.undefined, 200, 0⟩, fun _ _ => .nil⟩

def lateText : UTF8String := .ofAscii ['e', 't', '=', '1']

def configuredSession : Session :=
  (Session.new (.new (.new ⟨.userBehavior, .optInCrashes⟩) 0 0 .nil)).updateServerConfiguration
    .defaultInstance

/-- Before any session is created. -/
def noSession : World := .new (fun _ => configuredSession) (.new ⟨1, .nil⟩)

/-- The session is created. -/
def oneSession : World :=
  { noSession.updateSession ⟨1, 0⟩ fun _ => configuredSession with
    created := [⟨1, 0⟩], context := noSession.context.addSession ⟨1, 0⟩ }

/-- It has reported an event and was finished. -/
def oneFinished : World :=
  (oneSession.addData ⟨1, 0⟩ .event 0 lateText).updateSession ⟨1, 0⟩ (·.markAsFinished)

/-- A thread that has left an action of the session adds its record. -/
def lateAction (w : World) : World := w.addData ⟨1, 0⟩ .action 1 lateText

/-- A cycle in which the record is added right after the successful answer. -/
def lateRun : Except SendFault Unit × World :=
  (cycles succeedingEnvironment 2 1).runInterrupted lateAction 18 oneFinished

theorem lateRun_returns : lateRun.1 = .ok () := by decide

theorem lateRun_removed : lateRun.2.log[5]? = some (.removed ⟨1, 0⟩ true) := rfl

theorem clearsFinishedOnly_lateRun : ClearsFinishedOnly (lateRun.2.log.take 5) := by decide

theorem lateRun_lost : (acknowledged ⟨1, 0⟩ .action (lateRun.2.log.take 5)).length ≠
    (added ⟨1, 0⟩ .action (lateRun.2.log.take 5)).length := by decide

theorem reaches_lateRun :
    Program.Reaches (AppStep fun _ _ data => EventData.IsReportText data)
      (cycles succeedingEnvironment 2 1, noSession) (.ret (), lateRun.2) := by
  have htext : EventData.IsReportText lateText := ⟨by decide, by decide⟩
  refine .head (.other _ (.create noSession ⟨1, 0⟩ configuredSession List.not_mem_nil rfl)) ?_
  refine .head (.other _ (.add oneSession ⟨1, 0⟩ .event 0 lateText htext)) ?_
  refine .head (.other _ (.finish _ ⟨1, 0⟩)) ?_
  have hrun : lateRun = (.ok (), lateRun.2) := Prod.ext lateRun_returns rfl
  exact Program.reaches_of_runInterrupted (fun t => .add t ⟨1, 0⟩ .action 1 lateText htext) hrun

/-- **A late record is lost**: a session that was finished reports an action that was left before, when it
was sent and before it is removed. -/
theorem not_acknowledged_of_removed :
    ¬ ∀ (env : Environment) (rounds n : ℕ) (w w' : World) (p : Sender Unit) (l l' : List Event)
        (k : BeaconKey), w.cache = .empty → w.log = [] → w.context.sessions = [] →
      Program.Reaches (AppStep fun _ _ data => EventData.IsReportText data) (cycles env rounds n, w)
        (p, w') →
      w'.log = l ++ .removed k true :: l' → ClearsFinishedOnly l →
      ∀ kind, acknowledged k kind l = added k kind l := by
  intro h
  obtain ⟨hlt, hget⟩ := List.getElem?_eq_some_iff.mp lateRun_removed
  have hlog : lateRun.2.log = lateRun.2.log.take 5 ++ .removed ⟨1, 0⟩ true :: lateRun.2.log.drop 6 := by
    rw [← hget, List.cons_getElem_drop_succ, List.take_append_drop]
  have hadded := h succeedingEnvironment 2 1 noSession lateRun.2 (.ret ()) _ _ ⟨1, 0⟩ rfl rfl rfl
    reaches_lateRun hlog clearsFinishedOnly_lateRun .action
  exact lateRun_lost (congrArg List.length hadded)

end CaptureOnState

end OpenKit
