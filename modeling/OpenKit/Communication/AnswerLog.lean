import OpenKit.Communication.BeaconSend

/-!
# The answers of a cycle, told from its log

Which answers a cycle received, in which of its loops and at which turns, is told from the requests
in its log. The answers of a loop are those to its requests. Its turns are replayed along the log: a
turn starts without an answer, takes that of each request it makes, and hands the last one on when
it ends.

## Main definitions

* `answersIn`, `beaconAnswers`: the answers received in a loop, and those to requests of beacons
* `Turns`, `Turns.step`: the answers to the last request of the turns of a loop
* `lastReceived`, `handledAnswer`: the answer that should be handled, and the one that was
* `LastTurnsAnswered`: the last turn of the last loop that was answered ended with an answer
* `Received env phase w t s s' answer`: from `w` to `t` only the loop of `phase` ran, the turns went
  from `s` to `s'`, and `answer` is none or the last one received
-/

namespace OpenKit

open Thread

/-! ## What the log says -/

/-- The loops that send beacons. -/
def Phase.OfBeacons : Phase → Prop
  | .finishedSessions => True
  | .openSessions => True
  | _ => False

/-- The answers received in a loop. -/
def answersIn (phase : Phase) : List Event → List Answer :=
  List.filterMap fun
    | .requested phase' _ answer => if phase' = phase then answer else none
    | .newSessionRequested answer => if .newSessions = phase then answer else none
    | _ => none

/-- The answers to the requests of beacons. -/
def beaconAnswers : List Event → List Answer :=
  List.filterMap fun
    | .requested _ _ answer => answer
    | _ => none

/-- The last answer to a request of a beacon, or else to a request of a new session. -/
def lastReceived (log : List Event) : Option Answer :=
  (beaconAnswers log).getLast?.or (answersIn .newSessions log).getLast?

/-- The answer that was handed to the context. -/
def handledAnswer (log : List Event) : Option Answer :=
  (log.filterMap fun
    | .handled answer => some answer
    | _ => none).head?

/-- The turns of a loop: the answer to the last request of the turn that goes on, and that of the
last turn that is over. A turn without a request has none. -/
structure Turns where
  current : Option Answer
  last : Option Answer

namespace Turns

/-- No turn has begun. -/
def start : Turns := ⟨none, none⟩

/-- An event in the loop of `phase`. A request for a new session is a turn of its own. -/
def step (phase : Phase) (turns : Turns) : Event → Turns
  | .requested phase' _ answer => if phase' = phase then ⟨answer, turns.last⟩ else turns
  | .sent phase' .. => if phase' = phase then ⟨none, turns.current⟩ else turns
  | .newSessionRequested answer => if .newSessions = phase then ⟨none, answer⟩ else turns
  | _ => turns

/-- Some events, one after the other. -/
def replay (phase : Phase) (turns : Turns) (log : List Event) : Turns :=
  log.foldl (step phase) turns

@[simp] theorem replay_nil (phase : Phase) (turns : Turns) : turns.replay phase [] = turns := rfl

@[simp] theorem replay_append (phase : Phase) (turns : Turns) (l l' : List Event) :
    turns.replay phase (l ++ l') = (turns.replay phase l).replay phase l' := List.foldl_append

theorem replay_of_step_eq {phase : Phase} {l : List Event}
    (h : ∀ event ∈ l, ∀ turns : Turns, turns.step phase event = turns) (turns : Turns) :
    turns.replay phase l = turns := by
  induction l with
  | nil => rfl
  | cons event l ih =>
    obtain ⟨hevent, hl⟩ := List.forall_mem_cons.mp h
    show (turns.step phase event).replay phase l = turns
    rw [hevent, ih hl]

end Turns

/-- The answer to the last request of the last turn. -/
def lastTurnAnswer (phase : Phase) (log : List Event) : Option Answer :=
  (Turns.start.replay phase log).last

/-- In the last of the loops that received an answer, the last turn made a request, and the last
request it made was answered. -/
def LastTurnsAnswered (log : List Event) : Prop :=
  (answersIn .openSessions log ≠ [] → lastTurnAnswer .openSessions log ≠ none) ∧
  (answersIn .openSessions log = [] → answersIn .finishedSessions log ≠ [] →
    lastTurnAnswer .finishedSessions log ≠ none) ∧
  (answersIn .openSessions log = [] → answersIn .finishedSessions log = [] →
    answersIn .newSessions log ≠ [] → lastTurnAnswer .newSessions log ≠ none)

instance (log : List Event) : Decidable (LastTurnsAnswered log) :=
  inferInstanceAs (Decidable (_ ∧ _ ∧ _))

section Append

variable (phase : Phase) (l l' : List Event)

@[simp] theorem answersIn_nil : answersIn phase [] = [] := rfl

@[simp] theorem answersIn_append :
    answersIn phase (l ++ l') = answersIn phase l ++ answersIn phase l' := List.filterMap_append

@[simp] theorem beaconAnswers_append :
    beaconAnswers (l ++ l') = beaconAnswers l ++ beaconAnswers l' := List.filterMap_append

end Append

/-! ## The events of one loop -/

/-- An event of the loop of `phase`, or of the handling at the end. -/
def Event.InPhase (phase : Phase) : Event → Prop
  | .requested phase' .. => phase' = phase ∧ phase.OfBeacons
  | .newSessionRequested _ => phase = .newSessions
  | .sent phase' .. => phase' = phase
  | .handled _ => phase = .handling
  | _ => True

section InPhase

variable {phase : Phase} {new : List Event} (h : ∀ event ∈ new, event.InPhase phase)

include h

/-- Another loop received nothing. -/
theorem answersIn_of_ne (phase' : Phase) (hne : phase' ≠ phase) : answersIn phase' new = [] := by
  refine List.filterMap_eq_nil_iff.mpr fun event he => ?_
  have hphase := h event he
  cases event with
  | requested phase'' chunk answer =>
    obtain ⟨rfl, -⟩ := hphase
    exact if_neg hne.symm
  | newSessionRequested answer =>
    obtain rfl : phase = .newSessions := hphase
    exact if_neg hne.symm
  | _ => rfl

/-- Another loop had no turn. -/
theorem replay_of_ne (phase' : Phase) (hne : phase' ≠ phase) (turns : Turns) :
    turns.replay phase' new = turns := by
  refine Turns.replay_of_step_eq (fun event he turns => ?_) turns
  have hphase := h event he
  cases event with
  | requested phase'' chunk answer =>
    obtain ⟨rfl, -⟩ := hphase
    exact if_neg hne.symm
  | sent phase'' k answer =>
    obtain rfl : phase'' = phase := hphase
    exact if_neg hne.symm
  | newSessionRequested answer =>
    obtain rfl : phase = .newSessions := hphase
    exact if_neg hne.symm
  | _ => rfl

theorem beaconAnswers_of_phase (hphase : phase.OfBeacons) :
    beaconAnswers new = answersIn phase new := by
  refine List.filterMap_congr fun event he => ?_
  have hevent := h event he
  cases event with
  | requested phase'' chunk answer => exact (if_pos hevent.1).symm
  | newSessionRequested answer =>
    obtain rfl : phase = .newSessions := hevent
    exact absurd hphase id
  | _ => rfl

theorem beaconAnswers_of_not (hphase : ¬ phase.OfBeacons) : beaconAnswers new = [] := by
  refine List.filterMap_eq_nil_iff.mpr fun event he => ?_
  have hevent := h event he
  cases event with
  | requested phase'' chunk answer => exact absurd hevent.2 hphase
  | _ => rfl

theorem handledAnswer_append_of_ne (hne : phase ≠ .handling) (l : List Event) :
    handledAnswer (new ++ l) = handledAnswer l := by
  rw [handledAnswer, List.filterMap_append, List.filterMap_eq_nil_iff.mpr, List.nil_append,
    handledAnswer]
  intro event he
  cases event with
  | handled answer => exact absurd (h _ he) hne
  | _ => rfl

end InPhase

/-- The logs of the parts of a cycle: the three loops and the handling. -/
structure CycleLog (new finished opened handling : List Event) : Prop where
  newSessions : ∀ event ∈ new, event.InPhase .newSessions
  finishedSessions : ∀ event ∈ finished, event.InPhase .finishedSessions
  openSessions : ∀ event ∈ opened, event.InPhase .openSessions
  handling : ∀ event ∈ handling, event.InPhase .handling

namespace CycleLog

variable {new finished opened handling : List Event} (h : CycleLog new finished opened handling)

include h

theorem answersIn_newSessions :
    answersIn .newSessions (new ++ (finished ++ (opened ++ handling))) =
      answersIn .newSessions new := by
  simp only [answersIn_append, answersIn_of_ne h.finishedSessions .newSessions nofun,
    answersIn_of_ne h.openSessions .newSessions nofun,
    answersIn_of_ne h.handling .newSessions nofun, List.append_nil]

theorem answersIn_finishedSessions :
    answersIn .finishedSessions (new ++ (finished ++ (opened ++ handling))) =
      answersIn .finishedSessions finished := by
  simp only [answersIn_append, answersIn_of_ne h.newSessions .finishedSessions nofun,
    answersIn_of_ne h.openSessions .finishedSessions nofun,
    answersIn_of_ne h.handling .finishedSessions nofun, List.append_nil,
    List.nil_append]

theorem answersIn_openSessions :
    answersIn .openSessions (new ++ (finished ++ (opened ++ handling))) =
      answersIn .openSessions opened := by
  simp only [answersIn_append, answersIn_of_ne h.newSessions .openSessions nofun,
    answersIn_of_ne h.finishedSessions .openSessions nofun,
    answersIn_of_ne h.handling .openSessions nofun, List.append_nil, List.nil_append]

theorem replay_newSessions (turns : Turns) :
    turns.replay .newSessions (new ++ (finished ++ (opened ++ handling))) =
      turns.replay .newSessions new := by
  simp only [Turns.replay_append, replay_of_ne h.finishedSessions .newSessions nofun,
    replay_of_ne h.openSessions .newSessions nofun,
    replay_of_ne h.handling .newSessions nofun]

theorem replay_finishedSessions (turns : Turns) :
    turns.replay .finishedSessions (new ++ (finished ++ (opened ++ handling))) =
      turns.replay .finishedSessions finished := by
  simp only [Turns.replay_append, replay_of_ne h.newSessions .finishedSessions nofun,
    replay_of_ne h.openSessions .finishedSessions nofun,
    replay_of_ne h.handling .finishedSessions nofun]

theorem replay_openSessions (turns : Turns) :
    turns.replay .openSessions (new ++ (finished ++ (opened ++ handling))) =
      turns.replay .openSessions opened := by
  simp only [Turns.replay_append, replay_of_ne h.newSessions .openSessions nofun,
    replay_of_ne h.finishedSessions .openSessions nofun,
    replay_of_ne h.handling .openSessions nofun]

/-- The answers of beacons come from two of the loops. -/
theorem lastReceived_eq :
    lastReceived (new ++ (finished ++ (opened ++ handling))) =
      (answersIn .finishedSessions finished ++ answersIn .openSessions opened).getLast?.or
        (answersIn .newSessions new).getLast? := by
  rw [lastReceived, h.answersIn_newSessions, beaconAnswers_append, beaconAnswers_append,
    beaconAnswers_append, beaconAnswers_of_not h.newSessions id,
    beaconAnswers_of_phase h.finishedSessions trivial,
    beaconAnswers_of_phase h.openSessions trivial, beaconAnswers_of_not h.handling id,
    List.nil_append, List.append_nil]

theorem handledAnswer_eq :
    handledAnswer (new ++ (finished ++ (opened ++ handling))) = handledAnswer handling := by
  rw [handledAnswer_append_of_ne h.newSessions nofun,
    handledAnswer_append_of_ne h.finishedSessions nofun,
    handledAnswer_append_of_ne h.openSessions nofun]

end CycleLog

/-! ## Runs within a loop -/

/-- From `w` to `t` the log grew by `new`, within the loop of `phase`, and the answers received are
those that the server gave to the requests made. -/
structure Ran (env : Environment) (phase : Phase) (w t : World) (new : List Event) : Prop where
  log : t.log = w.log ++ new
  inPhase : ∀ event ∈ new, event.InPhase phase
  answers : ∀ answer ∈ answersIn phase new,
    (w.numRequests ≤ answer.requestNumber ∧ answer.requestNumber < t.numRequests) ∧
      env.response answer.requestNumber = some answer.response
  le : w.numRequests ≤ t.numRequests
  phase : t.phase = w.phase

namespace Ran

variable {env : Environment} {phase : Phase} {w t u : World} {new new' : List Event}

theorem refl (w : World) : Ran env phase w w [] :=
  ⟨(List.append_nil _).symm, List.forall_mem_nil _, List.forall_mem_nil _, le_refl _, rfl⟩

theorem trans (h : Ran env phase w t new) (h' : Ran env phase t u new') :
    Ran env phase w u (new ++ new') := by
  refine ⟨?_, ?_, ?_, h.le.trans h'.le, h'.phase.trans h.phase⟩
  · rw [h'.log, h.log, List.append_assoc]
  · exact List.forall_mem_append.mpr ⟨h.inPhase, h'.inPhase⟩
  · rw [answersIn_append]
    refine List.forall_mem_append.mpr ⟨fun answer ha => ?_, fun answer ha => ?_⟩
    · obtain ⟨⟨hlow, hhigh⟩, hgiven⟩ := h.answers answer ha
      exact ⟨⟨hlow, hhigh.trans_le h'.le⟩, hgiven⟩
    · obtain ⟨⟨hlow, hhigh⟩, hgiven⟩ := h'.answers answer ha
      exact ⟨⟨h.le.trans hlow, hhigh⟩, hgiven⟩

end Ran

/-- From `w` to `t` the loop of `phase` ran on, and its turns went from `s` to `s'`. The answer, if
there is one, is the last that was received. -/
def Received (env : Environment) (phase : Phase) (w t : World) (s s' : Turns)
    (answer : Option Answer) : Prop :=
  ∃ new, Ran env phase w t new ∧ s.replay phase new = s' ∧
    ∀ a, answer = some a → (answersIn phase new).getLast? = some a

namespace Received

variable {env : Environment} {phase : Phase} {w t t' u : World} {s s' s'' : Turns}
  {answer answer' : Option Answer}

theorem refl (w : World) (s : Turns) : Received env phase w w s s none :=
  ⟨[], .refl w, rfl, fun _ h => by cases h⟩

/-- What ran later decides. -/
theorem trans (h : Received env phase w t s s' answer)
    (h' : Received env phase t u s' s'' answer') : Received env phase w u s s'' answer' := by
  obtain ⟨new, hran, hturns, -⟩ := h
  obtain ⟨new', hran', hturns', hlast⟩ := h'
  refine ⟨new ++ new', hran.trans hran', ?_, fun a ha => ?_⟩
  · rw [Turns.replay_append, hturns, hturns']
  · rw [answersIn_append, List.getLast?_append, hlast a ha, Option.some_or]

/-- A step that the log does not show. -/
theorem quiet (h : Received env phase w t s s' answer) (hlog : t'.log = t.log)
    (hnumber : t'.numRequests = t.numRequests) (hphase : t'.phase = t.phase) :
    Received env phase w t' s s' answer := by
  obtain ⟨new, hran, hturns, hlast⟩ := h
  refine ⟨new, ⟨hlog.trans hran.log, hran.inPhase, ?_, ?_, hphase.trans hran.phase⟩, hturns, hlast⟩
  · rw [hnumber]
    exact hran.answers
  · rw [hnumber]
    exact hran.le

/-- An event about no request. -/
theorem write (h : Received env phase w t s s' answer) {event : Event}
    (he : event.InPhase phase) (ha : answersIn phase [event] = []) :
    Received env phase w (t.write event) s (s'.step phase event) answer := by
  obtain ⟨new, hran, hturns, hlast⟩ := h
  have hwrite : Ran env phase t (t.write event) [event] := by
    refine ⟨rfl, List.forall_mem_singleton.mpr he, ?_, le_refl _, rfl⟩
    rw [ha]
    exact List.forall_mem_nil _
  refine ⟨new ++ [event], hran.trans hwrite, ?_, fun a hanswer => ?_⟩
  · rw [Turns.replay_append, hturns]
    rfl
  · rw [answersIn_append, ha, List.append_nil]
    exact hlast a hanswer

/-- The answer to a request that was written with the event `event`. -/
theorem of_request {event : Event} (he : event.InPhase phase)
    (ha : answersIn phase [event] = (BeaconSend.answerAt env w).toList) (s : Turns) :
    Received env phase w ({ w with numRequests := w.numRequests + 1 }.write event) s
      (s.step phase event) (BeaconSend.answerAt env w) := by
  refine ⟨[event], ⟨rfl, List.forall_mem_singleton.mpr he, ?_, Nat.le_succ _, rfl⟩, rfl, ?_⟩
  · rw [ha]
    intro answer hmem
    obtain ⟨response, hresponse, rfl⟩ := Option.map_eq_some_iff.mp (Option.mem_toList.mp hmem)
    exact ⟨⟨le_refl _, Nat.lt_succ_self _⟩, hresponse⟩
  · intro a hanswer
    rw [ha, hanswer]
    rfl

theorem phase_eq (h : Received env phase w t s s' answer) : t.phase = w.phase := by
  obtain ⟨new, hran, -⟩ := h
  exact hran.phase

end Received

end OpenKit
