/- Where the status and the calibration of a lock session come from, over any series of calls. -/
import DoorControl.Proofs.Lock.Dialogue
import DoorControl.Serial.Bench

namespace DoorControl.Lock

open Serial

variable {P : Type} [Port P]

namespace Notice

def bolt? : Notice → Option BoltState
  | .reported status => some status.bolt
  | .reached desired => some desired
  | .found _ => none

def report? : Notice → Option Status
  | .reported status => some status
  | .reached _ | .found _ => none

def ranges? : Notice → Option Calibration
  | .found ranges => some ranges
  | .reported _ | .reached _ => none

end Notice

inductive Call
  | poll
  | calibrate
  | setState (desired : BoltState)

namespace Session

section

omit [Port P]

variable (s : Session P) (notices : List Notice)

/-- Of a series of notices the last one of each kind counts. -/
theorem hearAll_bolt : (s.hearAll notices).status.bolt =
    (notices.filterMap Notice.bolt?).getLast?.getD s.status.bolt := by
  induction notices generalizing s with
  | nil => rfl
  | cons e notices ih =>
      refine (ih (s.hear e)).trans ?_
      cases e <;> simp [Notice.bolt?, hear, storeBolt, List.getLast?_cons]

/-- What a report says beside the bolt is not changed by driving the bolt. -/
theorem hearAll_status : (s.hearAll notices).status =
    { (notices.filterMap Notice.report?).getLast?.getD s.status with
      bolt := (s.hearAll notices).status.bolt } := by
  induction notices generalizing s with
  | nil => rfl
  | cons e notices ih =>
      refine (ih (s.hear e)).trans ?_
      cases e with
      | reported status => simp [Notice.report?, hear, hearAll, List.getLast?_cons]
      | found ranges => simp [Notice.report?, hear, hearAll]
      | reached desired =>
          rw [List.filterMap_cons_none rfl]
          cases (notices.filterMap Notice.report?).getLast? <;> rfl

theorem hearAll_calibration : (s.hearAll notices).calibration =
    (notices.filterMap Notice.ranges?).getLast?.or s.calibration := by
  induction notices generalizing s with
  | nil => rfl
  | cons e notices ih =>
      refine (ih (s.hear e)).trans ?_
      cases e with
      | found ranges =>
          cases last : (notices.filterMap Notice.ranges?).getLast? <;>
            simp [Notice.ranges?, hear, List.getLast?_cons, last]
      | reported status => simp [Notice.ranges?, hear]
      | reached desired => simp [Notice.ranges?, hear, storeBolt]

end

/-- A call, where only its success or failure matters. -/
def call (s : Session P) : Call → Except DeviceError Unit × Session P
  | .poll => (s.poll.1.map fun _ => (), s.poll.2)
  | .calibrate => (s.calibrate.1.map fun _ => (), s.calibrate.2)
  | .setState desired => s.setState desired

def exchanges (s : Session P) : Call → List Exchange
  | .poll => [⟨.status, s.fetchStatus.1⟩]
  | .calibrate => s.exchangesUntil .calibrate s.commandDeadline
  | .setState desired => s.drivesTo desired

/-- What a call tells: what the replies in its exchanges tell, and that the bolt has been driven if it
returns so. -/
def notices (s : Session P) (c : Call) : List Notice :=
  (s.exchanges c).filterMap Exchange.notice? ++
    match c, (s.call c).1 with
    | .setState desired, .ok () => [.reached desired]
    | _, _ => []

/-- A call takes over what it tells, and nothing else. -/
structure Takes (s : Session P) (c : Call) : Prop where
  dialogue : Dialogue s.link (s.exchanges c) (s.call c).2.link
  told : (s.call c).2 = { s.hearAll (s.notices c) with link := (s.call c).2.link }
  failed : ∀ e, (s.call c).1 = .error e → (s.call c).2.status = s.status

theorem poll_takes (s : Session P) : s.Takes .poll := by
  have dialogue : Dialogue s.link [⟨.status, s.fetchStatus.1⟩] s.fetchStatus.2.link := .single rfl
  have session : s.fetchStatus.2 = { s with link := s.fetchStatus.2.link } := rfl
  cases fetched : s.fetchStatus with
  | mk result t =>
      rw [fetched] at dialogue session
      dsimp only at dialogue session
      cases result with
      | error e =>
          refine ⟨?_, ?_, ?_⟩ <;>
            simp only [call, exchanges, notices, poll, fetched, Except.map]
          · exact dialogue
          · exact session
          · exact fun _ _ => by rw [session]
      | ok reply =>
          cases read : readStatus reply with
          | error e =>
              refine ⟨?_, ?_, ?_⟩ <;>
                simp only [call, exchanges, notices, poll, fetched, storeStatus, read, Except.map]
              · exact dialogue
              · simpa [Exchange.notice?, read, Except.toOption, hearAll] using session
              · exact fun _ _ => by rw [session]
          | ok status =>
              refine ⟨?_, ?_, ?_⟩ <;>
                simp only [call, exchanges, notices, poll, fetched, storeStatus, read, Except.map]
              · exact dialogue
              · rw [session]
                simp [Exchange.notice?, read, Except.toOption, hearAll, hear]
              · intro e failed
                cases failed

theorem calibrate_takes (s : Session P) : s.Takes .calibrate := by
  have advances : s.Advances (s.exchangesUntil .calibrate s.commandDeadline)
      (s.calibrateUntil s.commandDeadline).2 := calibrateUntil_advances
  have told : s.notices .calibrate =
      (s.exchangesUntil .calibrate s.commandDeadline).filterMap Exchange.notice? :=
    List.append_nil _
  exact ⟨advances.dialogue, told ▸ advances.told, fun _ _ => advances.status⟩

theorem setState_takes (desired : BoltState) (s : Session P) : s.Takes (.setState desired) := by
  have advances := driveTo_advances desired s
  cases driven : s.driveTo desired with
  | mk result t =>
      rw [driven] at advances
      cases result with
      | error e =>
          have same : s.call (.setState desired) = (.error e, t) := by
            simp only [call, setState, driven]
          refine ⟨?_, ?_, ?_⟩ <;> simp only [notices, exchanges, same]
          · exact advances.dialogue
          · simpa only [List.append_nil] using advances.told
          · exact fun _ _ => advances.status
      | ok done =>
          -- The bolt's new place comes last, after all that the replies have told.
          have same : s.call (.setState desired) = (.ok (), t.storeBolt desired) := by
            simp only [call, setState, driven]
          refine ⟨?_, ?_, ?_⟩ <;> simp only [notices, exchanges, same]
          · exact advances.dialogue
          · have told : t = { s.hearAll ((s.drivesTo desired).filterMap Exchange.notice?) with
                link := t.link } := advances.told
            have reached := congrArg (storeBolt desired) told
            rw [hearAll, List.foldl_append, ← hearAll]
            exact reached
          · intro e failed
            cases failed

theorem call_takes (s : Session P) (c : Call) : s.Takes c := by
  cases c with
  | poll => exact poll_takes s
  | calibrate => exact calibrate_takes s
  | setState desired => exact setState_takes desired s

end Session

/-- A call, and the port as the call finds it: between two calls time passes and input comes in. -/
structure Use (P : Type) where
  call : Call
  port : P

def Use.finds (u : Use P) (s : Session P) : Session P := { s with link := { s.link with port := u.port } }

/-- Calls, one after the other, on a session that is new before the first one. -/
structure History (P : Type) where
  timing : Timing := {}
  uses : Nat → Use P

namespace History

variable (h : History P)

def stateAt : Nat → Session P
  | 0 => { link := { port := (h.uses 0).port }, timing := h.timing }
  | n + 1 => (((h.uses n).finds (stateAt n)).call (h.uses n).call).2

def foundAt (n : Nat) : Session P := (h.uses n).finds (h.stateAt n)

def resultAt (n : Nat) : Except DeviceError Unit := ((h.foundAt n).call (h.uses n).call).1

def exchangesAt (n : Nat) : List Exchange := (h.foundAt n).exchanges (h.uses n).call

def noticesAt (n : Nat) : List Notice := (h.foundAt n).notices (h.uses n).call

def noticesBefore (n : Nat) : List Notice := (List.range n).flatMap h.noticesAt

theorem stateAt_succ (n : Nat) : h.stateAt (n + 1) =
    { (h.stateAt n).hearAll (h.noticesAt n) with link := (h.stateAt (n + 1)).link } := by
  have told := ((h.foundAt n).call_takes (h.uses n).call).told
  rw [foundAt, Use.finds, Session.hearAll_withLink] at told
  exact told

theorem stateAt_told (n : Nat) : h.stateAt n =
    { (h.stateAt 0).hearAll (h.noticesBefore n) with link := (h.stateAt n).link } := by
  induction n with
  | zero => rfl
  | succ n ih =>
      have next := h.stateAt_succ n
      rw [ih, Session.hearAll_withLink] at next
      rw [noticesBefore, List.range_succ, List.flatMap_append, List.flatMap_singleton,
        Session.hearAll, List.foldl_append]
      exact next

theorem stateAt_status (n : Nat) : (h.stateAt n).status =
    { ((h.noticesBefore n).filterMap Notice.report?).getLast?.getD {} with
      bolt := ((h.noticesBefore n).filterMap Notice.bolt?).getLast?.getD .unknown } := by
  rw [h.stateAt_told n]
  dsimp only
  rw [Session.hearAll_status, Session.hearAll_bolt]
  rfl

theorem stateAt_calibration (n : Nat) : (h.stateAt n).calibration =
    ((h.noticesBefore n).filterMap Notice.ranges?).getLast? := by
  rw [h.stateAt_told n]
  exact (Session.hearAll_calibration _ _).trans Option.or_none

theorem noticesAt_of_error {n : Nat} {e : DeviceError} (fails : h.resultAt n = .error e) :
    h.noticesAt n = (h.exchangesAt n).filterMap Exchange.notice? := by
  unfold resultAt at fails
  unfold noticesAt Session.notices
  rw [fails]
  split
  · next ok => cases ok
  · exact List.append_nil _

/-- The bolt is where the last accepted status reply or the last state change that has succeeded says, the
rest of the status is that of the last accepted status reply, and the calibration is that of the last
accepted reply to a calibration, whichever call has asked for it. -/
theorem status_has_source (n : Nat) :
    Dialogue (h.foundAt n).link (h.exchangesAt n) (h.stateAt (n + 1)).link ∧
      (h.stateAt n).status =
        { ((h.noticesBefore n).filterMap Notice.report?).getLast?.getD {} with
          bolt := ((h.noticesBefore n).filterMap Notice.bolt?).getLast?.getD .unknown } ∧
      (h.stateAt n).calibration = ((h.noticesBefore n).filterMap Notice.ranges?).getLast? ∧
      ∀ e, h.resultAt n = .error e →
        (h.stateAt (n + 1)).status = (h.stateAt n).status ∧
          (h.stateAt (n + 1)).calibration =
            (((h.exchangesAt n).filterMap Exchange.notice?).filterMap Notice.ranges?).getLast?.or
              (h.stateAt n).calibration := by
  have takes := (h.foundAt n).call_takes (h.uses n).call
  refine ⟨takes.dialogue, h.stateAt_status n, h.stateAt_calibration n, ?_⟩
  intro e fails
  refine ⟨takes.failed e fails, ?_⟩
  rw [h.stateAt_succ n, h.noticesAt_of_error fails]
  exact Session.hearAll_calibration _ _

/-- A lock that has lost its calibration, and whose bolt is stuck. -/
def stuck : Bench := Bench.answerFrom
  [("status", [["OK: status unlocked open lowered 5"]]),
    ("lock", [["ERROR: not calibrated"], ["ERROR: jammed"]]),
    ("calibrate", [["OK: locked 10-40 unlocked 700-760"]])] {}

def stuckHistory : History Bench where
  uses n := ⟨if n = 0 then .poll else .setState .locked, stuck⟩

/-- The state change fails after the calibration in it: the ranges are kept, and the status too. -/
theorem stuckHistory_keeps :
    (stuckHistory.stateAt 2).status = { bolt := .unlocked, doorOpen := true, encoder := 5 } ∧
      (stuckHistory.stateAt 2).calibration = some ⟨⟨10, 40⟩, ⟨700, 760⟩⟩ := by
  have fails : stuckHistory.resultAt 1 =
      .error (.protocol (.malformedReply "lock" "ERROR: jammed")) := by rfl
  obtain ⟨-, status, -, failed⟩ := stuckHistory.status_has_source 1
  obtain ⟨kept, found⟩ := failed _ fails
  rw [kept, status, found]
  exact ⟨by rfl, by rfl⟩

end History

end DoorControl.Lock
