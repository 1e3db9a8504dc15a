/- What a call of a lock session exchanges with the lock, and what of it the session takes to heart. -/
import DoorControl.Lock.Session

namespace DoorControl.Lock

open Serial

variable {P : Type} [Port P]

/-- A command, and the reply to it or the reason why there is none. -/
structure Exchange where
  command : Command
  result : Except DeviceError String

/-- Exchanges, one after the other, lead from one state of a link to another. -/
inductive Dialogue : Link P → List Exchange → Link P → Prop
  | silent {l : Link P} : Dialogue l [] l
  | exchange {l l' l'' : Link P} {command : Command} {result : Except DeviceError String}
      {later : List Exchange} (timeout : Nat)
      (goes : l.exchange command.word timeout = (result, l')) (rest : Dialogue l' later l'') :
      Dialogue l (⟨command, result⟩ :: later) l''

theorem Dialogue.append {l l' l'' : Link P} {es later : List Exchange} (h : Dialogue l es l')
    (rest : Dialogue l' later l'') : Dialogue l (es ++ later) l'' := by
  induction h with
  | silent => exact rest
  | exchange timeout goes _ ih => exact .exchange timeout goes (ih rest)

theorem Dialogue.single {l l' : Link P} {command : Command} {result : Except DeviceError String}
    {timeout : Nat} (goes : l.exchange command.word timeout = (result, l')) :
    Dialogue l [⟨command, result⟩] l' := .exchange timeout goes .silent

/-- The lock has reported its status, a calibration has found ranges, or the bolt has been driven. -/
inductive Notice
  | reported (status : Status)
  | found (ranges : Calibration)
  | reached (desired : BoltState)
  deriving DecidableEq

/-- What a reply tells, if it can be read. A reply to a lock command tells nothing of this kind. -/
def Exchange.notice? (e : Exchange) : Option Notice :=
  match e.command, e.result with
  | .status, .ok reply => (readStatus reply).toOption.map .reported
  | .calibrate, .ok reply => (readCalibration reply).toOption.map .found
  | _, _ => none

namespace Session

def hear (s : Session P) : Notice → Session P
  | .reported status => { s with status }
  | .found ranges => { s with calibration := some ranges }
  | .reached desired => s.storeBolt desired

def hearAll (s : Session P) (notices : List Notice) : Session P := notices.foldl hear s

section

omit [Port P]

theorem hear_withLink (s : Session P) (link : Link P) (e : Notice) :
    ({ s with link } : Session P).hear e = { s.hear e with link } := by
  cases e <;> rfl

theorem hearAll_withLink (s : Session P) (link : Link P) (notices : List Notice) :
    ({ s with link } : Session P).hearAll notices = { s.hearAll notices with link } := by
  induction notices generalizing s with
  | nil => rfl
  | cons e notices ih =>
      change (({ s with link } : Session P).hear e).hearAll notices = _
      rw [hear_withLink]
      exact ih (s.hear e)

end

/-- Exchanges lead from one session to another, which has taken over what they told and nothing else. Its
status is still the one before. -/
structure Advances (s : Session P) (es : List Exchange) (s' : Session P) : Prop where
  dialogue : Dialogue s.link es s'.link
  told : s' = { s.hearAll (es.filterMap Exchange.notice?) with link := s'.link }
  status : s'.status = s.status

namespace Advances

variable {s s' s'' : Session P} {es later : List Exchange}

theorem refl (s : Session P) : s.Advances [] s := ⟨.silent, rfl, rfl⟩

theorem trans (h : s.Advances es s') (rest : s'.Advances later s'') :
    s.Advances (es ++ later) s'' where
  dialogue := h.dialogue.append rest.dialogue
  told := by
    have heard := rest.told
    rw [h.told, hearAll_withLink] at heard
    rw [List.filterMap_append, hearAll, List.foldl_append]
    exact heard
  status := rest.status.trans h.status

end Advances

def hasTime (deadline : Nat) (s : Session P) : Bool := deadline - Port.now s.link.port ≠ 0

variable {s s' : Session P} {command : Command} {deadline : Nat} {desired : BoltState}

def exchangesUntil (command : Command) (deadline : Nat) (s : Session P) : List Exchange :=
  if s.hasTime deadline then [⟨command, (s.exchangeUntil command deadline).1⟩] else []

/-- The exchanges of a calibration and of the command that is to follow it. -/
def calibratesUntil (deadline : Nat) (next : Session P → List Exchange) (s : Session P) :
    List Exchange :=
  s.exchangesUntil .calibrate deadline ++
    match s.calibrateUntil deadline with
    | (.ok _, s) => next s
    | (.error _, _) => []

def drivesUntil (command : Command) (deadline : Nat) (s : Session P) : List Exchange :=
  s.exchangesUntil command deadline ++
    match s.commandUntil command deadline with
    | (.error (.protocol .notCalibrated), s) =>
        s.calibratesUntil deadline (exchangesUntil command deadline)
    | _ => []

def drivesTo (desired : BoltState) (s : Session P) : List Exchange :=
  match Command.towards? desired with
  | none => []
  | some command =>
      let deadline := s.commandDeadline
      if s.status.bolt = .unknown then s.calibratesUntil deadline (drivesUntil command deadline)
      else s.drivesUntil command deadline

theorem exchangeUntil_dialogue : Dialogue s.link (s.exchangesUntil command deadline)
    (s.exchangeUntil command deadline).2.link := by
  unfold exchangesUntil hasTime exchangeUntil
  by_cases late : deadline - Port.now s.link.port = 0
  · simpa [late] using Dialogue.silent
  · simp only [late, ne_eq, not_false_eq_true, decide_true, if_true, if_false]
    exact .single rfl

theorem exchangeUntil_session : (s.exchangeUntil command deadline).2 =
    { s with link := (s.exchangeUntil command deadline).2.link } := by
  unfold exchangeUntil
  dsimp only
  split <;> rfl

/-- A reply comes of an exchange, which takes time. -/
theorem exchangesUntil_of_ok {reply : String}
    (ok : (s.exchangeUntil command deadline).1 = .ok reply) :
    s.exchangesUntil command deadline = [⟨command, .ok reply⟩] := by
  unfold exchangesUntil
  rw [ok]
  split
  · rfl
  · next late =>
      have late : deadline - Port.now s.link.port = 0 := by simpa [hasTime] using late
      simp [exchangeUntil, late] at ok

theorem notices_of_untold
    (untold : Exchange.notice? ⟨command, (s.exchangeUntil command deadline).1⟩ = none) :
    (s.exchangesUntil command deadline).filterMap Exchange.notice? = [] := by
  unfold exchangesUntil
  split
  · simp [untold]
  · rfl

theorem exchangeUntil_advances
    (untold : Exchange.notice? ⟨command, (s.exchangeUntil command deadline).1⟩ = none) :
    s.Advances (s.exchangesUntil command deadline) (s.exchangeUntil command deadline).2 where
  dialogue := exchangeUntil_dialogue
  told := by
    rw [notices_of_untold untold]
    exact exchangeUntil_session
  status := by rw [exchangeUntil_session]

theorem calibrateUntil_advances :
    s.Advances (s.exchangesUntil .calibrate deadline) (s.calibrateUntil deadline).2 := by
  unfold calibrateUntil
  cases exchanged : s.exchangeUntil .calibrate deadline with
  | mk result t =>
      have first : (s.exchangeUntil .calibrate deadline).1 = result := congrArg Prod.fst exchanged
      have last : (s.exchangeUntil .calibrate deadline).2 = t := congrArg Prod.snd exchanged
      cases result with
      | error e =>
          refine last ▸ exchangeUntil_advances ?_
          rw [first]
          rfl
      | ok reply =>
          cases read : readCalibration reply with
          | error e =>
              simp only [read]
              refine last ▸ exchangeUntil_advances ?_
              simp [first, Exchange.notice?, read, Except.toOption]
          | ok ranges =>
              simp only [read]
              have same : t = { s with link := t.link } := last ▸ exchangeUntil_session
              refine ⟨last ▸ exchangeUntil_dialogue, ?_, by rw [same]⟩
              have told : (s.exchangesUntil .calibrate deadline).filterMap Exchange.notice? =
                  [.found ranges] := by
                simp [exchangesUntil_of_ok first, Exchange.notice?, read, Except.toOption]
              rw [told, same]
              rfl

/-- The commands that drive the bolt are answered with an acknowledgement, which tells nothing else. -/
theorem notice?_of_towards (drives : Command.towards? desired = some command)
    (result : Except DeviceError String) : Exchange.notice? ⟨command, result⟩ = none := by
  cases desired <;> cases drives <;> rfl

theorem commandUntil_session :
    (s.commandUntil command deadline).2 = (s.exchangeUntil command deadline).2 := by
  unfold commandUntil
  split
  · next exchanged => rw [exchanged]
  · next exchanged =>
      rw [exchanged]
      split <;> rfl

theorem commandUntil_advances (drives : Command.towards? desired = some command) (s : Session P) :
    s.Advances (s.exchangesUntil command deadline) (s.commandUntil command deadline).2 := by
  rw [commandUntil_session]
  exact exchangeUntil_advances (notice?_of_towards drives _)

theorem calibratesUntil_advances {next : Session P → Except DeviceError Unit × Session P}
    {exchanges : Session P → List Exchange}
    (advances : ∀ t : Session P, t.Advances (exchanges t) (next t).2) :
    s.Advances (s.calibratesUntil deadline exchanges)
      (match s.calibrateUntil deadline with
        | (.error e, t) => (.error e, t)
        | (.ok _, t) => next t : Except DeviceError Unit × Session P).2 := by
  have first : s.Advances (s.exchangesUntil .calibrate deadline) (s.calibrateUntil deadline).2 :=
    calibrateUntil_advances
  unfold calibratesUntil
  cases calibrated : s.calibrateUntil deadline with
  | mk result t =>
      rw [calibrated] at first
      cases result with
      | error e => exact first.trans (.refl t)
      | ok ranges => exact first.trans (advances t)

theorem driveUntil_advances (drives : Command.towards? desired = some command) (s : Session P) :
    s.Advances (s.drivesUntil command deadline) (s.driveUntil command deadline).2 := by
  have first : s.Advances (s.exchangesUntil command deadline) (s.commandUntil command deadline).2 :=
    commandUntil_advances drives s
  unfold driveUntil drivesUntil
  cases sent : s.commandUntil command deadline with
  | mk result t =>
      rw [sent] at first
      -- Only a lock that has lost its calibration is calibrated, and then told once more.
      split
      · next refused =>
          obtain ⟨rfl, rfl⟩ := Prod.mk.inj refused
          exact first.trans (calibratesUntil_advances (commandUntil_advances drives))
      · next other =>
          split
          · next refused => exact absurd refused (other _)
          · next same =>
              obtain ⟨rfl, rfl⟩ := Prod.mk.inj same
              exact first.trans (.refl t)

theorem driveTo_advances (desired : BoltState) (s : Session P) :
    s.Advances (s.drivesTo desired) (s.driveTo desired).2 := by
  unfold driveTo drivesTo
  cases drives : Command.towards? desired with
  | none => exact .refl s
  | some command =>
      dsimp only
      split
      · exact calibratesUntil_advances (driveUntil_advances drives)
      · exact driveUntil_advances drives s

end Session

end DoorControl.Lock
