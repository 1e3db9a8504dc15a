/- Whose answer an exchange with the lock returns, when answers may come late. -/
import DoorControl.Lock.Session
import DoorControl.Proofs.Serial.Exchange

namespace DoorControl.Lock

open Serial ReplyLine
open Text (Utf8.encode)

variable {d : Device} {l l' : Link (Remote d)} {command : Command} {timeout : Nat} {reply : String}

theorem Command.word_oneLine (command : Command) : newline ∉ Utf8.encode command.word := by
  cases command <;> decide

/-- The link after a series of exchanges, however they ended. -/
def exchanged (d : Device) (earlier : List (Command × Nat)) : Link (Remote d) :=
  earlier.foldl (fun l (command, timeout) => (l.exchange command.word timeout).2) { port := {} }

theorem exchanged_line (d : Device) (earlier : List (Command × Nat)) :
    (exchanged d earlier).port.line = [] := by
  have hrun (l : Link (Remote d)) (hl : l.port.line = []) :
      (earlier.foldl (fun l (command, timeout) =>
        (l.exchange command.word timeout).2) l).port.line = [] := by
    induction earlier generalizing l with
    | nil => exact hl
    | cons e earlier ih => exact ih _ (Link.exchange_line e.1.word_oneLine hl)
  exact hrun _ rfl

/-- No command line has been begun, and no answer is on its way once what has come in is dropped. -/
structure Calm (l : Link (Remote d)) : Prop where
  line : l.port.line = []
  quiet : l.sending.waiting = []

/-- An exchange on a calm link returns the answer to its own command, and leaves the link calm. -/
theorem Calm.exchange (h : Calm l) (ok : l.exchange command.word timeout = (.ok reply, l')) :
    (d.answer l.port.heard (Utf8.encode command.word)).replyTo? command.word = some reply ∧
      Calm l' ∧ l'.port.heard = l.port.heard ++ [Utf8.encode command.word] := by
  obtain ⟨hfirst, hheard, hwaiting⟩ := Link.exchange_ok command.word_oneLine h.line ok
  refine ⟨?_, ⟨?_, ?_⟩, hheard⟩
  · simpa [Remote.ahead, Remote.behind, Remote.answerTo, h.quiet, l.sending_later.heard,
      firstReply?] using hfirst
  · exact congrArg (·.2.port.line) ok ▸ Link.exchange_line command.word_oneLine h.line
  · exact l'.sending_later.waiting_eq_nil (hwaiting h.quiet)

/-- Among the lines heard between two moments is the command, and the device's answer to it is an
acknowledgement. -/
def Acknowledged (d : Device) (command : Command) (before after : List (List UInt8)) : Prop :=
  ∃ heard reply body, before <+: heard ∧ heard ++ [Utf8.encode command.word] <+: after ∧
    (d.answer heard (Utf8.encode command.word)).replyTo? command.word = some reply ∧
    readAck command reply = .ok body

theorem Acknowledged.mono {before before' after : List (List UInt8)}
    (h : Acknowledged d command before' after) (hb : before <+: before') :
    Acknowledged d command before after := by
  obtain ⟨heard, reply, body, hbefore, hrest⟩ := h
  exact ⟨heard, reply, body, hb.trans hbefore, hrest⟩

end DoorControl.Lock

namespace DoorControl.Serial.Link

variable {P : Type} [Port P] {command : String} {timeout : Nat} {e : ProtocolError}

theorem awaitReply_protocol (n : Nat) (l : Link P) :
    (awaitReply command timeout n l).1 ≠ .error (.protocol e) := by
  induction n generalizing l with
  | zero =>
      unfold awaitReply
      split <;> simp
  | succ n ih =>
      unfold awaitReply
      split
      · simp
      · dsimp only
        split
        · split
          · exact ih _
          · simp
        · exact ih _
        · exact ih _

theorem exchange_protocol (l : Link P) :
    (l.exchange command timeout).1 ≠ .error (.protocol e) := by
  unfold exchange
  split
  · simp
  · split
    · simp
    · exact awaitReply_protocol _ _

end DoorControl.Serial.Link

namespace DoorControl.Lock.Session

open Serial ReplyLine
open Text (Utf8.encode)

variable {d : Device} {s s' : Session (Remote d)} {command : Command} {deadline : Nat}

def heard (s : Session (Remote d)) : List (List UInt8) := s.link.port.heard

theorem exchangeUntil_ok {reply : String} (h : Calm s.link)
    (ok : s.exchangeUntil command deadline = (.ok reply, s')) :
    (d.answer s.heard (Utf8.encode command.word)).replyTo? command.word = some reply ∧
      Calm s'.link ∧ s'.heard = s.heard ++ [Utf8.encode command.word] := by
  unfold exchangeUntil at ok
  dsimp only at ok
  split at ok
  · simp at ok
  · obtain ⟨hresult, rfl⟩ := Prod.mk.inj ok
    exact h.exchange (Prod.ext hresult rfl)

theorem exchangeUntil_protocol {P : Type} [Port P] {s : Session P} {e : ProtocolError} :
    (s.exchangeUntil command deadline).1 ≠ .error (.protocol e) := by
  unfold exchangeUntil
  dsimp only
  split
  · simp
  · exact Link.exchange_protocol s.link

theorem commandUntil_ok (h : Calm s.link) (ok : s.commandUntil command deadline = (.ok (), s')) :
    Acknowledged d command s.heard s'.heard := by
  unfold commandUntil at ok
  split at ok
  · simp at ok
  · next reply s₁ hx =>
      obtain ⟨hreply, -, hheard⟩ := exchangeUntil_ok h hx
      split at ok
      · next body hack =>
          obtain rfl : s₁ = s' := by simpa using ok
          exact ⟨s.heard, reply, body, List.prefix_refl _, hheard ▸ List.prefix_refl _, hreply, hack⟩
      · simp at ok

/-- A refusal by an uncalibrated lock is its answer to the command, so that the link stays calm. -/
theorem commandUntil_refused {e : ProtocolError} (h : Calm s.link)
    (refused : s.commandUntil command deadline = (.error (.protocol e), s')) :
    Calm s'.link ∧ s.heard <+: s'.heard := by
  unfold commandUntil at refused
  split at refused
  · next e' s₁ hx =>
      obtain ⟨rfl, rfl⟩ : e' = .protocol e ∧ s₁ = s' := by simpa using refused
      exact absurd (congrArg Prod.fst hx) exchangeUntil_protocol
  · next reply s₁ hx =>
      obtain ⟨-, hcalm, hheard⟩ := exchangeUntil_ok h hx
      split at refused
      · simp at refused
      · obtain ⟨-, rfl⟩ := Prod.mk.inj refused
        exact ⟨hcalm, hheard ▸ List.prefix_append _ _⟩

theorem calibrateUntil_ok {ranges : Calibration} (h : Calm s.link)
    (ok : s.calibrateUntil deadline = (.ok ranges, s')) :
    Calm s'.link ∧ s.heard <+: s'.heard := by
  unfold calibrateUntil at ok
  split at ok
  · simp at ok
  · next reply s₁ hx =>
      obtain ⟨-, hcalm, hheard⟩ := exchangeUntil_ok h hx
      split at ok
      · obtain ⟨-, rfl⟩ := Prod.mk.inj ok
        exact ⟨hcalm, hheard ▸ List.prefix_append _ _⟩
      · simp at ok

theorem driveUntil_ok (h : Calm s.link) (ok : s.driveUntil command deadline = (.ok (), s')) :
    Acknowledged d command s.heard s'.heard := by
  unfold driveUntil at ok
  split at ok
  · next s₁ hx =>
      obtain ⟨hcalm₁, hprefix₁⟩ := commandUntil_refused h hx
      split at ok
      · simp at ok
      · next ranges s₂ hcal =>
          obtain ⟨hcalm₂, hprefix₂⟩ := calibrateUntil_ok hcalm₁ hcal
          exact (commandUntil_ok hcalm₂ ok).mono (hprefix₁.trans hprefix₂)
  · next result s₁ _ hx =>
      obtain ⟨rfl, rfl⟩ := Prod.mk.inj ok
      exact commandUntil_ok h hx

/-- On a calm link a state that is reached has been acknowledged in this call. -/
theorem setState_ok {desired : BoltState} (h : Calm s.link)
    (drives : Command.towards? desired = some command)
    (ok : s.setState desired = (.ok (), s')) : Acknowledged d command s.heard s'.heard := by
  unfold setState driveTo at ok
  rw [drives] at ok
  dsimp only at ok
  split at ok
  · simp at ok
  · next s₁ hx =>
      obtain ⟨-, rfl⟩ := Prod.mk.inj ok
      change Acknowledged d command s.heard s₁.heard
      split at hx
      · split at hx
        · simp at hx
        · next ranges s₂ hcal =>
            obtain ⟨hcalm, hprefix⟩ := calibrateUntil_ok h hcal
            exact (driveUntil_ok hcalm hx).mono hprefix
      · exact driveUntil_ok h hx

end DoorControl.Lock.Session

namespace DoorControl.Lock

open Serial ReplyLine
open Text (Utf8.encode)

/-- The first reply among the lines ahead of an answer decides whether an exchange returns that answer:
none of them may be a reply, or the first one that is has to read the same. A state that is reached on a
link with nothing on its way has been acknowledged in the same call. -/
theorem own_answer_iff (d : Device) (earlier : List (Command × Nat)) (command : Command)
    (timeout : Nat) :
    let link := exchanged d earlier
    let own := link.sending.answerTo (Utf8.encode command.word)
    (∀ reply, (link.exchange command.word timeout).1 = .ok reply →
      firstReply? command.word (link.sending.ahead ++ own :: link.sending.behind) = some reply ∧
      (own.replyTo? command.word = some reply ↔ (own.replyTo? command.word).isSome ∧
        ∀ other, firstReply? command.word link.sending.ahead = some other →
          own.replyTo? command.word = some other)) ∧
    (∀ (s : Session (Remote d)) (desired : BoltState), s.link = link →
      Command.towards? desired = some command → link.sending.waiting = [] →
      (s.setState desired).1 = .ok () →
      Acknowledged d command link.port.heard (s.setState desired).2.heard) := by
  intro link own
  have hline : link.port.line = [] := exchanged_line d earlier
  refine ⟨?_, ?_⟩
  · intro reply ok
    have hexchange : link.exchange command.word timeout =
        (.ok reply, (link.exchange command.word timeout).2) := Prod.ext ok rfl
    obtain ⟨hfirst, -⟩ := Link.exchange_ok command.word_oneLine hline hexchange
    exact ⟨hfirst, replyTo?_eq_iff hfirst⟩
  · intro s desired hs drives quiet ok
    have calm : Calm s.link := ⟨hs ▸ hline, hs ▸ quiet⟩
    exact hs ▸ Session.setState_ok calm drives (Prod.ext ok rfl)

/-- A device that answers in order, whose first reads give nothing. -/
def slowDevice (silent : Nat) (toLock : ReplyLine) : Device where
  answer _ line :=
    if line = Utf8.encode "lock" then toLock
    else ⟨Utf8.encode "OK: status unlocked closed lowered 5", by decide, by decide⟩
  lead n := n
  reading n := if n < silent then .error ⟨.timedOut, "no data"⟩ else .ok readChunk
  clock _ := 0
  patience _ _ := 1

def lockedLine : ReplyLine := ⟨Utf8.encode "OK: locked", by decide, by decide⟩

def unlockedLine : ReplyLine :=
  ⟨Utf8.encode "OK: status unlocked closed lowered 5", by decide, by decide⟩

def jammedLine : ReplyLine := ⟨Utf8.encode "ERROR: jammed", by decide, by decide⟩

/-- A late answer to a status poll that comes in before the lock command is sent does no harm. -/
theorem own_answer_after_late_status :
    let link := exchanged (slowDevice 2 lockedLine) [(.status, 100)]
    let s : Session _ := { link, status := { bolt := .unlocked } }
    (link.exchange "lock" 10000).1 = .ok "OK: locked" ∧
      (link.sending.answerTo (Utf8.encode "lock")).replyTo? "lock" = some "OK: locked" ∧
      (s.setState .locked).1 = .ok () ∧
      Acknowledged (slowDevice 2 lockedLine) .lock link.port.heard (s.setState .locked).2.heard := by
  intro link s
  obtain ⟨own, acknowledged⟩ := own_answer_iff (slowDevice 2 lockedLine) [(.status, 100)] .lock 10000
  have ok : (link.exchange "lock" 10000).1 = .ok "OK: locked" := by rfl
  have driven : (s.setState .locked).1 = .ok () := by rfl
  refine ⟨ok, (own "OK: locked" ok).2.mpr ⟨by rfl, ?_⟩, driven, ?_⟩
  · intro other h
    cases h
  · exact acknowledged s .locked rfl rfl (by rfl) driven

/-- A late answer to a status poll is taken for the one to the lock command, and for its
acknowledgement, although the lock refuses the command. -/
theorem late_status_taken_for_lock :
    let link := exchanged (slowDevice 3 jammedLine) [(.status, 100)]
    let s : Session _ := { link, status := { bolt := .unlocked } }
    (link.exchange "lock" 10000).1 = .ok "OK: status unlocked closed lowered 5" ∧
      (link.sending.answerTo (Utf8.encode "lock")).replyTo? "lock" = some "ERROR: jammed" ∧
      (s.setState .locked).1 = .ok () ∧
      ¬Acknowledged (slowDevice 3 jammedLine) .lock link.port.heard (s.setState .locked).2.heard := by
  refine ⟨by rfl, by rfl, by rfl, ?_⟩
  rintro ⟨heard, reply, body, -, -, hreply, hack⟩
  have hjammed : jammedLine.replyTo? "lock" = some "ERROR: jammed" := by rfl
  obtain rfl : "ERROR: jammed" = reply := Option.some.inj (hjammed.symm.trans hreply)
  have hrefused : (readAck .lock "ERROR: jammed").isOk = false := by rfl
  simp [hack, Except.isOk, Except.toBool] at hrefused

end DoorControl.Lock
