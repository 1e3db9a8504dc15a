/- Exchanges with a device whose answers may be late: which of them an exchange returns. -/
import DoorControl.Proofs.Serial.Remote

namespace DoorControl.Serial

open ReplyLine

namespace Link

open Remote

variable {d : Device} {l l' : Link (Remote d)} {command reply : String} {lines : List ReplyLine}

theorem readChunks_later (n : Nat) (r : Remote d) : Later r (readChunks n r).2 := by
  induction n generalizing r with
  | zero => exact .refl r
  | succ n ih =>
      have hr := read_later r
      unfold readChunks
      cases h : Port.read r with
      | mk result r' =>
          rw [h] at hr
          cases result with
          | error f => dsimp only; split <;> exact hr
          | ok bytes =>
              dsimp only
              split
              · exact hr
              · have hmore := hr.trans (ih r')
                cases hn : readChunks n r' with
                | mk more r'' =>
                    rw [hn] at hmore
                    cases more <;> exact hmore

theorem readAvailable_later (l : Link (Remote d)) : Later l.port l.readAvailable.2.port :=
  readChunks_later (Port.burst l.port + 1) l.port

theorem send_eq (hc : newline ∉ Text.Utf8.encode command) (hl : l.port.line = []) :
    send command l = (.ok (), { l with port := l.port.hear (Text.Utf8.encode command) }) := by
  change (Except.ok (), Link.mk (((Text.Utf8.encode command).foldl writeByte l.port).writeByte
    newline) l.lines) = _
  rw [writeBytes hc, hl]
  rfl

theorem awaitReply_later (command : String) (timeout n : Nat) (l : Link (Remote d)) :
    Later l.port (awaitReply command timeout n l).2.port := by
  induction n generalizing l with
  | zero =>
      unfold awaitReply
      split <;> exact .refl l.port
  | succ n ih =>
      unfold awaitReply
      split
      · exact .refl l.port
      · next b _ =>
          have hr := read_later l.port
          dsimp only
          split
          · next f r' h =>
              rw [h] at hr
              split
              · exact hr.trans (ih ⟨r', b⟩)
              · exact hr
          · next r' h =>
              rw [h] at hr
              exact hr.trans (ih ⟨r', b⟩)
          · next first bytes r' h =>
              rw [h] at hr
              exact hr.trans (ih ⟨r', b.feed (first :: bytes)⟩)

/-- A reply that has been waited for is the first one in the stream. -/
theorem awaitReply_ok {timeout n : Nat} (h : awaitReply command timeout n l = (.ok reply, l'))
    (hb : l.lines.bytes ++ stream l.port.waiting = stream lines) :
    firstReply? command lines = some reply ∧ ∃ rest, rest.length < lines.length ∧
      l'.lines.bytes ++ stream l'.port.waiting = stream rest := by
  induction n generalizing l lines with
  | zero =>
      unfold awaitReply at h
      split at h
      · next found b ht =>
          obtain ⟨rfl, rfl⟩ : found = reply ∧ Link.mk l.port b = l' := by simpa using h
          exact LineBuffer.takeReplyWithin_some ht hb
      · simp at h
  | succ n ih =>
      unfold awaitReply at h
      split at h
      · next found b ht =>
          obtain ⟨rfl, rfl⟩ : found = reply ∧ Link.mk l.port b = l' := by simpa using h
          exact LineBuffer.takeReplyWithin_some ht hb
      · next b ht =>
          obtain ⟨rest, hlength, hsame, hrest⟩ := LineBuffer.takeReplyWithin_none ht hb
          -- Whatever the read gives, the stream of the lines that are left goes on.
          have hgo {l₁ : Link (Remote d)} (h₁ : awaitReply command timeout n l₁ = (.ok reply, l'))
              (hb₁ : l₁.lines.bytes ++ stream l₁.port.waiting = stream rest) :
              firstReply? command lines = some reply ∧ ∃ last, last.length < lines.length ∧
                l'.lines.bytes ++ stream l'.port.waiting = stream last := by
            obtain ⟨hfirst, last, hlast, hbytes⟩ := ih h₁ hb₁
            exact ⟨hsame ▸ hfirst, last, Nat.lt_of_lt_of_le hlast hlength, hbytes⟩
          dsimp only at h
          split at h
          · next f r' hr =>
              obtain ⟨-, -, hwaiting⟩ := read_error hr
              split at h
              · exact hgo h (by rw [hwaiting, hrest])
              · simp at h
          · next r' hr =>
              obtain ⟨-, -, hstream⟩ := read_ok hr
              exact hgo h (by rw [← hrest, ← hstream]; rfl)
          · next first bytes r' hr =>
              obtain ⟨-, -, hstream⟩ := read_ok hr
              have hchunk : b.bytes ++ first :: bytes ++ stream r'.waiting = stream rest := by
                rw [List.append_assoc, hstream, hrest]
              exact hgo h (by rw [LineBuffer.feed_bytes hchunk, hchunk])

/-- The port as a command is written to it, what has come in by then being dropped. -/
def sending (l : Link (Remote d)) : Remote d := l.readAvailable.2.port

theorem sending_later (l : Link (Remote d)) : Later l.port l.sending := readAvailable_later l

variable {timeout : Nat}

theorem exchange_eq (hc : newline ∉ Text.Utf8.encode command) (hl : l.port.line = []) :
    l.exchange command timeout = match l.readAvailable.1 with
      | .error f => (.error (.port f), l.readAvailable.2)
      | .ok _ =>
          let port := l.sending.hear (Text.Utf8.encode command)
          awaitReply command timeout (Port.readsBefore port (Port.now port + timeout)) { port } := by
  have hs := l.sending_later
  unfold exchange
  unfold sending at hs ⊢
  cases hr : l.readAvailable with
  | mk result l₁ =>
      rw [hr] at hs
      have hline : l₁.port.line = [] := hs.line.trans hl
      cases result with
      | error f => rfl
      | ok bytes =>
          have hsend : send command { l₁ with lines := {} } =
              (.ok (), { port := l₁.port.hear (Text.Utf8.encode command) }) := send_eq hc hline
          simp only [hsend]

theorem exchange_line (hc : newline ∉ Text.Utf8.encode command) (hl : l.port.line = []) :
    (l.exchange command timeout).2.port.line = [] := by
  rw [exchange_eq hc hl]
  split
  · exact l.sending_later.line.trans hl
  · exact (awaitReply_later command timeout _ _).line

/-- The reply of an exchange is the first one among the lines still on their way when the command was
sent and the answer to it, in the order of their arrival. -/
theorem exchange_ok (hc : newline ∉ Text.Utf8.encode command) (hl : l.port.line = [])
    (h : l.exchange command timeout = (.ok reply, l')) :
    firstReply? command (l.sending.ahead ++
      l.sending.answerTo (Text.Utf8.encode command) :: l.sending.behind) = some reply ∧
    l'.port.heard = l.port.heard ++ [Text.Utf8.encode command] ∧
    (l.sending.waiting = [] → l'.port.waiting = []) := by
  rw [exchange_eq hc hl] at h
  split at h
  · simp at h
  · dsimp only at h
    obtain ⟨hfirst, rest, hlength, hrest⟩ := awaitReply_ok h rfl
    have hlater := congrArg Prod.snd h ▸ awaitReply_later command timeout _ _
    refine ⟨hfirst, ?_, fun hnone => ?_⟩
    · rw [hlater.heard]
      exact congrArg (· ++ [_]) l.sending_later.heard
    · have hall : rest = [] := by
        simpa [hear, ahead, behind, hnone] using hlength
      rw [hall] at hrest
      exact stream_eq_nil.mp (List.append_eq_nil_iff.mp hrest).2

end Link

end DoorControl.Serial
