/- Status lines over a queue that may be full: which of them has got into the queue last. -/
import DoorControl.Proofs.Latest
import DoorControl.Proofs.Outbox.Offering

namespace DoorControl.Outbox

/-- What is done to the queue of the chat: a status line is asked for or a message sent, or the consumer
takes an item, with or without waiting for it. -/
inductive ChatStep
  | setStatus (text : String) (general : Bool) (seconds : Int)
  | send (text : String) (seconds : Int)
  | next
  | receive

namespace ChatStep

def announceOpen (seconds : Int) : ChatStep := .setStatus Outbound.openText true seconds

def announceClosed (seconds : Int) : ChatStep := .setStatus Outbound.closedText true seconds

def line? : ChatStep → Option String
  | .setStatus text _ _ => some text
  | .send _ _ | .next | .receive => none

end ChatStep

namespace Queue

variable {α : Type}

def HasRoom (n : Nat) (q : Queue α) : Prop := q.closed = false ∧ q.items.length + n ≤ q.capacity

instance (n : Nat) (q : Queue α) : Decidable (q.HasRoom n) :=
  inferInstanceAs (Decidable (q.closed = false ∧ q.items.length + n ≤ q.capacity))

theorem HasRoom.mono {q : Queue α} {m n : Nat} (room : q.HasRoom n) (fewer : m ≤ n) : q.HasRoom m :=
  ⟨room.1, Nat.le_trans (Nat.add_le_add_left fewer _) room.2⟩

theorem enqueue_of_room {q : Queue α} (room : q.HasRoom 1) (x : α) :
    (q.enqueue x).2 = { q with items := q.items ++ [x] } := by
  obtain ⟨there, fits⟩ := room
  have free : q.items.length < q.capacity := fits
  simp [enqueue, there, free]

theorem enqueue_of_no_room {q : Queue α} (crowded : ¬q.HasRoom 1) (x : α) :
    (q.enqueue x).2.items = q.items ∧ ¬(q.enqueue x).2.HasRoom 1 := by
  unfold enqueue
  cases closed : q.closed with
  | true => exact ⟨rfl, by simpa using crowded⟩
  | false =>
      have full : ¬q.items.length < q.capacity := fun free => crowded ⟨closed, free⟩
      rw [if_neg Bool.false_ne_true, if_neg full]
      exact ⟨rfl, fun room => crowded ⟨closed, room.2⟩⟩

/-- Of several items that are offered the queue takes none, or it takes the first one. -/
theorem exists_taken (items : List α) (q : Queue α) :
    ∃ taken, (q.enqueueAll items).items = q.items ++ taken ∧
      (taken = [] ↔ items = [] ∨ ¬q.HasRoom 1) := by
  -- A queue without room for the first item has none for the others: it only counts what it drops.
  induction items generalizing q with
  | nil => exact ⟨[], by simp [enqueueAll]⟩
  | cons x items ih =>
      obtain ⟨taken, same, none⟩ := ih (q.enqueue x).2
      change ∃ taken, ((q.enqueue x).2.enqueueAll items).items = _ ∧ _
      by_cases room : q.HasRoom 1
      · refine ⟨x :: taken, ?_, by simp [room]⟩
        rw [same, enqueue_of_room room]
        simp
      · obtain ⟨kept, crowded⟩ := enqueue_of_no_room room x
        exact ⟨taken, by rw [same, kept], by simp [none, crowded, room]⟩

end Queue

namespace Outbound

def chatStep (o : Outbound) : ChatStep → Outbound
  | .setStatus text general seconds => o.setStatus text general seconds
  | .send text seconds => (o.offer (o.chatItem .monitoring text seconds)).2
  | .next => { o with chat := o.chat.next?.2 }
  | .receive => { o with chat := o.chat.receive.2 }

variable {o : Outbound}

/-- The line that is remembered is the one that has been asked for last, whatever became of it. -/
theorem chatStep_lastStatus (o : Outbound) (step : ChatStep) :
    (o.chatStep step).lastStatus = step.line?.or o.lastStatus := by
  cases step with
  | setStatus text general seconds => exact offerAll_lastStatus _ _
  | send text seconds => exact offer_lastStatus _ _
  | next => rfl
  | receive => rfl

/-- What a step has put into the queue. -/
def gains (o : Outbound) (step : ChatStep) : List Item :=
  (o.chatStep step).chat.items.drop o.chat.items.length

theorem statusItems_eq_nil_iff {text : String} {general : Bool} {seconds : Int} :
    o.statusItems text general seconds = [] ↔ o.lastStatus = some text := by
  unfold statusItems statusChannels
  split <;> simp [*]

theorem gains_setStatus_eq_nil_iff {text : String} {general : Bool} {seconds : Int} :
    o.gains (.setStatus text general seconds) = [] ↔ o.lastStatus = some text ∨ ¬o.chat.HasRoom 1 := by
  have chat : ∀ item ∈ o.statusItems text general seconds, item.isChat = true := by
    intro item mem
    obtain ⟨channel, -, rfl⟩ := List.mem_map.mp mem
    rfl
  have offered := offerAll_chat (o.statusItems text general seconds) { o with lastStatus := some text }
  rw [List.filter_eq_self.mpr chat] at offered
  obtain ⟨taken, same, none⟩ := o.chat.exists_taken (o.statusItems text general seconds)
  have grown : (o.chatStep (.setStatus text general seconds)).chat.items = o.chat.items ++ taken := by
    rw [← same]
    exact congrArg Queue.items offered
  rw [gains, grown, List.drop_left, none, statusItems_eq_nil_iff]

end Outbound

/-- The queues, and what is done to the one of the chat, step after step. -/
structure Chatter where
  outbound : Outbound
  steps : Nat → ChatStep

namespace Chatter

def stateAt (c : Chatter) : Nat → Outbound
  | 0 => c.outbound
  | n + 1 => (c.stateAt n).chatStep (c.steps n)

variable (c : Chatter) (n : Nat)

/-- The status line asked for last before a step. -/
def lineBefore : Option String := ((List.range n).filterMap fun k => (c.steps k).line?).getLast?

/-- The status line of a step, if the queue has taken an item of it. -/
def takenAt? : Option String :=
  if (c.stateAt n).gains (c.steps n) = [] then none else (c.steps n).line?

/-- Of the status lines before a step, the last one of which the queue has taken an item. -/
def takenBefore : Option String := ((List.range n).filterMap c.takenAt?).getLast?

/-- A step asks for another status line than the one asked for before, when the queue has room for an
item. -/
structure GetsThrough (k : Nat) (text : String) : Prop where
  asks : (c.steps k).line? = some text
  changes : c.lineBefore k ≠ some text
  room : (c.stateAt k).chat.HasRoom 1

variable {c}

theorem lastStatus_eq (new : c.outbound.lastStatus = none) :
    (c.stateAt n).lastStatus = c.lineBefore n := by
  induction n with
  | zero => exact new
  | succ n ih =>
      rw [stateAt, Outbound.chatStep_lastStatus, ih]
      exact (getLast?_recorded_succ (fun k => (c.steps k).line?) n).symm

/-- A queue takes nothing of a repeated line, and of another one if it has room. -/
theorem takenAt?_eq_some_iff (new : c.outbound.lastStatus = none) {text : String} :
    c.takenAt? n = some text ↔ c.GetsThrough n text := by
  have through : c.GetsThrough n text ↔ (c.steps n).line? = some text ∧ c.lineBefore n ≠ some text ∧
      (c.stateAt n).chat.HasRoom 1 :=
    ⟨fun ⟨asks, changes, room⟩ => ⟨asks, changes, room⟩, fun ⟨asks, changes, room⟩ => ⟨asks, changes, room⟩⟩
  rw [through, ← lastStatus_eq n new, takenAt?]
  cases step : c.steps n with
  | setStatus line general seconds =>
      simp only [Outbound.gains_setStatus_eq_nil_iff, ChatStep.line?, Option.some_inj]
      grind
  | send | next | receive => simp [ChatStep.line?]

theorem takenBefore_eq_some_iff (new : c.outbound.lastStatus = none) {text : String} :
    c.takenBefore n = some text ↔ ∃ k < n, c.GetsThrough k text ∧
      ∀ l, k < l → l < n → ∀ other, ¬c.GetsThrough l other := by
  unfold takenBefore
  rw [getLast?_recorded_eq_some_iff]
  simp only [takenAt?_eq_some_iff _ new, Option.eq_none_iff_forall_ne_some, ne_eq]

/-- A status line that is asked for when there is room for it is the last one that has got into the queue,
unless it only repeats the one asked for before. A repeated line is the last one just if, of the earlier
ones that were no repetitions, the last that found room was the same; it is not sent again. -/
theorem repeated_status_line_stands_iff (new : c.outbound.lastStatus = none) {n : Nat} {text : String}
    {general : Bool} {seconds : Int} (asks : c.steps n = .setStatus text general seconds)
    (room : (c.stateAt n).chat.HasRoom (if general then 2 else 1)) :
    (c.takenBefore (n + 1) = some text ↔
      (c.lineBefore n = some text → ∃ k < n, c.GetsThrough k text ∧
        ∀ l, k < l → l < n → ∀ other, ¬c.GetsThrough l other)) ∧
    (c.lineBefore n = some text → (c.stateAt n).gains (c.steps n) = []) := by
  have asked : (c.steps n).line? = some text := by rw [asks, ChatStep.line?]
  have found : (c.stateAt n).chat.HasRoom 1 := room.mono (by split <;> decide)
  have after : c.takenBefore (n + 1) = (c.takenAt? n).or (c.takenBefore n) :=
    getLast?_recorded_succ c.takenAt? n
  have unsent (repeats : c.lineBefore n = some text) : (c.stateAt n).gains (c.steps n) = [] := by
    rw [asks, Outbound.gains_setStatus_eq_nil_iff, lastStatus_eq n new]
    exact .inl repeats
  refine ⟨?_, unsent⟩
  rw [after, ← takenBefore_eq_some_iff n new]
  by_cases repeats : c.lineBefore n = some text
  · have nothing : c.takenAt? n = none := by rw [takenAt?, if_pos (unsent repeats)]
    simp [nothing, repeats]
  · have taken : c.takenAt? n = some text := (takenAt?_eq_some_iff n new).mpr ⟨asked, repeats, found⟩
    simp [taken, repeats]

def narrow (steps : List ChatStep) : Chatter where
  outbound := {
    debug := { capacity := 1 }, audit := { capacity := 1 }, chat := { capacity := 2 }
    membership := { capacity := 1 } }
  steps n := steps.getD n .receive

/-- The space is opened while the queue is full, closed when an item has been taken, and opened again when
the others have. -/
def reopened : Chatter := narrow [.send "a" 0, .send "b" 0, .announceOpen 1, .next, .announceClosed 2,
  .next, .receive, .announceOpen 3]

theorem reopened_stands : reopened.outbound.lastStatus = none ∧
    (reopened.stateAt 7).chat.HasRoom 2 ∧ reopened.takenBefore 8 = some Outbound.openText := by
  have room : (reopened.stateAt 7).chat.HasRoom 2 := by decide
  have stands := repeated_status_line_stands_iff (c := reopened) rfl (n := 7) rfl room
  refine ⟨rfl, room, stands.1.mpr fun repeats => ?_⟩
  exact absurd repeats (by decide)

/-- A line that did not fit is not sent again when it is repeated, though there is room for it. -/
theorem lost_line_not_repeated : ¬∀ (c : Chatter) (n : Nat) (text : String) (general : Bool)
    (seconds : Int), c.outbound.lastStatus = none → c.steps n = .setStatus text general seconds →
      (c.stateAt n).chat.HasRoom (if general then 2 else 1) → c.takenBefore (n + 1) = some text := by
  intro heals
  let c := narrow [.send "a" 0, .send "b" 0, .announceOpen 1, .next, .receive, .announceOpen 2]
  have room : (c.stateAt 5).chat.HasRoom 2 := by decide
  have healed := heals c 5 Outbound.openText true 2 rfl rfl room
  exact absurd healed (by decide)

end Chatter

end DoorControl.Outbox
