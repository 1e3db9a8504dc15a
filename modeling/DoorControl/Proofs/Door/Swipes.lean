/- What becomes of swiped cards: about which of them the permissions are asked, what is made known of the
answers, and when an answer moves the door. -/
import DoorControl.Proofs.Access.Entries
import DoorControl.Proofs.Card.Encoding
import DoorControl.Proofs.Door.Aloof
import DoorControl.Proofs.Door.Authority
import DoorControl.Proofs.Door.Offers
import DoorControl.Proofs.Outbox.Fitting

namespace DoorControl.Door

open Outbox (Channel Item ItemKind Outbound)

/-- Logs and messages are made of items of the other kinds. -/
def isEntry : ItemKind → Bool
  | .audit | .unknownCard | .membership => true
  | .debug | .chat _ => false

def Deed.entry? : Deed → Option Item
  | .offer item => if isEntry item.kind then some item else none
  | _ => none

/-- What is made known of the answer on a card. -/
def entriesOf (s : Settings) (i : Snapshot) (card : CardId) : AccessResult → List Item
  | .allowed user =>
      [Outbound.accessItem user i.wall,
        Outbound.auditItem user (s.name ++ ": Granted entry") i.wall]
  | .unknownCard => [Outbound.unknownCardItem card i.wall]
  | .forbidden | .error _ => []

namespace Turn

variable (s : Settings) (i : Snapshot) (t : Turn)

def entries (t : Turn) : List Item := t.deeds.filterMap Deed.entry?

theorem act_entries {d : Deed} (other : d.entry? = none) : (act d t).entries = t.entries := by
  simp [entries, act, other]

theorem offer_entries (item : Item) (entry : isEntry item.kind = true) :
    (t.offer item).entries = t.entries ++ [item] := by
  simp [entries, offer, act, Deed.entry?, entry]

theorem entries_aloof : Aloof entries where
  state _ _ := rfl
  link _ _ := rfl
  act d t quiet := act_entries t (by cases d <;> simp_all [Deed.isQuiet, Deed.entry?])
  log _ _ t := act_entries t rfl
  outbound _ _ := rfl
  overrun _ _ := rfl
  say _ _ _ t := (act_entries _ rfl).trans (act_entries t rfl)

theorem checkCard_entries (card : CardId) (unlocks : Bool) :
    (checkCard s i card unlocks t).entries = t.entries ++ entriesOf s i card (i.access card) := by
  have asked : (act (.checkCard card) t).entries = t.entries := act_entries t rfl
  unfold checkCard
  cases i.access card with
  | allowed user =>
      dsimp only [answerCard]
      rw [offer_entries _ _ rfl, offer_entries _ _ rfl, List.append_assoc]
      refine congrArg (· ++ _) ?_
      cases unlocks with
      | true =>
          simp only [if_true]
          rw [entries_aloof.setMode, entries_aloof.startTimeout, entries_aloof.send,
            entries_aloof.setPattern, entries_aloof.showMessage, asked]
      | false => exact (entries_aloof.send i _ _).trans asked
  | forbidden =>
      dsimp only [answerCard]
      rw [entries_aloof.log, entries_aloof.send, entries_aloof.feedback, entries_aloof.showMessage,
        asked]
      exact (List.append_nil _).symm
  | unknownCard =>
      dsimp only [answerCard]
      rw [offer_entries _ _ rfl, entries_aloof.send, entries_aloof.feedback,
        entries_aloof.showMessage, asked]
      rfl
  | error message =>
      dsimp only [answerCard]
      rw [entries_aloof.send, entries_aloof.feedback, entries_aloof.showMessage, asked]
      exact (List.append_nil _).symm

/-- What the handler of a mode makes known: the answer on the card that it asks about. -/
def dues (mode : Mode) : List Item :=
  (asked? i mode).toList.flatMap fun card => entriesOf s i card (i.access card)

theorem handleLocked_entries : (handleLocked s i t).entries = t.entries ++ dues s i .locked := by
  unfold handleLocked dues asked?
  dsimp only
  generalize greeted : setStatus i ":lock: Door is locked" false _ = t'
  have same : t'.entries = t.entries := by
    rw [← greeted, entries_aloof.setStatus, entries_aloof.showStatus, entries_aloof.setSound,
      entries_aloof.idlePattern]
  rw [← same]
  cases i.pressed.white with
  | true => simp [entries_aloof.checkOpenDay s i t']
  | false =>
      cases i.pressed.green with
      | true =>
          simp only [Bool.false_eq_true, if_false, if_true]
          rw [entries_aloof.setMode, entries_aloof.startTimeout, entries_aloof.log]
          simp
      | false =>
          cases i.card with
          | some card => simp [checkCard_entries]
          | none =>
              cases i.pressed.leave with
              | true =>
                  simp only [Bool.false_eq_true, if_false, if_true]
                  rw [entries_aloof.setMode, entries_aloof.pressLeave]
                  simp
              | false => simp

theorem handleOpened_entries : (handleOpened s i t).entries = t.entries ++ dues s i .opened := by
  unfold handleOpened dues asked?
  dsimp only
  generalize greeted : showStatus "Open" .green _ = t'
  have same : t'.entries = t.entries := by
    rw [← greeted, entries_aloof.showStatus, entries_aloof.setSound, entries_aloof.idlePattern]
  generalize closing : (if (!i.openDay) = true then
    log i "It is no longer an open day" t' |>.leaveOpen i |>.setMode .locked
    else if i.keys.red = true then leaveOpen i t' |>.setMode .locked else t') = t''
  have still : t''.entries = t.entries := by
    rw [← closing, ← same]
    split
    · rw [entries_aloof.setMode, entries_aloof.leaveOpen, entries_aloof.log]
    split
    · rw [entries_aloof.setMode, entries_aloof.leaveOpen]
    · rfl
  rw [← still]
  cases i.card with
  | some card => simp [checkCard_entries]
  | none => simp

theorem handle_entries : (handle s i t).entries = t.entries ++ dues s i t.state.mode := by
  unfold handle
  cases t.state.mode with
  | initial => exact (entries_aloof.setPattern t .ready).trans (List.append_nil _).symm
  | locked => exact handleLocked_entries s i t
  | opened => exact handleOpened_entries s i t
  | timed => exact (entries_aloof.handleTimed s i t).trans (List.append_nil _).symm

theorem handleMode_entries : (handleMode s i t).entries = t.entries ++ dues s i t.state.mode := by
  rw [← handle_entries]
  unfold handleMode
  dsimp only
  split
  · rfl
  · exact entries_aloof.log i _ _

end Turn

def Deed.check? : Deed → Option CardId
  | .checkCard card => some card
  | _ => none

/-- Whether a locked door asks about a card and is told to let it in. -/
def admits (i : Snapshot) : Bool := (asked? i .locked).any fun card => (i.access card).isAllowed

namespace Turn

variable (s : Settings) (i : Snapshot) (t : Turn)

theorem entries_eq : t.entries = t.items.filter fun item => isEntry item.kind := by
  rw [items, List.filter_filterMap]
  refine List.filterMap_congr fun d _ => ?_
  cases d with
  | offer item => cases entry : isEntry item.kind <;> simp [Deed.item?, Deed.entry?, Option.filter_some, entry]
  | _ => rfl

theorem entries_of_kind {kind : ItemKind} (entry : isEntry kind = true) :
    t.items.filter (·.kind = kind) = t.entries.filter (·.kind = kind) := by
  rw [entries_eq, List.filter_filter]
  refine List.filter_congr fun item _ => ?_
  by_cases same : item.kind = kind <;> simp [same, entry]

/-- A turn that makes nothing known leaves the queues of the entries alone. -/
theorem HandsOver.of_no_entries {i : Snapshot} {o : Outbound} {t : Turn} (h : t.HandsOver i o)
    (none : t.entries = []) : t.outbound.audit = o.audit ∧ t.outbound.membership = o.membership := by
  have nothing (goes : Item → Bool) (entry : ∀ item, goes item = true → isEntry item.kind = true) :
      t.items.filter goes = [] := by
    rw [entries_eq, List.filter_eq_nil_iff] at none
    exact List.filter_eq_nil_iff.mpr fun item offered there => none item offered (entry item there)
  constructor
  · rw [h.audit, nothing]
    · rfl
    · intro item
      cases item.kind <;> simp [isEntry]
  · rw [h.membership, nothing]
    · rfl
    · intro item
      cases item.kind <;> simp [isEntry]

theorem notable_checks : t.notable.filterMap Deed.check? = t.deeds.filterMap Deed.check? := by
  rw [notable, List.filterMap_filter]
  congr 1
  funext d
  cases d with
  | say | offer => exact ite_self none
  | _ => rfl

theorem checked_checks (mode : Mode) :
    (checked s i mode).filterMap Deed.check? = (asked? i mode).toList := by
  unfold checked
  cases asked? i mode with
  | none => rfl
  | some card => cases h : i.access card <;> simp [granted, h, Deed.check?]

theorem complaints_checks (failing : Bool) (result : Except DeviceError Unit) :
    (complaints failing result).filterMap Deed.check? = [] := by
  cases result <;> cases failing <;> rfl

/-- An answer moves the door where it lets a card in at a locked door. All others leave the door to what
it does about a card that is refused. -/
theorem handle_course : (handle s i t).state.course =
    if t.state.mode = .locked ∧ admits i then
      { t.state.course with mode := .timed, pendingTimeout := some s.enter }
    else (handle s { i with access := fun _ => .forbidden } t).state.course := by
  unfold handle
  cases t.state.mode with
  | initial => rfl
  | locked =>
      unfold handleLocked admits asked?
      cases i.pressed.white with
      | true => rfl
      | false =>
          cases i.pressed.green with
          | true => rfl
          | false =>
              cases i.card with
              | some card => simp [AccessResult.isAllowed]
              | none => rfl
  | opened =>
      unfold handleOpened
      cases i.card <;> simp <;> rfl
  | timed => rfl

end Turn

theorem unknownCardItem_text (card : CardId) (seconds : Int) :
    (Outbound.unknownCardItem card seconds).text = card.toHex := by
  have size : (String.ofList card.toHex.toList).utf8ByteSize = idDigits :=
    (Text.utf8ByteSize_ofList fun ch mem => (CardId.isHex_of_spells card.toHex_spells mem).ascii).trans
      (CardId.length_of_spells card.toHex_spells)
  have fits : String.utf8Len card.toHex.toList ≤ Outbox.maxItemText := by
    rw [← String.utf8ByteSize_ofList, size]
    decide
  unfold Outbound.unknownCardItem Item.new
  rw [Outbox.fit_eq_self_iff.mpr fits, String.ofList_toList]

/-- Who is made known by the items of each kind, and which cards, after some answers. -/
structure Accounts (offered : ItemKind → List Item) (answers : List (CardId × AccessResult)) : Prop where
  members : (offered .membership).map Item.id =
    (answers.filterMap (·.2.user?)).map (some ·.externalId)
  users : (offered .audit).map Item.id = (answers.filterMap (·.2.user?)).map (some ·.internalId)
  strangers : (offered .unknownCard).map Item.text =
    (answers.filter (·.2 = .unknownCard)).map (·.1.toHex)

namespace Accounts

variable {offered more : ItemKind → List Item} {answers later : List (CardId × AccessResult)}

theorem nil : Accounts (fun _ => []) [] := ⟨rfl, rfl, rfl⟩

theorem congr (h : Accounts offered answers)
    (same : ∀ kind, isEntry kind = true → more kind = offered kind) : Accounts more answers where
  members := (congrArg _ (same .membership rfl)).trans h.members
  users := (congrArg _ (same .audit rfl)).trans h.users
  strangers := (congrArg _ (same .unknownCard rfl)).trans h.strangers

theorem append (h : Accounts offered answers) (rest : Accounts more later) :
    Accounts (fun kind => offered kind ++ more kind) (answers ++ later) where
  members := by simp [h.members, rest.members]
  users := by simp [h.users, rest.users]
  strangers := by simp [h.strangers, rest.strangers]

theorem of_answer (s : Settings) (i : Snapshot) (card : CardId) (answer : AccessResult) :
    Accounts (fun kind => (entriesOf s i card answer).filter (·.kind = kind)) [(card, answer)] := by
  cases answer with
  | allowed user => exact ⟨rfl, rfl, rfl⟩
  | unknownCard => exact ⟨rfl, rfl, congrArg ([·]) (unknownCardItem_text card i.wall)⟩
  | forbidden | error message => exact ⟨rfl, rfl, rfl⟩

end Accounts

theorem Passage.refused {s : Settings} {i : Snapshot} {mode : Mode} {d d' : Option Nat} {card : CardId}
    (passage : Passage s i .locked d mode d') (asked : asked? i .locked = some card)
    (refused : (i.access card).isAllowed = false) : mode = .locked ∧ d' = d := by
  cases passage with
  | refuseDay | refuseCard | rest => exact ⟨rfl, rfl⟩
  | openSpace _ white => simp [asked?, white] at asked
  | pressGreen _ _ green => simp [asked?, green] at asked
  | acceptCard _ other user white green swiped allowed =>
      obtain rfl : other = card := by simpa [asked?, white, green, swiped] using asked
      simp [allowed, AccessResult.isAllowed] at refused
  | pressLeave _ white green swiped => simp [asked?, swiped] at asked

namespace Moment

variable (s : Settings) (m : Moment) (state : State)

/-- The same moment with every card refused. -/
def refusing : Moment := { m with inputs := { m.inputs with access := fun _ => .forbidden } }

theorem refusing_prepared : m.refusing.prepared s state = m.prepared s state := by
  unfold prepared
  rfl

theorem turn_checked : (m.turn s state).deeds.filterMap Deed.check? =
    (asked? (m.snapshot state) (m.prepared s state).state.mode).toList := by
  rw [← Turn.notable_checks, turn_notable, List.filterMap_append, Turn.checked_checks]
  split
  · simp only [List.filterMap_cons, Deed.check?, Turn.complaints_checks, List.append_nil]
  · exact List.append_nil _

theorem turn_entries : (m.turn s state).entries =
    Turn.dues s (m.snapshot state) (m.prepared s state).state.mode := by
  have prepared : (m.prepared s state).entries = [] :=
    Turn.entries_aloof.prepare s (m.snapshot state) _
  rw [turn_eq, Turn.entries_aloof.driveLock, Turn.entries_aloof.armDeadline,
    Turn.handleMode_entries, prepared, List.nil_append]

theorem turn_course_of_answer : (m.turn s state).state.course =
    if (m.prepared s state).state.mode = .locked ∧ admits (m.snapshot state) then
      ⟨.timed, some (m.inputs.now + s.enter), none⟩
    else (m.refusing.turn s state).state.course := by
  rw [turn_course, turn_course, refusing_prepared, Turn.handle_course]
  split <;> rfl

end Moment

namespace Run

variable (r : Run) (n : Nat)

def checksAt : List CardId := (r.turnAt n).deeds.filterMap Deed.check?

/-- The cards that the permissions are asked about in a turn, with the answers. -/
def answersAt : List (CardId × AccessResult) :=
  (r.checksAt n).map fun card => (card, (r.moments n).inputs.access card)

def answersBefore : List (CardId × AccessResult) := (List.range n).flatMap r.answersAt

def offeredAt (kind : ItemKind) : List Item := (r.turnAt n).items.filter (·.kind = kind)

def offeredBefore (kind : ItemKind) : List Item := (List.range n).flatMap (r.offeredAt · kind)

theorem checksAt_eq : r.checksAt n = (asked? (r.snapshotAt n) (r.commandedAt n).mode).toList := by
  rw [← r.preparedAt_mode n]
  exact Moment.turn_checked _ _ _

theorem accounts_at : Accounts (r.offeredAt n) (r.answersAt n) := by
  have entries := (r.moments n).turn_entries r.settings (r.stateAt n)
  have offered (kind : ItemKind) (entry : isEntry kind = true) : r.offeredAt n kind =
      (Turn.dues r.settings (r.snapshotAt n) (r.commandedAt n).mode).filter (·.kind = kind) := by
    rw [offeredAt, Turn.entries_of_kind _ entry, ← r.preparedAt_mode n]
    exact congrArg _ entries
  refine Accounts.congr ?_ offered
  unfold answersAt Turn.dues
  rw [checksAt_eq]
  cases asked? (r.snapshotAt n) (r.commandedAt n).mode with
  | none => exact .nil
  | some card =>
      rw [Option.toList_some, List.flatMap_singleton]
      exact .of_answer r.settings (r.snapshotAt n) card _

theorem accounts_before : Accounts (r.offeredBefore n) (r.answersBefore n) := by
  induction n with
  | zero => exact .nil
  | succ n ih =>
      unfold offeredBefore answersBefore
      simp only [List.range_succ, List.flatMap_append, List.flatMap_singleton]
      exact ih.append (r.accounts_at n)

theorem admits_iff : (r.commandedAt n).mode = .locked ∧ admits (r.snapshotAt n) = true ↔
    (r.commandedAt n).mode = .locked ∧ (r.answersAt n).any (·.2.isAllowed) = true := by
  refine and_congr_right fun locked => ?_
  unfold admits answersAt
  rw [checksAt_eq, locked]
  cases asked? (r.snapshotAt n) .locked with
  | none => rfl
  | some card => simp [snapshotAt, Moment.snapshot, snapshot]

theorem stateAt_course_of_answer : (r.stateAt (n + 1)).course =
    if (r.commandedAt n).mode = .locked ∧ (r.answersAt n).any (·.2.isAllowed) then
      ⟨.timed, some (r.timeAt n + r.settings.enter), none⟩
    else ((r.moments n).refusing.turn r.settings (r.stateAt n)).state.course := by
  have course := (r.moments n).turn_course_of_answer r.settings (r.stateAt n)
  have mode : ((r.moments n).prepared r.settings (r.stateAt n)).state.mode = _ := r.preparedAt_mode n
  rw [mode] at course
  exact course.trans (if_congr (r.admits_iff n) rfl rfl)

/-- A locked door stays as it is when it refuses a card. -/
theorem stateAt_course_of_refusal (locked : (r.commandedAt n).mode = .locked) {card : CardId}
    {answer : AccessResult} (answered : (card, answer) ∈ r.answersAt n)
    (refused : answer.isAllowed = false) : (r.stateAt (n + 1)).course = r.commandedAt n := by
  have asked : asked? (r.snapshotAt n) .locked = some card ∧
      (r.moments n).inputs.access card = answer := by
    unfold answersAt at answered
    rw [checksAt_eq, locked] at answered
    simpa using answered
  have passage := r.passage n
  rw [locked] at passage
  obtain ⟨mode, deadline⟩ := passage.refused asked.1 (asked.2 ▸ refused)
  have pending := (Course.commanded_pendingTimeout r.settings (r.snapshotAt n) (r.stateAt n).course).trans
    (r.stateAt_pendingTimeout n)
  unfold State.course
  rw [mode, deadline, r.stateAt_pendingTimeout (n + 1), ← locked, ← pending]
  rfl

/-- A turn asks the permissions about the card that its handler looks at, if any. A user who is let in is
made known once to the members and once to the users' log, and a card that nobody knows is reported once by
its digits; nothing else is made known, in one turn and in all of them. The items that make it known go to
the queues that the turn has found. An answer moves the door only if it lets a card in at a locked one, for
the time it takes to enter. -/
theorem swipes_are_accounted_for (r : Run) (n : Nat) :
    r.checksAt n = (asked? (r.snapshotAt n) (r.commandedAt n).mode).toList ∧
    (r.turnAt n).HandsOver (r.snapshotAt n) (r.moments n).outbound ∧
    Accounts (r.offeredAt n) (r.answersAt n) ∧ Accounts (r.offeredBefore n) (r.answersBefore n) ∧
    (∀ text ∈ (r.offeredAt n .unknownCard).map Item.text, text.toList.length = 10 ∧
      ∀ ch ∈ text.toList, ch ∈ "0123456789ABCDEF".toList) ∧
    ((r.stateAt (n + 1)).course =
      if (r.commandedAt n).mode = .locked ∧ (r.answersAt n).any (·.2.isAllowed) then
        ⟨.timed, some (r.timeAt n + r.settings.enter), none⟩
      else ((r.moments n).refusing.turn r.settings (r.stateAt n)).state.course) ∧
    ∀ card answer, (r.commandedAt n).mode = .locked → (card, answer) ∈ r.answersAt n →
      answer.isAllowed = false → (r.stateAt (n + 1)).course = r.commandedAt n := by
  refine ⟨r.checksAt_eq n, r.turnAt_handsOver n, r.accounts_at n, r.accounts_before n, ?_,
    r.stateAt_course_of_answer n, ?_⟩
  · intro text reported
    rw [(r.accounts_at n).strangers] at reported
    obtain ⟨stranger, -, rfl⟩ := List.mem_map.mp reported
    exact ⟨CardId.length_of_spells stranger.1.toHex_spells, stranger.1.toHex_upper⟩
  · intro card answer locked answered refused
    exact r.stateAt_course_of_refusal n locked answered refused

/-- A card is let in in the second turn, has left in the third, and is unknown in the fourth. -/
def forgotten : Run :=
  { greenHeld with
    moments n := { greenHeld.moments n with
      inputs := { (greenHeld.moments n).inputs with
        keys := {}
        card := if n = 1 ∨ n = 3 then some .smallest else none
        access _ := if n = 1 then .allowed ⟨42, 7⟩ else .unknownCard } } }

theorem forgotten_accounted_for :
    (forgotten.offeredBefore 4 .membership).map Item.id = [some 7] ∧
      (forgotten.offeredBefore 4 .audit).map Item.id = [some 42] ∧
      (forgotten.offeredBefore 4 .unknownCard).map Item.text = ["0000000001"] ∧
      (forgotten.turnAt 1).outbound.membership.items.map Item.id = [some 7] ∧
      (forgotten.commandedAt 3).mode = .locked ∧
      (CardId.smallest, AccessResult.unknownCard) ∈ forgotten.answersAt 3 ∧
      (forgotten.stateAt 4).course = forgotten.commandedAt 3 := by
  obtain ⟨answers, answered, locked⟩ : forgotten.answersBefore 4 =
      [(.smallest, .allowed ⟨42, 7⟩), (.smallest, .unknownCard)] ∧
      (CardId.smallest, AccessResult.unknownCard) ∈ forgotten.answersAt 3 ∧
      (forgotten.commandedAt 3).mode = .locked := by
    decide +kernel
  obtain ⟨-, -, -, accounts, -, -, -⟩ := swipes_are_accounted_for forgotten 4
  obtain ⟨-, handed, entered, -, -, -, -⟩ := swipes_are_accounted_for forgotten 1
  obtain ⟨-, -, -, -, -, -, stays⟩ := swipes_are_accounted_for forgotten 3
  have admitted : forgotten.answersAt 1 = [(.smallest, .allowed ⟨42, 7⟩)] := by decide +kernel
  have members : (forgotten.offeredAt 1 .membership).map Item.id = [some 7] := by
    rw [entered.members, admitted]
    rfl
  refine ⟨?_, ?_, ?_, ?_, locked, answered, stays _ _ locked answered rfl⟩
  · rw [accounts.members, answers]
    rfl
  · rw [accounts.users, answers]
    rfl
  · rw [accounts.strangers, answers]
    decide
  · obtain ⟨item, offered, id⟩ := List.map_eq_singleton_iff.mp members
    have queue : (forgotten.turnAt 1).outbound.membership = _ := handed.membership
    change _ = Outbox.Queue.enqueueAll (forgotten.offeredAt 1 .membership) _ at queue
    rw [queue, offered]
    exact congrArg ([·]) id

end Run

end DoorControl.Door
