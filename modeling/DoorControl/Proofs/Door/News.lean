/- The messages of a turn that tell everyone whether the space is open, and the items for the chat made of
them. -/
import DoorControl.Proofs.Door.Signs

namespace DoorControl.Door

open Outbox (Channel Item Outbound)

/-- What tells everyone of a state of the space, open or not. -/
def announcement (isOpen : Bool) : String := if isOpen then Outbound.openText else Outbound.closedText

/-- Messages that lead from one state of the space to another, over the states that it changes to. Those to
everyone tell of these changes, right after those who watch over the door have been told the same. -/
inductive Announces : Bool → List (Channel × String) → List Bool → Bool → Prop
  | silent {b : Bool} : Announces b [] [] b
  | aside {b b' : Bool} {later : List (Channel × String)} {changes : List Bool} (text : String)
      (rest : Announces b later changes b') : Announces b ((.monitoring, text) :: later) changes b'
  | change {b b' : Bool} {later : List (Channel × String)} {changes : List Bool}
      (rest : Announces (!b) later changes b') :
      Announces b ((.monitoring, announcement !b) :: (.general, announcement !b) :: later)
        ((!b) :: changes) b'

/-- The text of a message to everyone. -/
def general? : Channel × String → Option String
  | (.general, text) => some text
  | (.monitoring, _) => none

namespace Announces

variable {b b' b'' : Bool} {messages later : List (Channel × String)} {changes more : List Bool}

theorem append (h : Announces b messages changes b') (rest : Announces b' later more b'') :
    Announces b (messages ++ later) (changes ++ more) b'' := by
  induction h with
  | silent => exact rest
  | aside text _ ih => exact .aside text (ih rest)
  | change _ ih => exact .change (ih rest)

theorem general_eq (h : Announces b messages changes b') :
    messages.filterMap general? = changes.map announcement := by
  induction h with
  | silent => rfl
  | aside _ _ ih => exact ih
  | change _ ih => exact congrArg (_ :: ·) ih

theorem changes_alternate (h : Announces b messages changes b') {j : Nat} {c : Bool}
    (found : changes[j]? = some c) : c = (b ^^ decide (j % 2 = 0)) := by
  induction h generalizing j with
  | silent => simp at found
  | aside _ _ ih => exact ih found
  | change _ ih =>
      cases j with
      | zero => simpa using (Option.some.inj found).symm
      | succ j =>
          have parity : decide ((j + 1) % 2 = 0) = !decide (j % 2 = 0) := by grind
          rw [ih found, parity]
          simp

theorem changes_last (h : Announces b messages changes b') : changes.getLast?.getD b = b' := by
  induction h with
  | silent => rfl
  | aside _ _ ih => exact ih
  | change _ ih => simpa only [List.getLast?_cons, Option.getD_some] using ih

theorem general_follows (h : Announces b messages changes b')
    {before after : List (Channel × String)} {text : String}
    (split : messages = before ++ (.general, text) :: after) :
    before.getLast? = some (.monitoring, text) := by
  induction h generalizing before with
  | silent => simp at split
  | aside _ _ ih =>
      cases before with
      | nil => simp at split
      | cons first before =>
          have told := ih (List.cons.inj split).2
          simp [List.getLast?_cons, told]
  | change _ ih =>
      -- The first message to everyone stands behind one more message, and any other one behind both.
      match before with
      | [] => simp at split
      | [first] =>
          simp at split
          simp [← split.1, split.2.1]
      | first :: second :: before =>
          have told := ih (List.cons.inj (List.cons.inj split).2).2
          simp [List.getLast?_cons, told]

end Announces

def shift (b b' : Bool) : List Bool := if b = b' then [] else [b']

@[simp] theorem shift_self (b : Bool) : shift b b = [] := if_pos rfl

def Deed.message? : Deed → Option (Channel × String)
  | .say channel text => some (channel, text)
  | _ => none

def Deed.chatItem? : Deed → Option Item
  | .offer item => match item.kind with
      | .chat _ => some item
      | _ => none
  | _ => none

/-- What of a turn its messages are about: those said so far, the items for the chat made of them, and
what the next ones depend on. -/
structure News where
  said : List (Channel × String)
  chatted : List Item
  lastStatus : Option String
  doorName : Option String

def Turn.news (t : Turn) : News where
  said := t.deeds.filterMap Deed.message?
  chatted := t.deeds.filterMap Deed.chatItem?
  lastStatus := t.outbound.lastStatus
  doorName := t.outbound.doorName

/-- News that lead from one state of the space to another. The line kept for comparison is the open one just
if that has been announced last. -/
structure News.Tell (b : Bool) (news : News) (changes : List Bool) (b' : Bool) : Prop where
  announces : Announces b news.said changes b'
  line : news.lastStatus = some Outbound.openText ↔ b' = true

namespace Turn

variable {i : Snapshot} {t : Turn}

theorem act_news {d : Deed} (quiet : d.isQuiet = true) : (act d t).news = t.news := by
  cases d <;> simp [Deed.isQuiet] at quiet <;> simp [news, act, Deed.message?, Deed.chatItem?]

theorem offer_news (item : Item) (other : Deed.chatItem? (.offer item) = none) :
    (t.offer item).news = t.news := by
  simp [news, offer, act, Deed.message?, other, Outbound.offer_lastStatus, Outbound.offer_doorName]

theorem news_blind : Blind news where
  state _ _ := rfl
  link _ _ := rfl
  act _ _ quiet := act_news quiet
  log _ _ _ := offer_news _ rfl

theorem say_news (channel : Channel) (text : String) : (say i channel text t).news = { t.news with
    said := t.news.said ++ [(channel, text)]
    chatted := t.news.chatted ++ [t.outbound.chatItem channel text i.wall] } := by
  simp [news, say, offer, act, Deed.message?, Outbound.offer_lastStatus, Outbound.offer_doorName]
  rfl

theorem says_news (channels : List Channel) (text : String) :
    (channels.foldl (fun t channel => say i channel text t) t).news = { t.news with
      said := t.news.said ++ channels.map (·, text)
      chatted := t.news.chatted ++ channels.map (t.outbound.chatItem · text i.wall) } := by
  induction channels generalizing t with
  | nil => simp
  | cons channel channels ih =>
      have name : (say i channel text t).outbound.doorName = t.outbound.doorName :=
        Outbound.offer_doorName _ _
      simp [ih, say_news, Outbound.chatItem_congr name]

theorem setStatus_news (text : String) (general : Bool) :
    (setStatus i text general t).news = { t.news with
      said := t.news.said ++ (t.outbound.statusChannels text general).map (·, text)
      chatted := t.news.chatted ++ t.outbound.statusItems text general i.wall
      lastStatus := some text } := says_news _ text

end Turn

namespace News.Tell

open Turn

variable {i : Snapshot} {b b' : Bool} {changes : List Bool} {t : Turn}

theorem send (h : t.news.Tell b changes b') (text : String) :
    (Turn.send i text t).news.Tell b changes b' := by
  rw [Turn.send, say_news]
  refine ⟨?_, h.line⟩
  simpa using h.announces.append (.aside text .silent)

theorem setStatus (h : t.news.Tell b changes b') {b'' : Bool} {more : List Bool} {text : String}
    {general : Bool}
    (announces : Announces b' ((t.outbound.statusChannels text general).map (·, text)) more b'')
    (line : text = Outbound.openText ↔ b'' = true) :
    (Turn.setStatus i text general t).news.Tell b (changes ++ more) b'' := by
  rw [setStatus_news]
  exact ⟨h.announces.append announces, by rw [← line, Option.some_inj]⟩

/-- A line for those who watch over the door, while the space is not open. -/
theorem setLine (h : t.news.Tell b changes false) {text : String}
    (other : text ≠ Outbound.openText) :
    (Turn.setStatus i text false t).news.Tell b changes false := by
  rw [← changes.append_nil]
  refine h.setStatus ?_ (by simp [other])
  unfold Outbound.statusChannels
  split
  · exact .silent
  · exact .aside text .silent

/-- The news of a change is not held back as a repetition. -/
theorem announce (h : t.news.Tell b changes b') :
    (Turn.setStatus i (announcement !b') true t).news.Tell b (changes ++ [!b']) !b' := by
  have differ : Outbound.closedText ≠ Outbound.openText := by decide
  have line : t.outbound.lastStatus = some Outbound.openText ↔ b' = true := h.line
  have new : t.outbound.lastStatus ≠ some (announcement !b') := by
    cases b' <;> grind [announcement]
  refine h.setStatus ?_ (by cases b' <;> simp [announcement, differ])
  unfold Outbound.statusChannels
  rw [if_neg new]
  exact .change .silent

end News.Tell

end DoorControl.Door
