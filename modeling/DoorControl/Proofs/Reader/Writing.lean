/- What the poll cycle of a reader writes: a pattern when it is another one, and beeps at the interval of their
sound. -/
import DoorControl.Proofs.Latest
import DoorControl.Proofs.Serial.Journal
import DoorControl.Reader.Session
import DoorControl.Serial.Script
import Mathlib.Data.List.Chain

namespace DoorControl.Reader

open Serial (Port Link Note Sending Journals Adds Noted ScriptedPort sentBetween)
open Text (Utf8.encode)

/-- What a session remembers of what it has written. -/
structure Cache where
  shown : Option Pattern := none
  playing : Sound := .none
  lastBeep : Option Nat := none
  deriving DecidableEq

namespace Cache

variable (c : Cache)

/-- The sound is the requested one; when it is new, there has been no beep of it yet. -/
def heed (x : Sound) : Cache :=
  { c with playing := x, lastBeep := if x = c.playing then c.lastBeep else none }

/-- The command for a beep of a requested sound, if one is due. -/
def due? (now : Nat) (x : Sound) : Option (List UInt8) :=
  match x.beep? with
  | none => none
  | some (command, interval) =>
      if Session.beepDue interval now (c.heed x).lastBeep then some (Utf8.encode command) else none

/-- What is sent for a pattern to be shown. -/
def painting (p : Pattern) : List Sending :=
  if c.shown = some p then [] else [⟨Utf8.encode p.command, true⟩]

variable {c} {now : Nat} {x : Sound}

theorem due?_eq_some_iff {command : List UInt8} : c.due? now x = some command ↔
    ∃ word interval, x.beep? = some (word, interval) ∧
      Session.beepDue interval now (c.heed x).lastBeep = true ∧ Utf8.encode word = command := by
  unfold due?
  cases x.beep? with
  | none => simp
  | some beep =>
      obtain ⟨word, interval⟩ := beep
      simp

theorem due?_eq_none_iff : c.due? now x = none ↔ ∀ word interval, x.beep? = some (word, interval) →
    ∃ t, x = c.playing ∧ c.lastBeep = some t ∧ now - t < interval := by
  unfold due? Session.beepDue heed
  cases x.beep? with
  | none => simp
  | some beep =>
      obtain ⟨word, interval⟩ := beep
      by_cases same : x = c.playing
      · cases c.lastBeep with
        | none => simp
        | some t => simp [same]
      · simp [same]

end Cache

/-- A poll as it looks from outside. -/
structure Visit where
  now : Nat
  /-- The pattern and the sound requested when the poll looks them up, which it does once it has read what the reader
  has sent. -/
  asked : Option (Pattern × Sound)
  ok : Bool
  sendings : List Sending

/-- The pattern that a sending has the reader show. -/
def shownBy? (a : Sending) : Option Pattern :=
  if a.whole then Pattern.all.find? (Utf8.encode ·.command = a.command) else none

/-- The sound that a sending is to have the reader beep, whether it is sent whole or not. -/
def meantBy? (a : Sending) : Option Sound :=
  Sound.all.find? fun x => x.beep?.any fun (command, _) => Utf8.encode command = a.command

def beepBy? (a : Sending) : Option Sound := if a.whole then meantBy? a else none

namespace Visit

variable (v : Visit)

/-- The sound requested when the poll looks it up. -/
def sound : Option Sound := v.asked.map Prod.snd

/-- The patterns that have been sent whole. -/
def patterns : List Pattern := v.sendings.filterMap shownBy?

/-- The sounds of which a beep has been sent whole. -/
def beeps : List Sound := v.sendings.filterMap beepBy?

/-- The poll has come to the sound: it has succeeded, or it has tried to send a beep. -/
def Updates : Prop := v.ok = true ∨ ∃ a ∈ v.sendings, (meantBy? a).isSome = true

end Visit

section Sendings

variable (whole : Bool) (p : Pattern) {x : Sound} {word : String} {interval : Nat}

@[simp] theorem shownBy?_poll : shownBy? ⟨Utf8.encode pollCommand, whole⟩ = none := by
  cases whole <;> decide

@[simp] theorem shownBy?_pattern :
    shownBy? ⟨Utf8.encode p.command, whole⟩ = if whole then some p else none := by
  cases p <;> cases whole <;> decide

@[simp] theorem meantBy?_poll : meantBy? ⟨Utf8.encode pollCommand, whole⟩ = none := by
  cases whole <;> decide

@[simp] theorem meantBy?_pattern : meantBy? ⟨Utf8.encode p.command, whole⟩ = none := by
  cases p <;> cases whole <;> decide

theorem shownBy?_beep (beep : x.beep? = some (word, interval)) :
    shownBy? ⟨Utf8.encode word, whole⟩ = none := by
  cases x <;> cases beep <;> cases whole <;> decide

theorem meantBy?_beep (beep : x.beep? = some (word, interval)) :
    meantBy? ⟨Utf8.encode word, whole⟩ = some x := by
  cases x <;> cases beep <;> cases whole <;> decide

theorem command_injective : Function.Injective Pattern.command := by
  intro p q same
  cases p <;> cases q <;> first | rfl | exact absurd same (by decide)

theorem interval_pos (beep : x.beep? = some (word, interval)) : 0 < interval := by
  cases x <;> cases beep <;> decide

end Sendings

/-- What a poll may come to, by what the session remembers before it and after it. -/
inductive Outcome (now : Nat) (p : Pattern) (x : Sound) (c : Cache) : Visit → Cache → Prop
  | unanswered (whole : Bool) :
      Outcome now p x c ⟨now, none, false, [⟨Utf8.encode pollCommand, whole⟩]⟩ c
  | unpainted (other : c.shown ≠ some p) :
      Outcome now p x c ⟨now, some (p, x), false,
        [⟨Utf8.encode pollCommand, true⟩, ⟨Utf8.encode p.command, false⟩]⟩ c
  | still (undue : c.due? now x = none) :
      Outcome now p x c ⟨now, some (p, x), true, ⟨Utf8.encode pollCommand, true⟩ :: c.painting p⟩
        { c.heed x with shown := some p }
  | unheard (command : List UInt8) (due : c.due? now x = some command) :
      Outcome now p x c ⟨now, some (p, x), false,
        ⟨Utf8.encode pollCommand, true⟩ :: c.painting p ++ [⟨command, false⟩]⟩
        { c.heed x with shown := some p }
  | beep (command : List UInt8) (due : c.due? now x = some command) :
      Outcome now p x c ⟨now, some (p, x), true,
        ⟨Utf8.encode pollCommand, true⟩ :: c.painting p ++ [⟨command, true⟩]⟩
        { c.heed x with shown := some p, lastBeep := some now }

namespace Session

variable {P : Type} [Port P] {notes : P → List Note} (s : Session P) (now : Nat)

def cache : Cache := ⟨s.shown, s.playing, s.lastBeep⟩

/-- The requests that a poll looks up. -/
def asked? : Option (Pattern × Sound) :=
  match s.link.send pollCommand with
  | (.error _, _) => none
  | (.ok (), link) => match link.readAvailable.1 with
      | .error _ => none
      | .ok _ => some (s.desk.pattern, s.desk.sound)

def visit (notes : P → List Note) : Visit where
  now
  asked := s.asked?
  ok := (s.poll now).1.isOk
  sendings := sentBetween notes s.link.port (s.poll now).2.link.port

variable (journals : Journals notes)
include journals

theorem showPattern_cases :
    (∃ s', s.showPattern = (.ok (), s') ∧ s'.desk = s.desk ∧
      s'.cache = { s.cache with shown := some s.desk.pattern } ∧
      Adds notes s.link.port s'.link.port (s.cache.painting s.desk.pattern)) ∨
    ∃ f s', s.showPattern = (.error f, s') ∧ s.shown ≠ some s.desk.pattern ∧ s'.cache = s.cache ∧
      Adds notes s.link.port s'.link.port [⟨Utf8.encode s.desk.pattern.command, false⟩] := by
  have sent := journals.send s.desk.pattern.command s.link
  unfold showPattern Cache.painting
  by_cases same : s.shown = some s.desk.pattern
  · rw [if_pos same, if_pos (show s.cache.shown = _ from same)]
    refine .inl ⟨s, rfl, rfl, ?_, .nothing rfl⟩
    rw [← same]
    rfl
  · rw [if_neg same, if_neg (show s.cache.shown ≠ _ from same)]
    cases result : s.link.send s.desk.pattern.command with
    | mk answer link =>
        rw [result] at sent
        cases answer with
        | error f => exact .inr ⟨f, _, rfl, same, rfl, sent⟩
        | ok => exact .inl ⟨_, rfl, rfl, rfl, sent⟩

theorem playSound_cases :
    (s.cache.due? now s.desk.sound = none ∧ ∃ s', s.playSound now = (.ok (), s') ∧
      s'.cache = s.cache.heed s.desk.sound ∧ Adds notes s.link.port s'.link.port []) ∨
    ∃ command, s.cache.due? now s.desk.sound = some command ∧
      ((∃ s', s.playSound now = (.ok (), s') ∧
          s'.cache = { s.cache.heed s.desk.sound with lastBeep := some now } ∧
          Adds notes s.link.port s'.link.port [⟨command, true⟩]) ∨
        ∃ f s', s.playSound now = (.error f, s') ∧ s'.cache = s.cache.heed s.desk.sound ∧
          Adds notes s.link.port s'.link.port [⟨command, false⟩]) := by
  unfold playSound
  generalize heeded : (if s.desk.sound = s.playing then s
    else { s with playing := s.desk.sound, lastBeep := none }) = s'
  obtain ⟨cache, link⟩ : s'.cache = s.cache.heed s.desk.sound ∧ s'.link = s.link := by
    subst heeded
    by_cases same : s.desk.sound = s.playing <;> simp [Cache.heed, Session.cache, same]
  have playing : s'.playing = s.desk.sound := congrArg Cache.playing cache
  rw [← playing] at cache ⊢
  have lastBeep : s'.lastBeep = (s.cache.heed s'.playing).lastBeep := congrArg Cache.lastBeep cache
  unfold Cache.due?
  dsimp only
  rw [← lastBeep, ← link]
  cases s'.playing.beep? with
  | none => exact .inl ⟨rfl, s', rfl, cache, .nothing rfl⟩
  | some beep =>
      obtain ⟨command, interval⟩ := beep
      dsimp only
      split
      · refine .inr ⟨_, rfl, ?_⟩
        have sent := journals.send command s'.link
        cases result : s'.link.send command with
        | mk answer link' =>
            rw [result] at sent
            cases answer with
            | error f => exact .inr ⟨f, _, rfl, cache, sent⟩
            | ok => exact .inl ⟨_, rfl, by rw [← cache]; rfl, sent⟩
      · exact .inl ⟨rfl, s', rfl, cache, .nothing rfl⟩

/-- The part of a poll in which the requests are met. -/
theorem met_outcome {p : P} (read : Adds notes p s.link.port [⟨Utf8.encode pollCommand, true⟩]) :
    let met : Except Serial.PortFault Unit × Session P := match s.showPattern with
      | (.error f, s) => (.error f, s)
      | (.ok (), s) => s.playSound now
    Outcome now s.desk.pattern s.desk.sound s.cache
      ⟨now, some (s.desk.pattern, s.desk.sound), met.1.isOk, sentBetween notes p met.2.link.port⟩
      met.2.cache := by
  intro met
  obtain ⟨s₁, painted, desk, cache, adds⟩ | ⟨f, s₁, failed, other, cache, adds⟩ := s.showPattern_cases journals
  · have played : met = s₁.playSound now := by simp only [met, painted]
    have heeds : s₁.cache.heed s.desk.sound =
        { s.cache.heed s.desk.sound with shown := some s.desk.pattern } := by rw [cache]; rfl
    have dues : s₁.cache.due? now s.desk.sound = s.cache.due? now s.desk.sound := by rw [cache]; rfl
    have sent := read.trans adds
    have heard := s₁.playSound_cases now journals
    rw [desk, heeds, dues, ← played] at heard
    obtain ⟨undue, s₂, result, cache', adds'⟩ | ⟨command, due, ⟨s₂, result, cache', adds'⟩ |
      ⟨f, s₂, result, cache', adds'⟩⟩ := heard
    · rw [result]
      dsimp only
      rw [(sent.trans adds').sentBetween_eq, List.append_nil, cache']
      exact .still undue
    · rw [result]
      dsimp only
      rw [(sent.trans adds').sentBetween_eq, cache']
      exact .beep command due
    · rw [result]
      dsimp only
      rw [(sent.trans adds').sentBetween_eq, cache']
      exact .unheard command due
  · have result : met = (.error f, s₁) := by simp only [met, failed]
    rw [result]
    dsimp only
    rw [(read.trans adds).sentBetween_eq, cache]
    exact .unpainted other

theorem poll_outcome :
    Outcome now s.desk.pattern s.desk.sound s.cache (s.visit now notes) (s.poll now).2.cache := by
  have asked := journals.send pollCommand s.link
  unfold visit asked? poll
  cases sent : s.link.send pollCommand with
  | mk answer link =>
      rw [sent] at asked
      cases answer with
      | error f =>
          dsimp only
          rw [asked.sentBetween_eq]
          exact .unanswered false
      | ok =>
          have silent := journals.readAvailable link
          dsimp only
          cases got : link.readAvailable with
          | mk answer link' =>
              rw [got] at silent
              have read := asked.trans (.nothing silent)
              cases answer with
              | error f =>
                  dsimp only
                  rw [read.sentBetween_eq]
                  exact .unanswered true
              | ok bytes =>
                  have met := met_outcome (receive bytes { s with link := link' }) now journals read
                  dsimp only at met ⊢
                  cases painted : showPattern (receive bytes { s with link := link' }) with
                  | mk answer s₁ =>
                      rw [painted] at met
                      cases answer with
                      | error f => exact met
                      | ok =>
                          dsimp only at met ⊢
                          cases played : s₁.playSound now with
                          | mk answer s₂ =>
                              rw [played] at met
                              cases answer <;> exact met

end Session

namespace Outcome

variable {now : Nat} {p : Pattern} {x : Sound} {c c' : Cache} {v : Visit}

theorem ok_asked (h : Outcome now p x c v c') (ok : v.ok = true) :
    v.asked = some (p, x) ∧ c'.shown = some p := by
  cases h with
  | unanswered | unpainted | unheard => cases ok
  | still | beep => exact ⟨rfl, rfl⟩

theorem patterns (h : Outcome now p x c v c') : v.patterns = [] ∧ c'.shown = c.shown ∨
    v.patterns = (if c.shown = some p then [] else [p]) ∧ c'.shown = some p := by
  have painting : (c.painting p).filterMap shownBy? = if c.shown = some p then [] else [p] := by
    unfold Cache.painting
    split <;> simp
  cases h with
  | unanswered | unpainted => exact .inl ⟨by simp [Visit.patterns], rfl⟩
  | still => exact .inr ⟨by simp [Visit.patterns, painting], rfl⟩
  | unheard command due | beep command due =>
      obtain ⟨word, interval, beep, -, rfl⟩ := Cache.due?_eq_some_iff.mp due
      exact .inr ⟨by simp [Visit.patterns, painting, shownBy?_beep _ beep], rfl⟩

/-- What a poll does about the sound, and what the session remembers of it. -/
theorem sounds (h : Outcome now p x c v c') :
    (¬v.Updates ∧ v.beeps = [] ∧ c'.playing = c.playing ∧ c'.lastBeep = c.lastBeep) ∨
    v.Updates ∧ v.sound = some x ∧ c'.playing = x ∧
      (v.beeps = [] ∧ c'.lastBeep = (c.heed x).lastBeep ∧ (v.ok = true → c.due? now x = none) ∨
        v.beeps = [x] ∧ c'.lastBeep = some now ∧ (c.due? now x).isSome = true) := by
  have painting : (c.painting p).filterMap beepBy? = [] := by
    unfold Cache.painting
    split <;> simp [beepBy?]
  cases h with
  | unanswered | unpainted => exact .inl ⟨by simp [Visit.Updates], by simp [Visit.beeps, beepBy?], rfl, rfl⟩
  | still undue =>
      refine .inr ⟨.inl rfl, rfl, rfl, .inl ⟨?_, rfl, fun _ => undue⟩⟩
      simp [Visit.beeps, painting, beepBy?]
  | unheard command due =>
      obtain ⟨word, interval, beep, -, rfl⟩ := Cache.due?_eq_some_iff.mp due
      refine .inr ⟨?_, rfl, rfl, .inl ⟨?_, rfl, nofun⟩⟩
      · simp [Visit.Updates, meantBy?_beep _ beep]
      · simp [Visit.beeps, painting, beepBy?]
  | beep command due =>
      obtain ⟨word, interval, beep, -, rfl⟩ := Cache.due?_eq_some_iff.mp due
      refine .inr ⟨.inl rfl, rfl, rfl, .inr ⟨?_, rfl, ?_⟩⟩
      · simp [Visit.beeps, painting, beepBy?, meantBy?_beep _ beep]
      · rw [due]
        rfl

end Outcome

/-- Polls of a new session at any times, failed ones too. From one poll to the next the port and what it has sent may
have changed, and so may the requests; of what the session has written it remembers what it did. -/
inductive Visits {P : Type} [Port P] (notes : P → List Note) : List Visit → Cache → Prop
  | start : Visits notes [] {}
  | poll {past : List Visit} {c : Cache} (earlier : Visits notes past c) (s : Session P) (kept : s.cache = c)
      (now : Nat) : Visits notes (past ++ [s.visit now notes]) (s.poll now).2.cache

namespace Visits

variable {P : Type} [Port P] {notes : P → List Note} (journals : Journals notes) {past : List Visit}
  {c : Cache} {v : Visit}

include journals

/-- The last visit is a poll of a session that remembers what the ones before have left. -/
theorem last (run : Visits notes (past ++ [v]) c) :
    ∃ before p x, Visits notes past before ∧ Outcome v.now p x before v c := by
  generalize whole : past ++ [v] = visits at run
  cases run with
  | start => simp at whole
  | poll earlier s kept now =>
      obtain ⟨rfl, rfl⟩ := List.append_singleton_inj.mp whole
      subst kept
      exact ⟨_, _, _, earlier, s.poll_outcome now journals⟩

/-- What has been shown last is remembered, and is not shown again. -/
theorem patterns (run : Visits notes past c) : (past.flatMap Visit.patterns).IsChain (· ≠ ·) ∧
    (past.flatMap Visit.patterns).getLast? = c.shown := by
  induction run with
  | start => exact ⟨List.isChain_nil, rfl⟩
  | poll earlier s kept now ih =>
      subst kept
      obtain ⟨chain, last⟩ := ih
      rw [List.flatMap_append, List.flatMap_singleton]
      obtain ⟨none, shown⟩ | ⟨painted, shown⟩ := (s.poll_outcome now journals).patterns
      · rw [none, List.append_nil, shown]
        exact ⟨chain, last⟩
      · rw [painted, shown]
        split
        · next same =>
          rw [List.append_nil, last, same]
          exact ⟨chain, rfl⟩
        · next other =>
          refine ⟨?_, by simp⟩
          rw [List.isChain_append, last]
          refine ⟨chain, List.isChain_singleton _, ?_⟩
          rintro q shown p ⟨⟩ rfl
          exact other shown

/-- The sound remembered is that of the last poll that has come to one. -/
theorem playing (run : Visits notes past c) : c.playing = .none ∨
    LastOf (fun u => u.Updates ∧ u.sound = some c.playing) Visit.Updates past := by
  induction run with
  | start => exact .inl rfl
  | poll earlier s kept now ih =>
      subst kept
      rw [lastOf_append, lastOf_singleton]
      obtain ⟨idle, -, playing, -⟩ | ⟨updates, sound, playing, -⟩ := (s.poll_outcome now journals).sounds
      · rw [playing]
        refine ih.imp_right fun last => .inr ⟨last, ?_⟩
        exact List.forall_mem_singleton.mpr idle
      · rw [playing]
        exact .inr (.inl ⟨updates, sound⟩)

/-- The time remembered is that of the last beep of the sound. -/
theorem lastBeep (run : Visits notes past c) {t : Nat} (beeped : c.lastBeep = some t) :
    LastOf (fun u => c.playing ∈ u.beeps ∧ u.now = t) (fun u => c.playing ∈ u.beeps) past := by
  induction run with
  | start => cases beeped
  | poll earlier s kept now ih =>
      subst kept
      rw [lastOf_append, lastOf_singleton]
      obtain ⟨-, none, playing, same⟩ | ⟨-, -, playing, ⟨none, same, -⟩ | ⟨one, time, -⟩⟩ :=
        (s.poll_outcome now journals).sounds
      · rw [same] at beeped
        rw [playing]
        exact .inr ⟨ih beeped, List.forall_mem_singleton.mpr (by simp [none])⟩
      · rw [same, Cache.heed] at beeped
        dsimp only at beeped
        split at beeped
        · next kept =>
          rw [playing, kept]
          refine .inr ⟨ih beeped, List.forall_mem_singleton.mpr ?_⟩
          rw [none]
          exact List.not_mem_nil
        · cases beeped
      · rw [time] at beeped
        rw [playing]
        refine .inl ⟨?_, Option.some.inj beeped⟩
        rw [one]
        exact List.mem_singleton_self _

/-- The session forgets a beep only when there is another one of its sound, or the sound changes. -/
theorem remembers (run : Visits notes past c) {x : Sound} {t : Nat}
    (beeped : LastOf (fun u => x ∈ u.beeps ∧ u.now = t)
      (fun w => x ∈ w.beeps ∨ w.Updates ∧ ∃ y ∈ w.sound, y ≠ x) past) :
    c.playing = x ∧ c.lastBeep = some t := by
  induction run with
  | start => exact absurd beeped lastOf_nil
  | poll earlier s kept now ih =>
      subst kept
      rw [lastOf_append, lastOf_singleton, List.forall_mem_singleton] at beeped
      obtain ⟨idle, none, playing, same⟩ | ⟨updates, sound, playing, ⟨none, same, -⟩ | ⟨one, time, -⟩⟩ :=
        (s.poll_outcome now journals).sounds
      · obtain ⟨now', -⟩ | ⟨earlier, -⟩ := beeped
        · simp [none] at now'
        · rw [playing, same]
          exact ih earlier
      · obtain ⟨now', -⟩ | ⟨earlier, undisturbed⟩ := beeped
        · simp [none] at now'
        · obtain ⟨playing', lastBeep⟩ := ih earlier
          have requested : s.desk.sound = x := by
            by_contra other
            exact undisturbed (.inr ⟨updates, _, sound, other⟩)
          rw [playing, same, Cache.heed, requested]
          exact ⟨rfl, (if_pos playing'.symm).trans lastBeep⟩
      · obtain ⟨now', at_⟩ | ⟨-, undisturbed⟩ := beeped
        · rw [one, List.mem_singleton] at now'
          exact ⟨playing.trans now'.symm, time.trans (congrArg some at_)⟩
        · refine absurd ?_ undisturbed
          by_cases same : s.desk.sound = x
          · left
            rw [one, same]
            exact List.mem_singleton_self x
          · exact .inr ⟨updates, _, sound, same⟩

variable (run : Visits notes (past ++ [v]) c) {x : Sound} {word : String} {interval : Nat}

include run

theorem shows_requested (ok : v.ok = true) : ∃ p x, v.asked = some (p, x) ∧
    ((past ++ [v]).flatMap Visit.patterns).getLast? = some p := by
  obtain ⟨before, p, x, -, outcome⟩ := run.last journals
  obtain ⟨asked, shown⟩ := outcome.ok_asked ok
  exact ⟨p, x, asked, (run.patterns journals).2.trans shown⟩

theorem beeps_apart (beep : x.beep? = some (word, interval)) {front between : List Visit} {u : Visit}
    (split : past = front ++ u :: between) (beeped : x ∈ u.beeps) (again : x ∈ v.beeps)
    (undisturbed : ∀ w ∈ between, x ∉ w.beeps ∧ ∀ y ∈ w.sound, y = x) : u.now + interval ≤ v.now := by
  obtain ⟨before, p, x', earlier, outcome⟩ := run.last journals
  obtain ⟨playing, lastBeep⟩ : before.playing = x ∧ before.lastBeep = some u.now := by
    refine earlier.remembers journals ⟨front, u, between, split, ⟨beeped, rfl⟩, ?_⟩
    rintro w mem (again | ⟨-, y, sound, other⟩)
    · exact (undisturbed w mem).1 again
    · exact other ((undisturbed w mem).2 y sound)
  obtain ⟨-, none, -⟩ | ⟨-, -, -, ⟨none, -⟩ | ⟨one, -, due⟩⟩ := outcome.sounds
  · simp [none] at again
  · simp [none] at again
  · rw [one, List.mem_singleton] at again
    subst again
    obtain ⟨command, due⟩ := Option.isSome_iff_exists.mp due
    obtain ⟨word', interval', beep', late, -⟩ := Cache.due?_eq_some_iff.mp due
    obtain ⟨rfl, rfl⟩ : word' = word ∧ interval' = interval := by
      simpa using Option.some.inj (beep'.symm.trans beep)
    rw [Cache.heed, if_pos playing.symm, lastBeep] at late
    have late : interval' ≤ v.now - u.now := of_decide_eq_true late
    have pos := interval_pos beep
    omega

theorem beeps_when_due (beep : x.beep? = some (word, interval)) (ok : v.ok = true) (sound : v.sound = some x)
    (fresh : ¬LastOf (fun u => u.Updates ∧ u.sound = some x) Visit.Updates past ∨
      LastOf (fun u => x ∈ u.beeps ∧ u.now + interval ≤ v.now) (fun u => x ∈ u.beeps) past) :
    v.beeps = [x] := by
  obtain ⟨before, p, x', earlier, outcome⟩ := run.last journals
  obtain ⟨idle, -⟩ | ⟨-, sound', -, ⟨-, -, undue⟩ | ⟨one, -⟩⟩ := outcome.sounds
  · exact absurd (.inl ok) idle
  · obtain rfl : x' = x := Option.some.inj (sound'.symm.trans sound)
    obtain ⟨t, same, lastBeep, recent⟩ := Cache.due?_eq_none_iff.mp (undue ok) word interval beep
    obtain new | old := fresh
    · refine absurd ?_ new
      obtain silent | last := earlier.playing journals
      · rw [same, silent] at beep
        cases beep
      · rw [same]
        exact last
    · have latest := earlier.lastBeep journals lastBeep
      rw [← same] at latest
      obtain ⟨u, ⟨-, old⟩, -, rfl⟩ := old.both latest (fun _ h => h.1) (fun _ h => h.1)
      omega
  · obtain rfl : x' = x := Option.some.inj (sound'.symm.trans sound)
    exact one

theorem silent_without_sound (silent : v.sound = some .none) : v.beeps = [] := by
  obtain ⟨before, p, x, -, outcome⟩ := run.last journals
  obtain ⟨-, none, -⟩ | ⟨-, sound, -, ⟨none, -⟩ | ⟨-, -, due⟩⟩ := outcome.sounds
  · exact none
  · exact none
  · obtain rfl : x = .none := Option.some.inj (sound.symm.trans silent)
    cases due

end Visits

/-- A poll that succeeds leaves the reader with the pattern requested in it, and no pattern is sent twice in a row. A
beep of a sound follows the one before after its interval at least, if no other sound has been looked up in between. A
poll that succeeds sends one beep of the requested sound if the last poll that has come to a sound has come to another
one, or the last beep of the sound is as old as its interval. No poll beeps when no sound is requested. -/
theorem written_as_requested {P : Type} [Port P] {notes : P → List Note} (journals : Journals notes)
    {past : List Visit} {v : Visit} {c : Cache} (run : Visits notes (past ++ [v]) c) :
    (v.ok = true → ∃ p x, v.asked = some (p, x) ∧
      ((past ++ [v]).flatMap Visit.patterns).getLast? = some p) ∧
    (((past ++ [v]).flatMap Visit.patterns).map Pattern.command).IsChain (· ≠ ·) ∧
    (∀ x word interval, x.beep? = some (word, interval) →
      (∀ front u between, past = front ++ u :: between → x ∈ u.beeps → x ∈ v.beeps →
        (∀ w ∈ between, x ∉ w.beeps ∧ ∀ y ∈ w.sound, y = x) → u.now + interval ≤ v.now) ∧
      (v.ok = true → v.sound = some x →
        ¬LastOf (fun u => u.Updates ∧ u.sound = some x) Visit.Updates past ∨
          LastOf (fun u => x ∈ u.beeps ∧ u.now + interval ≤ v.now) (fun u => x ∈ u.beeps) past →
        v.beeps = [x])) ∧
    (v.sound = some .none → v.beeps = []) := by
  refine ⟨run.shows_requested journals, ?_, ?_, run.silent_without_sound journals⟩
  · rw [List.isChain_map]
    exact (run.patterns journals).1.imp fun p q other => command_injective.ne other
  · intro x word interval beep
    constructor
    · intro front u between split beeped again undisturbed
      exact run.beeps_apart journals beep split beeped again undisturbed
    · intro ok sound fresh
      exact run.beeps_when_due journals beep ok sound fresh

/-- A new session that is to beep, over a port that takes everything. -/
def beeping : Session (Noted ScriptedPort) where
  link := { port := { port := {} } }
  desk := { sound := .warningBeep }

/-- Polls at 0, 100 and 500 ms: the last one beeps again. -/
theorem beeping_again :
    let notes : Noted ScriptedPort → List Note := Noted.notes
    let s₁ := (beeping.poll 0).2
    let s₂ := (s₁.poll 100).2
    let v := s₂.visit 500 notes
    Visits notes ([beeping.visit 0 notes, s₁.visit 100 notes] ++ [v]) (s₂.poll 500).2.cache ∧
      v.beeps = [.warningBeep] := by
  intro notes s₁ s₂ v
  have run : Visits notes ([beeping.visit 0 notes, s₁.visit 100 notes] ++ [v]) (s₂.poll 500).2.cache :=
    .poll (.poll (.poll .start beeping rfl 0) s₁ rfl 100) s₂ rfl 500
  obtain ⟨-, -, sounds, -⟩ := written_as_requested Noted.journals run
  refine ⟨run, (sounds .warningBeep _ _ rfl).2 (by decide) (by decide) (.inr ?_)⟩
  exact ⟨[], _, [_], rfl, ⟨by decide, by decide⟩, by decide⟩

end DoorControl.Reader
