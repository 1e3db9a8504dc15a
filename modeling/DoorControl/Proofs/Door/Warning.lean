/- How the end of a timed unlock is announced, and what is left of that when the unlock is extended. -/
import DoorControl.Proofs.Door.Feedback

namespace DoorControl.Door

open Reader (Pattern Sound)

namespace Run

variable {r : Run} {n : Nat}

/-- A turn stops the sound: it rests, or the leave button renews the unlock. -/
def SilencesAt (r : Run) (n : Nat) : Prop := r.RestsAt n ∨ r.RenewsAt n

/-- A turn has the reader show something other than a warning. -/
def RepaintsAt (r : Run) (n : Nat) : Prop :=
  r.RefusesAt n ∨ r.AdmitsAt n ∨ r.RestsAt n ∧ ¬r.RecallsAt n

/-- How a turn comes to what it has the reader play. -/
inductive Sounding (r : Run) (n : Nat) : Option Sound → Prop
  | silence (silences : r.SilencesAt n) : Sounding r n (some .none)
  | warn {sound : Sound} (warns : r.WarnsAt n) (audible : sound ≠ .none) : Sounding r n (some sound)
  | keep (unsilenced : ¬r.SilencesAt n) (unwarned : ¬r.WarnsAt n) : Sounding r n none

theorem not_silencesAt_of_timed (timed : (r.commandedAt n).mode = .timed) (still : ¬r.RenewsAt n) :
    ¬r.SilencesAt n := by
  rintro ((locked | opened) | renews)
  · simp [timed] at locked
  · simp [timed] at opened
  · exact still renews

theorem LingersAt.not_silencesAt (lingers : r.LingersAt n) : ¬r.SilencesAt n :=
  not_silencesAt_of_timed lingers.before fun renews => nomatch lingers.leave.symm.trans renews.leave

theorem LingersAt.not_repaintsAt (lingers : r.LingersAt n) : ¬r.RepaintsAt n := by
  rintro (refused | ⟨locked, -⟩ | ⟨locked | opened, -⟩)
  · simp [refusesAt_iff, r.refusalAt_of_timed n lingers.before] at refused
  · simp [lingers.before] at locked
  · simp [lingers.before] at locked
  · simp [lingers.before] at opened

theorem sounding (r : Run) (n : Nat) : Sounding r n (r.cueAt n).sound := by
  cases mode : (r.commandedAt n).mode with
  | initial =>
      rw [r.cueAt_of_initial n mode]
      refine .keep ?_ fun warns => by simp [warns.1.before] at mode
      rintro ((locked | opened) | renews)
      · simp [mode] at locked
      · simp [mode] at opened
      · simp [renews.before] at mode
  | locked =>
      rw [r.cueAt_of_locked n mode]
      exact .silence (.inl (.inl mode))
  | opened =>
      rw [r.cueAt_of_opened n mode]
      exact .silence (.inl (.inr mode))
  | timed =>
      by_cases warns : r.WarnsAt n
      · rw [r.cueAt_of_warns n warns]
        refine .warn warns ?_
        split <;> nofun
      rw [r.cueAt_of_timed n mode]
      split
      · next after =>
        cases leave : (r.pressedAt n).leave with
        | true => exact .silence (.inr ⟨mode, after, leave⟩)
        | false =>
            have lingers : r.LingersAt n := ⟨mode, after, leave⟩
            rw [if_neg Bool.false_ne_true, warning, if_neg fun late => warns ⟨lingers, late⟩]
            exact .keep lingers.not_silencesAt warns
      · next ended =>
        exact .keep (not_silencesAt_of_timed mode fun renews => ended renews.after) warns

/-- A sound is the last warning's, if none has been silenced since. -/
theorem playedAfter_ne_none_iff : r.playedAfter n ≠ .none ↔
    ∃ j ≤ n, r.WarnsAt j ∧ ∀ l, j < l → l ≤ n → ¬r.SilencesAt l := by
  have written := eq_iff_written_last (fun k => (r.stateAt k).sound) r.stateAt_sound (n + 1)
  have unwritten {j : Nat} (silent : (r.cueAt j).sound = none) : ¬r.SilencesAt j ∧ ¬r.WarnsAt j := by
    have sounding := r.sounding j
    rw [silent] at sounding
    cases sounding with
    | keep unsilenced unwarned => exact ⟨unsilenced, unwarned⟩
  rw [playedAfter_eq]
  constructor
  · intro audible
    generalize played : (r.stateAt (n + 1)).sound = sound at audible
    obtain ⟨j, before, last, still⟩ | ⟨start, -⟩ := (written sound).mp played
    · have sounding := r.sounding j
      rw [last] at sounding
      cases sounding with
      | silence => exact absurd rfl audible
      | warn warns =>
          refine ⟨j, Nat.le_of_lt_succ before, warns, ?_⟩
          intro l after within
          exact (unwritten (still l after (Nat.lt_succ_of_le within))).1
    · exact absurd start.symm audible
  · rintro ⟨j, before, warns, still⟩ silent
    obtain ⟨l, within, last, later⟩ | ⟨-, never⟩ := (written .none).mp silent
    · have sounding := r.sounding l
      rw [last] at sounding
      cases sounding with
      | warn _ audible => exact audible rfl
      | silence silences =>
          -- a silence before the warning is not the last sound, and there is none after it
          obtain earlier | rfl | after := Nat.lt_trichotomy l j
          · exact (unwritten (later j earlier (Nat.lt_succ_of_le before))).2 warns
          · exact warns.1.not_silencesAt silences
          · exact still l after (Nat.le_of_lt_succ within) silences
    · exact (unwritten (never j (Nat.lt_succ_of_le before))).2 warns

/-- A warning is shown until something else is. -/
theorem shownAfter_eq_warnClosing_iff : r.shownAfter n = some .warnClosing ↔
    ∃ j ≤ n, r.WarnsAt j ∧ ∀ l, j < l → l ≤ n → ¬r.RepaintsAt l := by
  constructor
  · intro shown
    obtain ⟨j, before, painted, still⟩ := (r.shownAfter_eq_some_iff n .warnClosing).mp shown
    have painting := r.painting j
    rw [painted] at painting
    cases painting with
    | refuse refusal => simpa using r.refusalAt_cases j refusal
    | warn warns =>
        refine ⟨j, before, warns, ?_⟩
        intro l after within
        obtain ⟨unrefused, unadmitted, -, recalls⟩ :=
          (paintedAt_eq_none_iff (Nat.zero_lt_of_lt after)).mp (still l after within)
        rintro (refused | admitted | ⟨rests, past⟩)
        · exact unrefused refused
        · exact unadmitted admitted
        · exact past (recalls rests)
  · rintro ⟨j, before, warns, still⟩
    have painted := r.paintedAt_of_warns j warns
    obtain ⟨l, p, since, within, last, shown, -⟩ := exists_shown_last before painted
    rw [shown]
    obtain rfl | after := Nat.eq_or_lt_of_le since
    · exact last.symm.trans painted
    · have unpainted := still l after within
      have recalls (rests : r.RestsAt l) : r.RecallsAt l := by
        by_contra past
        exact unpainted (.inr (.inr ⟨rests, past⟩))
      obtain ⟨-, admitted⟩ | ⟨rfl, -⟩ := painted_of_recalls (Nat.zero_lt_of_lt after)
        (fun refused => unpainted (.inl refused)) recalls last
      · exact absurd (.inr (.inl admitted)) unpainted
      · rfl

/-- A timed unlock that is left to its deadline is announced by the time that is left. With more time than
that for a warning, it leaves the reader as an earlier warning has left it. -/
theorem timed_unlock_warns_by_time_left (r : Run) (n : Nat) (lingers : r.LingersAt n) :
    (r.leftAt n ≤ r.settings.unlockWarn →
      r.playedAfter n = (if r.leftAt n ≤ r.settings.closingWarn then .closingWarning else .warningBeep) ∧
        r.shownAfter n = some .warnClosing) ∧
    (r.settings.unlockWarn < r.leftAt n →
      (r.playedAfter n ≠ .none ↔
        ∃ j < n, r.WarnsAt j ∧ ∀ l, j < l → l < n → ¬r.SilencesAt l) ∧
      (r.shownAfter n = some .warnClosing ↔
        ∃ j < n, r.WarnsAt j ∧ ∀ l, j < l → l < n → ¬r.RepaintsAt l)) := by
  constructor
  · intro late
    have warns : r.WarnsAt n := ⟨lingers, late⟩
    constructor
    · rw [playedAfter_eq, stateAt_sound, r.cueAt_of_warns n warns, Option.getD_some]
      by_cases urgent : r.leftAt n ≤ r.settings.closingWarn
      · rw [if_pos urgent, if_neg (Nat.not_lt_of_le urgent)]
      · rw [if_neg urgent, if_pos (Nat.lt_of_not_le urgent)]
    · exact (r.shownAfter_eq_some_iff n .warnClosing).mpr
        ⟨n, Nat.le_refl n, r.paintedAt_of_warns n warns, by omega⟩
  · intro early
    have unwarned : ¬r.WarnsAt n := fun warns => absurd warns.2 (Nat.not_le_of_lt early)
    -- the turn itself neither warns nor ends a warning
    have earlier {ends : Nat → Prop} (goesOn : ¬ends n) :
        (∃ j ≤ n, r.WarnsAt j ∧ ∀ l, j < l → l ≤ n → ¬ends l) ↔
          ∃ j < n, r.WarnsAt j ∧ ∀ l, j < l → l < n → ¬ends l := by
      constructor
      · rintro ⟨j, upto, warns, still⟩
        have other : j ≠ n := by
          rintro rfl
          exact unwarned warns
        exact ⟨j, by omega, warns, fun l after before => still l after (Nat.le_of_lt before)⟩
      · rintro ⟨j, before, warns, still⟩
        refine ⟨j, Nat.le_of_lt before, warns, ?_⟩
        intro l after upto
        obtain within | rfl := Nat.lt_or_eq_of_le upto
        · exact still l after within
        · exact goesOn
    constructor
    · exact playedAfter_ne_none_iff.trans (earlier lingers.not_silencesAt)
    · exact shownAfter_eq_warnClosing_iff.trans (earlier lingers.not_repaintsAt)

theorem leaveNext_warns :
    leaveNext.playedAfter 3 = .closingWarning ∧ leaveNext.shownAfter 3 = some .warnClosing := by
  obtain ⟨before, after, leave, urgent⟩ : (leaveNext.commandedAt 3).mode = .timed ∧
      (leaveNext.stateAt 4).mode = .timed ∧ (leaveNext.pressedAt 3).leave = false ∧
      leaveNext.leftAt 3 ≤ leaveNext.settings.closingWarn := by
    decide +kernel
  have late : leaveNext.leftAt 3 ≤ leaveNext.settings.unlockWarn := Nat.le_trans urgent (by decide)
  obtain ⟨played, shown⟩ := (timed_unlock_warns_by_time_left leaveNext 3 ⟨before, after, leave⟩).1 late
  exact ⟨played.trans (if_pos urgent), shown⟩

/-- The leave button unlocks the door in the second turn, and the gateway for longer in the fourth. -/
def extended : Run where
  settings := { remoteUnlock := 600000 }
  moments n := { greenHeld.moments n with
    inputs := { (greenHeld.moments n).inputs with
      now := n * 1000
      keys := { leave := decide (n = 1) } }
    link := { action := if n = 3 then some .unlock else none } }

theorem extended_warns_on :
    extended.settings.fault? = none ∧ ((extended.commandedAt 3).mode = .timed ∧
      (extended.stateAt 4).mode = .timed ∧ (extended.pressedAt 3).leave = false) ∧
      extended.settings.unlockWarn < extended.leftAt 3 ∧
      extended.playedAfter 3 = .closingWarning ∧ extended.shownAfter 3 = some .warnClosing := by
  decide +kernel

end Run

end DoorControl.Door
