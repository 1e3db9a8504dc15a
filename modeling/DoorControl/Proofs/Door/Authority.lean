/- Who unlocks a door: no run drives the bolt open without a turn that was entitled to it. -/
import DoorControl.Proofs.Door.Run

namespace DoorControl.Door

/-- What entitles a turn to unlock the door: the gateway's word, or at a locked door a button that goes
down or a card that the permissions allow. The mode is the one that the turn comes to. -/
inductive Entitled (i : Snapshot) (pressed : Keys) (mode : Mode) (deeds : List Deed) : Prop
  | gateway (unlock : i.remote = some .unlock)
  | openDay (locked : mode = .locked) (white : pressed.white = true) (day : i.openDay = true)
  | greenButton (locked : mode = .locked) (green : pressed.green = true)
  | leaveButton (locked : mode = .locked) (leave : pressed.leave = true)
  | card (locked : mode = .locked) (card : CardId) (user : UserRef)
      (checked : .checkCard card ∈ deeds) (allowed : i.access card = .allowed user)

namespace Mode

theorem target_unlocked {mode : Mode} : mode.target = .unlocked ↔ mode = .opened ∨ mode = .timed := by
  cases mode <;> simp [target]

theorem target_locked {mode : Mode} : mode.target = .locked ↔ mode = .initial ∨ mode = .locked := by
  cases mode <;> simp [target]

end Mode

theorem Passage.ne_initial {s : Settings} {i : Snapshot} {mode mode' : Mode} {d d' : Option Nat}
    (h : Passage s i mode d mode' d') : mode' ≠ .initial := by
  cases h <;> simp

theorem Passage.of_initial {s : Settings} {i : Snapshot} {mode' : Mode} {d d' : Option Nat}
    (h : Passage s i .initial d mode' d') : mode' = .locked := by
  cases h
  rfl

/-- Only what the locked door heeds leads away from it. -/
theorem Passage.entitled {s : Settings} {i : Snapshot} {mode' : Mode} {d d' : Option Nat}
    {deeds : List Deed} (h : Passage s i .locked d mode' d') (unlocks : mode'.target = .unlocked)
    (checks : ∀ card, asked? i .locked = some card → .checkCard card ∈ deeds) :
    Entitled i i.pressed .locked deeds := by
  cases h with
  | refuseDay | refuseCard | rest => simp [Mode.target] at unlocks
  | openSpace _ white day => exact .openDay rfl white day
  | pressGreen _ white green => exact .greenButton rfl green
  | acceptCard _ card user white green swiped allowed =>
      exact .card rfl card user (checks card (by simp [asked?, white, green, swiped])) allowed
  | pressLeave _ white green swiped leave => exact .leaveButton rfl leave

/-- Without the gateway's word to unlock, a turn comes to the mode it began in or to the locked one. -/
theorem Course.commanded_mode {s : Settings} {i : Snapshot} (c : Course)
    (h : i.remote ≠ some .unlock) :
    (c.commanded s i).mode = c.mode ∨ (c.commanded s i).mode = .locked := by
  unfold commanded
  split
  · split
    · exact .inl rfl
    · exact .inr rfl
  · contradiction
  · exact .inl rfl
  · exact .inl rfl

namespace Run

variable (r : Run) (n : Nat)

def preparedAt : Turn := (r.moments n).prepared r.settings (r.stateAt n)

def EntitledAt : Prop :=
  Entitled (r.snapshotAt n) (r.pressedAt n) (r.preparedAt n).state.mode (r.turnAt n).deeds

/-- The turn turns a locked door, or a new one, into an unlocked one, and is entitled to it. -/
structure UnlocksAt : Prop where
  before : (r.stateAt n).mode.target = .locked
  after : (r.stateAt (n + 1)).mode.target = .unlocked
  entitled : r.EntitledAt n

theorem preparedAt_mode : (r.preparedAt n).state.mode = (r.commandedAt n).mode :=
  congrArg Course.mode (Moment.prepared_course r.settings (r.moments n) (r.stateAt n))

theorem mode_ne_initial : (r.stateAt (n + 1)).mode ≠ .initial := (r.passage n).ne_initial

theorem entitledAt (before : (r.stateAt n).mode.target = .locked)
    (after : (r.stateAt (n + 1)).mode.target = .unlocked) : r.EntitledAt n := by
  by_cases hr : (r.snapshotAt n).remote = some .unlock
  · exact .gateway hr
  -- The handler is the one of a new door or of a locked one, and a new door is only locked.
  · have hp := r.passage n
    have hm := r.preparedAt_mode n
    have hc : (r.commandedAt n).mode = .initial ∨ (r.commandedAt n).mode = .locked := by
      rcases Course.commanded_mode (r.stateAt n).course hr with h | h
      · exact h ▸ Mode.target_locked.mp before
      · exact .inr h
    rcases hc with h | h
    · rw [h] at hp
      simp [hp.of_initial, Mode.target] at after
    · rw [h] at hp hm
      unfold EntitledAt
      rw [hm, ← r.snapshotAt_pressed n]
      apply hp.entitled after
      intro card hcard
      refine (Moment.turn_checks r.settings (r.moments n) (r.stateAt n) card).mpr ?_
      exact (congrArg (asked? (r.snapshotAt n)) hm).trans hcard

theorem unlocksAt (before : (r.stateAt n).mode.target = .locked)
    (after : (r.stateAt (n + 1)).mode.target = .unlocked) : r.UnlocksAt n :=
  ⟨before, after, r.entitledAt n before after⟩

/-- An unlocked door has been unlocked by an entitled turn, and no turn since then has ended locked. -/
theorem unlocksAt_before (h : (r.stateAt n).mode.target = .unlocked) :
    ∃ k < n, r.UnlocksAt k ∧ ∀ j, k ≤ j → j < n → (r.stateAt (j + 1)).mode ≠ .locked := by
  have open_ne_locked {m : Nat} (h : (r.stateAt m).mode.target = .unlocked) :
      (r.stateAt m).mode ≠ .locked := by
    intro hm
    simp [hm, Mode.target] at h
  induction n with
  | zero => simp [stateAt, Mode.target] at h
  | succ n ih =>
      by_cases before : (r.stateAt n).mode.target = .unlocked
      · obtain ⟨k, hk, hu, hsince⟩ := ih before
        refine ⟨k, by omega, hu, ?_⟩
        intro j hkj hj
        rcases Nat.lt_succ_iff_lt_or_eq.mp hj with hj | rfl
        · exact hsince j hkj hj
        · exact open_ne_locked h
      · have locked : (r.stateAt n).mode.target = .locked := by
          cases hm : (r.stateAt n).mode <;> simp_all [Mode.target]
        refine ⟨n, by omega, r.unlocksAt n locked h, ?_⟩
        intro j hnj hj
        obtain rfl : j = n := by omega
        exact open_ne_locked h

theorem drives {b : Lock.BoltState} (h : .driveLock b ∈ (r.turnAt n).deeds) :
    b = (r.stateAt (n + 1)).mode.target := Moment.turn_drives _ _ _ h

/-- A turn that unlocks the door is entitled to it; the bolt is driven to where the mode at the end of
the turn wants it; and a bolt that is driven open was unlocked by an entitled turn, since which no turn
has ended locked. -/
theorem no_unlock_without_entitlement (r : Run) (n : Nat) :
    ((r.stateAt n).mode.target = .locked → (r.stateAt (n + 1)).mode.target = .unlocked →
      r.EntitledAt n) ∧
    (.driveLock .unlocked ∈ (r.turnAt n).deeds →
      (r.stateAt (n + 1)).mode = .opened ∨ (r.stateAt (n + 1)).mode = .timed) ∧
    (.driveLock .locked ∈ (r.turnAt n).deeds → (r.stateAt (n + 1)).mode = .locked) ∧
    .driveLock .unknown ∉ (r.turnAt n).deeds ∧
    (.driveLock .unlocked ∈ (r.turnAt n).deeds → ∃ k ≤ n, r.UnlocksAt k ∧
      ∀ j, k ≤ j → j ≤ n → (r.stateAt (j + 1)).mode ≠ .locked) := by
  refine ⟨r.entitledAt n, ?_, ?_, ?_, ?_⟩
  · intro h
    exact Mode.target_unlocked.mp (r.drives n h).symm
  · intro h
    exact (Mode.target_locked.mp (r.drives n h).symm).resolve_left (r.mode_ne_initial n)
  · intro h
    have hunknown := r.drives n h
    cases hm : (r.stateAt (n + 1)).mode <;> simp [hm, Mode.target] at hunknown
  · intro h
    obtain ⟨k, hk, hu, hsince⟩ := r.unlocksAt_before (n + 1) (r.drives n h).symm
    refine ⟨k, by omega, hu, ?_⟩
    intro j hkj hj
    exact hsince j hkj (by omega)

/-- The second turn unlocks the door, is entitled to it by the button, and drives the bolt open. -/
theorem greenHeld_entitled :
    (greenHeld.stateAt 1).mode.target = .locked ∧ (greenHeld.stateAt 2).mode.target = .unlocked ∧
      greenHeld.EntitledAt 1 ∧ .driveLock .unlocked ∈ (greenHeld.turnAt 1).deeds ∧
      ∃ k ≤ 1, greenHeld.UnlocksAt k ∧
        ∀ j, k ≤ j → j ≤ 1 → (greenHeld.stateAt (j + 1)).mode ≠ .locked := by
  have before : (greenHeld.stateAt 1).mode.target = .locked := by rfl
  have after : (greenHeld.stateAt 2).mode.target = .unlocked := by rfl
  have driven : .driveLock .unlocked ∈ (greenHeld.turnAt 1).deeds := by decide
  obtain ⟨entitled, -, -, -, unlocked⟩ := no_unlock_without_entitlement greenHeld 1
  exact ⟨before, after, entitled before after, driven, unlocked driven⟩

end Run

end DoorControl.Door
