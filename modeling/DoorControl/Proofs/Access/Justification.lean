/- Why a card is let in without asking: the service has said so, for this card and this owner, less than the
staleness window ago. -/
import DoorControl.Proofs.Access.Schedule

namespace DoorControl.Access.Schedule

/-- The cache remembers a card at a step, and what it remembers is not too old. -/
def FreshAt (S : Schedule) (n : Nat) (card : CardId) : Prop :=
  ∃ e, Cache.entry? card (S.stateAt n).cache = some e ∧ S.timeAt n - e.refreshed < S.timing.staleness

variable {S : Schedule} {n : Nat} {card : CardId} {user : UserRef}

theorem freshAt_iff :
    S.FreshAt n card ↔ ((S.stateAt n).cache.fresh? card (S.stateAt n).now).isSome := by
  simp only [Option.isSome_iff_exists, Cache.fresh?_eq_some_iff, timing_stateAt]
  constructor
  · rintro ⟨e, remembered, young⟩
    exact ⟨e.user, e, remembered, young, rfl⟩
  · rintro ⟨_, e, remembered, young, -⟩
    exact ⟨e, remembered, young⟩

/-- What is remembered well enough was said by the service less than the staleness window ago. -/
theorem fresh_received (h : (S.stateAt n).cache.fresh? card (S.stateAt n).now = some user) :
    ∃ k < n, S.Receives k card user ∧ S.timeAt k ≤ S.timeAt n ∧
      S.timeAt n - S.timeAt k < S.timing.staleness := by
  obtain ⟨e, remembered, young, rfl⟩ := Cache.fresh?_eq_some_iff.mp h
  obtain ⟨k, serial, last, time⟩ := exists_lastTold remembered
  rw [timing_stateAt, ← time] at young
  exact ⟨k, last.before, receives_of_notice last.told, timeAt_mono (Nat.le_of_lt last.before), young⟩

theorem lookups_succ (task m : Nat) :
    S.lookups task (m + 1) = S.lookups task m + (S.eventsAt m).countP (·.isLookupOf task) := by
  simp [lookups, List.range_succ]

/-- A task asks the service at no other step than the one at which it begins. -/
theorem countP_elsewhere (begins : S.steps n = .ask card) {m : Nat} (elsewhere : m ≠ n) :
    (S.eventsAt m).countP (·.isLookupOf (S.stateAt n).tasks.length) = 0 := by
  rw [List.countP_eq_zero]
  intro event seen
  cases event with
  | reply => simp [Event.isLookupOf]
  | lookup id other =>
      have longer : ∀ k c, S.steps k = .ask c →
          (S.stateAt (k + 1)).tasks.length = (S.stateAt k).tasks.length + 1 := by
        intro k c asks
        rw [stateAt, asks, Shared.run_ask_tasks_length]
      obtain ⟨asks, rfl, -⟩ := Shared.lookup_mem_run_iff.mp seen
      have here := longer n card begins
      have there := longer m other asks
      simp only [Event.isLookupOf, beq_iff_eq]
      obtain earlier | later := Nat.lt_or_gt_of_ne elsewhere
      · have : (S.stateAt (m + 1)).tasks.length ≤ (S.stateAt n).tasks.length :=
          tasks_length_mono earlier
        omega
      · have : (S.stateAt (n + 1)).tasks.length ≤ (S.stateAt m).tasks.length :=
          tasks_length_mono later
        omega

/-- A call asks the service once, unless its card is remembered well enough. -/
theorem lookups_of_call (begins : S.steps n = .ask card) {m : Nat} (after : n < m) :
    S.lookups (S.stateAt n).tasks.length m =
      if ((S.stateAt n).cache.fresh? card (S.stateAt n).now).isSome then 0 else 1 := by
  -- No task bears the call's number before the call begins.
  have earlier : ∀ k ≤ n, S.lookups (S.stateAt n).tasks.length k = 0 := by
    intro k
    induction k with
    | zero => intro _; rfl
    | succ k ih =>
        intro before
        rw [lookups_succ, ih (Nat.le_of_succ_le before), countP_elsewhere begins (by omega)]
  induction m, after using Nat.le_induction with
  | base =>
      rw [lookups_succ, earlier n (Nat.le_refl n), Nat.zero_add, eventsAt, begins]
      exact Shared.countP_run_ask (S.stateAt n) card
  | succ m after ih => rw [lookups_succ, ih, countP_elsewhere begins (by omega), Nat.add_zero]

/-- Every permission that a call ends with is the service's answer to this call, or the cache has received
it less than the staleness window ago, as a permission for the card or in the card's last record in a list.
A call asks the service once, and not at all when its card is remembered well enough; refusals and failures
change nothing. -/
theorem answers_are_justified (S : Schedule) :
    (∀ n id card user, .reply id card (.allowed user) ∈ S.eventsAt n →
      S.Settles n id card (.ok (.allowed user)) ∨
        ∃ k < n, S.Receives k card user ∧ S.timeAt k ≤ S.timeAt n ∧
          S.timeAt n - S.timeAt k < S.timing.staleness) ∧
      (∀ n card, S.steps n = .ask card → ∀ m, n < m →
        (S.FreshAt n card → S.lookups (S.stateAt n).tasks.length m = 0) ∧
          (¬ S.FreshAt n card → S.lookups (S.stateAt n).tasks.length m = 1)) ∧
      (∀ n id card answer, S.Settles n id card answer → (∀ user, answer ≠ .ok (.allowed user)) →
        (S.stateAt (n + 1)).cache = (S.stateAt n).cache) ∧
      ∀ n id e, S.TakesOver n id (.error e) →
        (S.stateAt (n + 1)).cache = (S.stateAt n).cache := by
  refine ⟨?justified, ?asked, ?refused, ?failed⟩
  case justified =>
    intro n id card user ends
    obtain ⟨-, fresh⟩ | ⟨resumes, serial, answered⟩ := Shared.allowed_mem_run ends
    · exact .inr (fresh_received fresh)
    · exact .inl (settles_of_answered resumes answered)
  case asked =>
    intro n card begins m after
    rw [lookups_of_call begins after, freshAt_iff]
    exact ⟨fun fresh => if_pos fresh, fun stale => if_neg stale⟩
  case refused =>
    intro n id card answer settles refused
    obtain ⟨serial, answered⟩ := settles.answered
    rw [stateAt, settles.resumes]
    exact Shared.run_refused answered refused
  case failed =>
    intro n id e takesOver
    obtain ⟨serial, listed⟩ := takesOver.listed
    rw [stateAt, takesOver.resumes]
    exact Shared.run_failed listed

/-- Calls about one card and a refresh. The list arrives while the first call waits, the call's own answer
counts from when it is taken over, and its window of 10 ends at an age of 10. -/
def crossing : Schedule :=
  .ofList { staleness := 10 }
    [.ask .smallest, .fetch, .list 1 (.ok [⟨.smallest, ⟨1, 1⟩⟩, ⟨.smallest, ⟨2, 2⟩⟩]),
      .resume 1, .ask .smallest, .answer 0 (.ok (.allowed ⟨3, 3⟩)), .wait 9, .resume 0,
      .wait 9, .ask .smallest, .wait 1, .ask .smallest, .answer 4 (.ok .forbidden), .resume 4]

theorem crossing_justified :
    (.reply 2 .smallest (.allowed ⟨2, 2⟩) ∈ crossing.eventsAt 4 ∧
      ∃ k < 4, crossing.Receives k .smallest ⟨2, 2⟩ ∧ crossing.timeAt k ≤ crossing.timeAt 4 ∧
        crossing.timeAt 4 - crossing.timeAt k < 10) ∧
      (crossing.steps 9 = .ask .smallest ∧ crossing.FreshAt 9 .smallest ∧ crossing.lookups 3 14 = 0) ∧
      (crossing.steps 11 = .ask .smallest ∧ ¬ crossing.FreshAt 11 .smallest ∧
        crossing.lookups 4 14 = 1) ∧
      crossing.Settles 13 4 .smallest (.ok .forbidden) ∧
      (crossing.stateAt 14).cache = (crossing.stateAt 13).cache := by
  obtain ⟨justified, asked, refused, -⟩ := answers_are_justified crossing
  have remembered : .reply 2 .smallest (.allowed ⟨2, 2⟩) ∈ crossing.eventsAt 4 := by decide
  have fresh : crossing.FreshAt 9 .smallest := freshAt_iff.mpr (by decide)
  have stale : ¬ crossing.FreshAt 11 .smallest := fun h => absurd (freshAt_iff.mp h) (by decide)
  have answered :
      (crossing.stateAt 13).tasks[4]? = some (.answered .smallest (.ok .forbidden) 2) := rfl
  have settles : crossing.Settles 13 4 .smallest (.ok .forbidden) := settles_of_answered rfl answered
  refine ⟨⟨remembered, ?_⟩, ⟨rfl, fresh, ?_⟩, ⟨rfl, stale, ?_⟩, settles, ?_⟩
  · exact (justified 4 2 .smallest ⟨2, 2⟩ remembered).resolve_left fun own => nomatch own.resumes
  · exact (asked 9 .smallest rfl 14 (by decide)).1 fresh
  · exact (asked 11 .smallest rfl 14 (by decide)).2 stale
  · exact refused 13 4 .smallest (.ok .forbidden) settles (by simp)

end DoorControl.Access.Schedule
