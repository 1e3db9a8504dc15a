/- The bolt follows the mode. A failed lock command is followed by a wait, and a series of failures is
told once. -/
import DoorControl.Proofs.Door.Offers
import Mathlib.Data.List.SplitBy
import Mathlib.Order.Monotone.Basic

namespace DoorControl.Door

/-- The number of the longest possible series of failures that the results of some commands fall into. -/
def failureSeries (results : List (Except DeviceError Unit)) : Nat :=
  (results.splitBy (fun a b => a.isOk == b.isOk)).countP (fun series => series.any (!·.isOk))

/-- Whether there are results and the last one is a failure. -/
def lastFailed (results : List (Except DeviceError Unit)) : Bool :=
  results.getLast?.any (!·.isOk)

@[simp] theorem lastFailed_concat (results : List (Except DeviceError Unit))
    (result : Except DeviceError Unit) : lastFailed (results ++ [result]) = !result.isOk := by
  simp [lastFailed]

/-- An element that is related to the last one joins the last part. -/
theorem splitBy_concat_of_rel {α : Type} {r : α → α → Bool} {xs : List α} {x y : α}
    (hx : xs.getLast? = some x) (hr : r x y = true) :
    ∃ parts part, x ∈ part ∧ xs.splitBy r = parts ++ [part] ∧
      (xs ++ [y]).splitBy r = parts ++ [part ++ [y]] := by
  have hne : xs.splitBy r ≠ [] := by
    rw [List.splitBy_ne_nil]
    rintro rfl
    simp at hx
  obtain ⟨parts, part, hparts⟩ := (List.eq_nil_or_concat (xs.splitBy r)).resolve_left hne
  rw [List.concat_eq_append] at hparts
  have hflat : xs = parts.flatten ++ part := by
    simpa [hparts] using (List.flatten_splitBy r xs).symm
  have hpart : part ≠ [] := List.ne_nil_of_mem_splitBy (r := r) (l := xs) (by simp [hparts])
  have hlast : part.getLast? = some x := by
    rw [hflat, List.getLast?_append_of_ne_nil _ hpart] at hx
    exact hx
  have hchains (p : List α) (hp : p ∈ parts ++ [part]) :=
    List.isChain_of_mem_splitBy (r := r) (l := xs) (hparts ▸ hp)
  have hbreaks := List.isChain_getLast_head_splitBy r xs
  rw [hparts, List.isChain_append] at hbreaks
  refine ⟨parts, part, List.mem_of_getLast? hlast, hparts, List.splitBy_eq_iff.mpr ⟨?_, ?_, ?_, ?_⟩⟩
  · simp [hflat]
  · have := List.nil_notMem_splitBy r xs
    rw [hparts] at this
    simpa using fun h => this (by simp [h])
  · intro p hp
    rcases List.mem_append.mp hp with hp | hp
    · exact hchains p (by simp [hp])
    · obtain rfl := List.mem_singleton.mp hp
      rw [List.isChain_append]
      refine ⟨hchains part (by simp), by simp, ?_⟩
      intro a ha b hb
      simp_all
  · rw [List.isChain_append]
    refine ⟨hbreaks.1, by simp, ?_⟩
    intro p hp q hq
    obtain rfl : part ++ [y] = q := by simpa using hq
    obtain ⟨ha, hb, hbreak⟩ := hbreaks.2.2 p hp part (by simp)
    exact ⟨ha, by simp, by rwa [List.head_append_of_ne_nil hpart]⟩

/-- A failure begins a series unless it follows another one. -/
theorem failureSeries_concat (results : List (Except DeviceError Unit))
    (result : Except DeviceError Unit) :
    failureSeries (results ++ [result]) = failureSeries results +
      if !result.isOk && !lastFailed results then 1 else 0 := by
  unfold failureSeries lastFailed
  cases hlast : results.getLast? with
  | none =>
      obtain rfl := List.getLast?_eq_none_iff.mp hlast
      cases result <;> rfl
  | some last =>
      by_cases hr : last.isOk = result.isOk
      · obtain ⟨parts, part, hmem, hparts, hsplit⟩ :=
          splitBy_concat_of_rel (r := fun a b => a.isOk == b.isOk) (y := result) hlast (by simp [hr])
        rw [hparts, hsplit]
        have hany : (part ++ [result]).any (!·.isOk) = part.any (!·.isOk) := by
          cases hok : result.isOk with
          | true => simp [hok]
          | false =>
              have : part.any (!·.isOk) = true :=
                List.any_eq_true.mpr ⟨last, hmem, by simp [hr, hok]⟩
              simp [this]
        simp [List.countP_append, List.countP_singleton, hany, hr]
      · have hsingle : [result].splitBy (fun a b => a.isOk == b.isOk) = [[result]] := rfl
        rw [List.splitBy_append (by simp [hlast, hr]), hsingle]
        cases hok : result.isOk <;> simp_all [List.countP_append]

def Deed.command? : Deed → Option Lock.BoltState
  | .driveLock target => some target
  | _ => none

def Deed.isLockWarning : Deed → Bool
  | .say _ text => tellsLockFailure text
  | _ => false

namespace Turn

variable {t : Turn}

theorem notable_commands : t.notable.filterMap Deed.command? = t.deeds.filterMap Deed.command? := by
  rw [notable, List.filterMap_filter]
  congr 1
  funext d
  cases d with
  | say | offer => exact ite_self none
  | _ => rfl

theorem notable_warnings : t.notable.countP Deed.isLockWarning = t.deeds.countP Deed.isLockWarning := by
  rw [notable, List.countP_filter]
  congr 1
  funext d
  cases d <;> simp [Deed.isNotable, Deed.isLockWarning]

theorem checked_commands (s : Settings) (i : Snapshot) (mode : Mode) :
    (checked s i mode).filterMap Deed.command? = [] := by
  unfold checked
  cases asked? i mode with
  | none => rfl
  | some card => cases h : i.access card <;> simp [granted, h, Deed.command?]

theorem checked_warnings (s : Settings) (i : Snapshot) (mode : Mode) :
    (checked s i mode).countP Deed.isLockWarning = 0 := by
  unfold checked
  cases asked? i mode with
  | none => rfl
  | some card => cases h : i.access card <;> simp [granted, h, Deed.isLockWarning]

theorem complaints_commands (failing : Bool) (result : Except DeviceError Unit) :
    (complaints failing result).filterMap Deed.command? = [] := by
  cases result <;> cases failing <;> rfl

theorem complaints_warnings (failing : Bool) (result : Except DeviceError Unit) :
    (complaints failing result).countP Deed.isLockWarning =
      if !result.isOk && !failing then 1 else 0 := by
  cases result with
  | ok _ => rfl
  | error e =>
      cases failing with
      | true => rfl
      | false =>
          have h := tellsLockFailure_cause e.message
          simp only [complaints, Bool.false_eq_true, if_false, List.countP_singleton,
            Deed.isLockWarning, h]
          rfl

end Turn

namespace Run

variable (r : Run) (n : Nat)

def targetAt : Lock.BoltState := (r.stateAt (n + 1)).mode.target

def commandsAt : List Lock.BoltState := (r.turnAt n).deeds.filterMap Deed.command?

/-- What comes of the lock commands of a turn. -/
def resultsAt : List (Except DeviceError Unit) :=
  (r.commandsAt n).map (r.moments n).inputs.drive

/-- What has come of all lock commands before a turn, in order. -/
def resultsBefore : List (Except DeviceError Unit) := (List.range n).flatMap r.resultsAt

/-- The messages on failed lock commands before a turn. -/
def warningsBefore : Nat :=
  ((List.range n).flatMap (fun k => (r.turnAt k).deeds)).countP Deed.isLockWarning

def FailsAt : Prop := ∃ e, .error e ∈ r.resultsAt n

/-- The bolt as reported at the end of each turn: where a command that succeeded has sent it, and without
a command where it was found. -/
structure Reports (r : Run) (bolt : Nat → Lock.BoltState) : Prop where
  obeyed : ∀ n target, target ∈ r.commandsAt n → (r.moments n).inputs.drive target = .ok () →
    bolt n = target
  quiet : ∀ n, r.commandsAt n = [] → bolt n = (r.moments n).inputs.bolt

def drivesAt : Bool := (r.moments n).drives r.settings (r.stateAt n)

theorem commandsAt_eq : r.commandsAt n = if r.drivesAt n then [r.targetAt n] else [] := by
  have h := Moment.turn_notable r.settings (r.moments n) (r.stateAt n)
  unfold commandsAt turnAt drivesAt
  rw [← Turn.notable_commands, h, List.filterMap_append, Turn.checked_commands]
  split
  · simp only [List.filterMap_cons, Deed.command?, Turn.complaints_commands]
    rfl
  · rfl

theorem warnings_eq : (r.turnAt n).deeds.countP Deed.isLockWarning =
    if r.drivesAt n then
      if !((r.moments n).inputs.drive (r.targetAt n)).isOk && !(r.stateAt n).lockFailing then 1 else 0
    else 0 := by
  have h := Moment.turn_notable r.settings (r.moments n) (r.stateAt n)
  unfold turnAt drivesAt
  rw [← Turn.notable_warnings, h, List.countP_append, Turn.checked_warnings, Nat.zero_add]
  split
  · rw [List.countP_cons_of_neg (by simp [Deed.isLockWarning]), Turn.complaints_warnings]
    rfl
  · rfl

theorem resultsAt_eq : r.resultsAt n =
    if r.drivesAt n then [(r.moments n).inputs.drive (r.targetAt n)] else [] := by
  unfold resultsAt
  rw [commandsAt_eq]
  split <;> rfl

theorem failsAt_iff : r.FailsAt n ↔
    r.drivesAt n = true ∧ ((r.moments n).inputs.drive (r.targetAt n)).isOk = false := by
  unfold FailsAt
  rw [resultsAt_eq]
  cases r.drivesAt n <;> cases (r.moments n).inputs.drive (r.targetAt n) <;>
    simp [Except.isOk, Except.toBool]

theorem resultsBefore_succ : r.resultsBefore (n + 1) = r.resultsBefore n ++ r.resultsAt n := by
  simp [resultsBefore, List.range_succ]

theorem warningsBefore_succ : r.warningsBefore (n + 1) =
    r.warningsBefore n + (r.turnAt n).deeds.countP Deed.isLockWarning := by
  simp [warningsBefore, List.range_succ]

theorem lockFailing_succ : (r.stateAt (n + 1)).lockFailing =
    if r.drivesAt n then !((r.moments n).inputs.drive (r.targetAt n)).isOk
    else (r.stateAt n).lockFailing := by
  have h := congrArg Kept.lockFailing (Moment.turn_kept r.settings (r.moments n) (r.stateAt n))
  rw [apply_ite Kept.lockFailing] at h
  exact h

theorem lockRetryAt_succ : (r.stateAt (n + 1)).lockRetryAt =
    if r.drivesAt n then
      if ((r.moments n).inputs.drive (r.targetAt n)).isOk then none
      else some (r.timeAt n + r.settings.lockRetry)
    else (r.stateAt n).lockRetryAt := by
  have h := congrArg Kept.lockRetryAt (Moment.turn_kept r.settings (r.moments n) (r.stateAt n))
  rw [apply_ite Kept.lockRetryAt] at h
  exact h

theorem lockFailing_eq : (r.stateAt n).lockFailing = lastFailed (r.resultsBefore n) := by
  induction n with
  | zero => rfl
  | succ n ih =>
      rw [lockFailing_succ, resultsBefore_succ, resultsAt_eq]
      split
      · rw [lastFailed_concat]
      · rw [List.append_nil, ih]

/-- A warning is due where a series of failures begins: the flag tells whether one is going on. -/
theorem warningsBefore_eq : r.warningsBefore n = failureSeries (r.resultsBefore n) := by
  induction n with
  | zero => rfl
  | succ n ih =>
      rw [warningsBefore_succ, resultsBefore_succ, resultsAt_eq, warnings_eq, lockFailing_eq, ih]
      split
      · rw [failureSeries_concat]
      · rw [List.append_nil, Nat.add_zero]

variable {r n}

/-- Up to the next command a failure keeps the time noted for it. -/
theorem FailsAt.lockRetryAt {f : Nat} (failed : r.FailsAt f) (hf : f < n)
    (silent : ∀ k, f < k → k < n → r.drivesAt k = false) :
    (r.stateAt n).lockRetryAt = some (r.timeAt f + r.settings.lockRetry) := by
  induction n with
  | zero => omega
  | succ n ih =>
      rw [lockRetryAt_succ]
      rcases Nat.lt_succ_iff_lt_or_eq.mp hf with hf | rfl
      · rw [if_neg (by simp [silent n hf (Nat.lt_succ_self n)])]
        exact ih hf (fun k hk hkn => silent k hk (by omega))
      · obtain ⟨drives, failed⟩ := (r.failsAt_iff f).mp failed
        simp [drives, failed]

/-- A time to wait for comes from the last command, which has failed. -/
theorem failure_of_lockRetryAt {time : Nat} (h : (r.stateAt n).lockRetryAt = some time) :
    ∃ f < n, r.FailsAt f ∧ time = r.timeAt f + r.settings.lockRetry ∧
      ∀ k, f < k → k < n → r.drivesAt k = false := by
  induction n with
  | zero => simp [stateAt] at h
  | succ n ih =>
      rw [lockRetryAt_succ] at h
      cases drives : r.drivesAt n with
      | true =>
          cases hok : ((r.moments n).inputs.drive (r.targetAt n)).isOk with
          | true => simp [drives, hok] at h
          | false =>
              refine ⟨n, by omega, (r.failsAt_iff n).mpr ⟨drives, hok⟩, ?_, by omega⟩
              simpa [drives, hok, eq_comm] using h
      | false =>
          obtain ⟨f, hf, failed, htime, silent⟩ := ih (by simpa [drives] using h)
          refine ⟨f, by omega, failed, htime, ?_⟩
          intro k hk hkn
          rcases Nat.lt_succ_iff_lt_or_eq.mp hkn with hkn | rfl
          · exact silent k hk hkn
          · exact drives

theorem drivesAt_eq_false_iff : r.drivesAt n = false ↔
    (r.moments n).inputs.bolt = r.targetAt n ∨
      ∃ time, (r.stateAt n).lockRetryAt = some time ∧ r.timeAt n < time := by
  unfold drivesAt Moment.drives Turn.backingOff
  cases (r.stateAt n).lockRetryAt with
  | none => simp [targetAt, stateAt]
  | some time => simp [targetAt, timeAt, stateAt, or_iff_not_imp_left]

/-- A command that fails is followed by a wait: all turns in between find the time noted for it. -/
theorem FailsAt.waits {f : Nat} (failed : r.FailsAt f) (ordered : r.Ordered) (hf : f < n)
    (early : r.timeAt n < r.timeAt f + r.settings.lockRetry) : r.drivesAt n = false := by
  -- The turns between are silent by induction, so the time noted for the failure is still the one noted.
  induction n using Nat.strong_induction_on with
  | _ n ih =>
      have silent (k : Nat) (hk : f < k) (hkn : k < n) : r.drivesAt k = false :=
        ih k hkn hk (Nat.lt_of_le_of_lt (monotone_nat_of_le_succ ordered hkn.le) early)
      exact drivesAt_eq_false_iff.mpr (.inr ⟨_, failed.lockRetryAt hf silent, early⟩)

/-- Each turn sends the bolt at most once, to where its last mode wants it. After each turn the bolt is
there, or the last command has failed, in this turn or so recently that its wait is not over. As long as a
wait lasts no command is sent. As many warnings are given as there are series of failures, and what a turn
says, warnings among it, goes to the queue of the chat. -/
theorem bolt_follows_mode (r : Run) (ordered : r.Ordered) {bolt : Nat → Lock.BoltState}
    (reports : r.Reports bolt) :
    (∀ n, r.commandsAt n = [] ∨ r.commandsAt n = [(r.stateAt (n + 1)).mode.target]) ∧
    (∀ n, bolt n = (r.stateAt (n + 1)).mode.target ∨
      ∃ f ≤ n, r.FailsAt f ∧ (∀ k, f < k → k ≤ n → r.commandsAt k = []) ∧
        (r.timeAt n = r.timeAt f ∨ r.timeAt n < r.timeAt f + r.settings.lockRetry)) ∧
    (∀ f n, r.FailsAt f → f < n → r.timeAt n < r.timeAt f + r.settings.lockRetry →
      r.commandsAt n = []) ∧
    (∀ n, r.warningsBefore n = failureSeries (r.resultsBefore n)) ∧
    (∀ n, (r.turnAt n).HandsOver (r.snapshotAt n) (r.moments n).outbound) := by
  have silent {k : Nat} (h : r.drivesAt k = false) : r.commandsAt k = [] := by
    rw [commandsAt_eq, h]
    rfl
  refine ⟨?_, ?_, ?_, r.warningsBefore_eq, r.turnAt_handsOver⟩
  · intro n
    rw [commandsAt_eq]
    cases r.drivesAt n with
    | true => exact .inr rfl
    | false => exact .inl rfl
  · intro n
    cases drives : r.drivesAt n with
    | true =>
        cases hresult : (r.moments n).inputs.drive (r.targetAt n) with
        | ok _ =>
            have sent : r.targetAt n ∈ r.commandsAt n := by simp [commandsAt_eq, drives]
            exact .inl (reports.obeyed n _ sent hresult)
        | error e =>
            have failed : r.FailsAt n := (r.failsAt_iff n).mpr ⟨drives, by rw [hresult]; rfl⟩
            exact .inr ⟨n, le_rfl, failed, by omega, .inl rfl⟩
    | false =>
        rcases drivesAt_eq_false_iff.mp drives with there | ⟨time, retry, wait⟩
        · exact .inl ((reports.quiet n (silent drives)).trans there)
        · obtain ⟨f, hf, failed, rfl, since⟩ := failure_of_lockRetryAt retry
          refine .inr ⟨f, hf.le, failed, ?_, .inr wait⟩
          intro k hk hkn
          rcases Nat.lt_or_eq_of_le hkn with hkn | rfl
          · exact silent (since k hk hkn)
          · exact silent drives
  · intro f n failed hf early
    exact silent (failed.waits ordered hf early)

/-- Turns a second apart, in which the lock refuses to be locked. -/
def jammed : Run where
  settings := {}
  moments n :=
    let m := greenHeld.moments 0
    { m with inputs := { m.inputs with
        now := n * 1000
        bolt := .unlocked
        drive _ := .error (.timeout "lock" 10) } }

/-- The first turn and the sixth one try to lock, the ones between wait, and one warning is given. -/
theorem jammed_warns_once :
    jammed.Ordered ∧ jammed.Reports (fun _ => .unlocked) ∧ jammed.FailsAt 0 ∧
      jammed.commandsAt 4 = [] ∧ jammed.commandsAt 5 = [.locked] ∧ jammed.warningsBefore 6 = 1 ∧
      (jammed.turnAt 0).outbound.chat.items.map Outbox.Item.text =
        [":warning: Lock command failed: No reply to 'lock' after 10ms"] := by
  have ordered : jammed.Ordered := fun n => Nat.mul_le_mul_right 1000 (Nat.le_succ n)
  have reports : jammed.Reports (fun _ => .unlocked) := {
    obeyed _ _ _ h := nomatch h
    quiet _ _ := rfl }
  have failed : jammed.FailsAt 0 := ⟨.timeout "lock" 10, by decide⟩
  obtain ⟨-, -, waits, warnings, handed⟩ := bolt_follows_mode jammed ordered reports
  have results : jammed.resultsBefore 6 =
      [.error (.timeout "lock" 10), .error (.timeout "lock" 10)] := by rfl
  have said : (jammed.turnAt 0).news.said =
      [(.monitoring, ":warning: Lock command failed: No reply to 'lock' after 10ms")] := by rfl
  refine ⟨ordered, reports, failed, waits 0 4 failed (by omega) (by decide), by decide +kernel, ?_, ?_⟩
  · rw [warnings, results]
    rfl
  · rw [(handed 0).chat, (handed 0).said, said]
    rfl

end Run

end DoorControl.Door
