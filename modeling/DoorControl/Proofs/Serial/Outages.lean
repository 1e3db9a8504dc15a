/- How the outages of a device show in what its poll thread reports: each of them once, and once that it is over. -/
import DoorControl.Serial.Poller
import Mathlib.Data.List.Basic

namespace DoorControl.Serial

/-- Failures in a row. -/
structure Outage where
  cause : DeviceError
  further : List DeviceError := []
  /-- Whether a poll has succeeded after them. -/
  mended : Bool

def Outage.notices (o : Outage) : List Poller.Notice :=
  .failed o.cause :: if o.mended then [.recovered] else []

/-- The outages among poll results. Each is as long as possible: a success or nothing stands before it, and a success or
nothing behind it. -/
inductive Outages : List (Except DeviceError Unit) → List Outage → Prop
  | none : Outages [] []
  | success {results outages} (rest : Outages results outages) : Outages (.ok () :: results) outages
  | last (cause : DeviceError) (further : List DeviceError) :
      Outages ((cause :: further).map .error) [⟨cause, further, false⟩]
  | mended {results outages} (cause : DeviceError) (further : List DeviceError)
      (rest : Outages results outages) :
      Outages ((cause :: further).map .error ++ .ok () :: results) (⟨cause, further, true⟩ :: outages)

theorem exists_outages (results : List (Except DeviceError Unit)) : ∃ outages, Outages results outages := by
  induction results with
  | nil => exact ⟨[], .none⟩
  | cons result results ih =>
      obtain ⟨outages, rest⟩ := ih
      cases result with
      | ok => exact ⟨outages, .success rest⟩
      | error e =>
          -- A failure in front of other ones makes their outage longer.
          cases rest with
          | none => exact ⟨_, .last e []⟩
          | success rest => exact ⟨_, .mended e [] rest⟩
          | last cause further => exact ⟨_, .last e (cause :: further)⟩
          | mended cause further rest => exact ⟨_, .mended e (cause :: further) rest⟩

namespace Poller

theorem noticesFrom_failures (failures : List DeviceError) (rest : List (Except DeviceError Unit)) :
    noticesFrom true (failures.map .error ++ rest) = noticesFrom true rest := by
  induction failures with
  | nil => rfl
  | cons e failures ih => exact ih

theorem noticesFrom_outages {results : List (Except DeviceError Unit)} {outages : List Outage}
    (h : Outages results outages) : noticesFrom false results = outages.flatMap Outage.notices := by
  induction h with
  | none => rfl
  | success rest ih => exact ih
  | last cause further =>
      have silent := noticesFrom_failures further []
      rw [List.append_nil] at silent
      exact congrArg (.failed cause :: ·) silent
  | @mended results outages cause further rest ih =>
      have silent : noticesFrom true (further.map .error ++ .ok () :: results) =
          .recovered :: noticesFrom false results := noticesFrom_failures further _
      rw [List.flatMap_cons, ← ih]
      exact congrArg (.failed cause :: ·) silent

section

variable {W : Type}

/-- Some polls end with these results one after the other. Only after them the thread is to stop. -/
inductive Polls (p : Poller W) : W → List (Except DeviceError Unit) → W → Prop
  | stop {world : W} (stopped : p.isStopped world = true) : Polls p world [] world
  | poll {world last : W} {results : List (Except DeviceError Unit)} (goesOn : p.isStopped world = false)
      (later : Polls p (p.rest (p.poll world).2) results last) :
      Polls p world ((p.poll world).1 :: results) last

variable {p : Poller W} {world last : W} {results : List (Except DeviceError Unit)}

theorem Polls.loop (polls : p.Polls world results last) {most : Nat} (enough : results.length ≤ most)
    (failing : Bool) : p.loop most failing world = some (noticesFrom failing results, last) := by
  induction polls generalizing most failing with
  | stop stopped =>
      unfold Poller.loop
      rw [if_pos stopped]
      rfl
  | poll goesOn later ih =>
      obtain ⟨most, rfl⟩ := Nat.exists_eq_add_of_le' (Nat.le_trans (Nat.le_add_left 1 _) enough)
      rw [Poller.loop, if_neg (by simp [goesOn])]
      dsimp only
      rw [ih (Nat.le_of_succ_le_succ enough)]
      rfl

/-- The thread reports what is to be reported of the results. -/
theorem Polls.run (polls : p.Polls world results last) {most : Nat} (enough : results.length ≤ most) :
    p.run most world = some (notices results, last) := by
  rw [Poller.run, polls.loop enough]
  rfl

/-- However the polls are counted, there is one for each result. -/
theorem Polls.count (polls : p.Polls world results last) {calls : W → Nat}
    (counted : ∀ world, calls (p.poll world).2 = calls world + 1)
    (uncounted : ∀ world, calls (p.rest world) = calls world) :
    calls last = calls world + results.length := by
  induction polls with
  | stop => rfl
  | poll _ later ih =>
      rw [ih, uncounted, counted, List.length_cons]
      omega

theorem Polls.of_stopped (polls : p.Polls world results last) (stopped : p.isStopped world = true) :
    results = [] ∧ last = world := by
  cases polls with
  | stop => exact ⟨rfl, rfl⟩
  | poll goesOn => exact absurd (stopped.symm.trans goesOn) Bool.noConfusion

/-- A poll thread polls once for each of its results, and not at all if it is to stop beforehand. It reports its start,
of each outage the cause of its first failure and, if there is one, the success behind it, and then its end. -/
theorem outages_are_reported_once (polls : p.Polls world results last) :
    (∃ outages, Outages results outages ∧ ∀ most, results.length ≤ most →
      p.run most world = some (.started :: outages.flatMap Outage.notices ++ [.stopped], last)) ∧
    (∀ calls : W → Nat, (∀ world, calls (p.poll world).2 = calls world + 1) →
      (∀ world, calls (p.rest world) = calls world) → calls last = calls world + results.length) ∧
    (p.isStopped world = true → results = [] ∧ last = world) := by
  refine ⟨?_, fun _ counted uncounted => polls.count counted uncounted, polls.of_stopped⟩
  obtain ⟨outages, found⟩ := exists_outages results
  refine ⟨outages, found, ?_⟩
  intro most enough
  rw [polls.run enough, notices, noticesFrom_outages found]

end

/-- A thread whose polls end with some results that are written down, and that is to stop once these have run out. -/
def scripted : Poller (List (Except DeviceError Unit)) where
  poll world := (world.headD (.ok ()), world.tail)
  rest := id
  isStopped := List.isEmpty

theorem scripted_polls (results : List (Except DeviceError Unit)) : scripted.Polls results results [] := by
  induction results with
  | nil => exact .stop rfl
  | cons result results ih => exact .poll rfl ih

/-- Two outages, the second of which lasts. -/
def relapse : List (Except DeviceError Unit) :=
  [.ok (), .error (.timeout "status" 10), .error (.other "jam"), .ok (), .ok (), .error (.other "dust")]

theorem relapse_reported : scripted.Polls relapse relapse [] ∧
    scripted.run 6 relapse = some ([.started, .failed (.timeout "status" 10), .recovered,
      .failed (.other "dust"), .stopped], []) := by
  have polls : scripted.Polls relapse relapse [] := scripted_polls relapse
  obtain ⟨⟨outages, found, reported⟩, -, -⟩ := outages_are_reported_once polls
  refine ⟨polls, ?_⟩
  rw [reported 6 (by decide), ← noticesFrom_outages found]
  rfl

end Poller

end DoorControl.Serial
