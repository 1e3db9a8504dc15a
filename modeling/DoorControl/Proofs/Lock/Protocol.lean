/- The exchanges of a state change: which commands the lock gets, in which order, where they break off, and
what the session remembers afterwards. -/
import DoorControl.Proofs.Lock.Attribution
import DoorControl.Proofs.Lock.Dialogue
import DoorControl.Proofs.Serial.Recording
import DoorControl.Proofs.Text.Words

namespace DoorControl

namespace Lock

open Serial

/-- A reply that begins with OK. -/
def Affirms (reply : String) : Prop := "OK".toList <+: Text.trim reply.toList

instance (reply : String) : Decidable (Affirms reply) := inferInstanceAs (Decidable (_ <+: _))

/-- A reply of a lock that has to be calibrated first. -/
def AsksCalibration (reply : String) : Prop :=
  ¬Affirms reply ∧ "not calibrated".toList <:+: Text.trim reply.toList

instance (reply : String) : Decidable (AsksCalibration reply) := inferInstanceAs (Decidable (_ ∧ _ <:+: _))

theorem readAck_cases (command : Command) (reply : String) :
    (Affirms reply ∧ ∃ body, readAck command reply = .ok body) ∨
    (AsksCalibration reply ∧ readAck command reply = .error .notCalibrated) ∨
    ¬Affirms reply ∧ ¬AsksCalibration reply ∧
      ∃ shown, readAck command reply = .error (.malformedReply command.word shown) := by
  unfold readAck
  dsimp only
  cases began : Text.after? "OK".toList (Text.trim reply.toList) with
  | some rest => exact .inl ⟨Text.after?_isSome_iff.mp (Option.isSome_of_eq_some began), _, rfl⟩
  | none =>
      have denied : ¬Affirms reply := fun affirms => by
        have there := Text.after?_isSome_iff.mpr affirms
        rw [began] at there
        exact Bool.false_ne_true there
      refine .inr ?_
      dsimp only
      split
      · next part => exact .inl ⟨⟨denied, Text.hasPart_iff.mp part⟩, rfl⟩
      · next part => exact .inr ⟨denied, fun asks => part (Text.hasPart_iff.mpr asks.2), _, rfl⟩

namespace Exchange

def Acknowledged (e : Exchange) : Prop := ∃ reply, e.result = .ok reply ∧ Affirms reply

def Uncalibrated (e : Exchange) : Prop := ∃ reply, e.result = .ok reply ∧ AsksCalibration reply

def Calibrates (e : Exchange) : Prop :=
  ∃ reply ranges, e.result = .ok reply ∧ readCalibration reply = .ok ranges

/-- The lock has done what it was told. -/
def Succeeds (e : Exchange) : Prop := if e.command = .calibrate then e.Calibrates else e.Acknowledged

theorem Uncalibrated.not_acknowledged {e : Exchange} (h : e.Uncalibrated) : ¬e.Acknowledged := by
  rintro ⟨reply, heard, affirms⟩
  obtain ⟨other, heard', asks⟩ := h
  obtain rfl : reply = other := Except.ok.inj (heard.symm.trans heard')
  exact asks.1 affirms

instance (e : Exchange) : Decidable e.Uncalibrated :=
  match h : e.result with
  | .ok reply => decidable_of_iff (AsksCalibration reply) (by simp [Uncalibrated, h])
  | .error _ => isFalse (by simp [Uncalibrated, h])

end Exchange

section Plan

variable (c : Command)

/-- The first exchange that drives the bolt, if the lock wants to be calibrated for it. -/
def SecondChance (before : List Exchange) (e : Exchange) : Prop :=
  e.command = c ∧ e.Uncalibrated ∧ ∀ x ∈ before, x.command ≠ c

/-- After this exchange there is no other one. -/
def Stops (before : List Exchange) (e : Exchange) : Prop := ¬e.Succeeds ∧ ¬SecondChance c before e

/-- The commands of a state change; some of them depend on what comes of the others. -/
def plan (unknown : Bool) (es : List Exchange) : List Command :=
  (if unknown then [.calibrate] else []) ++ [c] ++
    if (es.find? (·.command = c)).any (·.Uncalibrated) then [.calibrate, c] else []

variable {c} {a k : Exchange} {es : List Exchange}

theorem stops_calibrating (other : c ≠ .calibrate) (calibrates : k.command = .calibrate)
    (before : List Exchange) : Stops c before k ↔ ¬k.Calibrates := by
  have notFirst : ¬SecondChance c before k := fun first => other (first.1.symm.trans calibrates)
  rw [Stops, Exchange.Succeeds, if_pos calibrates, and_iff_left notFirst]

theorem stops_driving (other : c ≠ .calibrate) (drives : a.command = c) (before : List Exchange) :
    Stops c before a ↔ ¬a.Acknowledged ∧ ¬(a.Uncalibrated ∧ ∀ x ∈ before, x.command ≠ c) := by
  rw [Stops, Exchange.Succeeds, if_neg (drives ▸ other), SecondChance, and_iff_right drives]

/-- What does not drive the bolt uses up no chance. -/
theorem stops_cons (other : k.command ≠ c) : (fun before => Stops c (k :: before)) = Stops c := by
  funext before e
  simp [Stops, SecondChance, other]

theorem exists_plan (c : Command) (unknown : Bool) (es : List Exchange) :
    ∃ first later, plan c unknown es = first :: later := by
  cases unknown <;> simp [plan]

theorem plan_calibrated (first : k.command = .calibrate) (other : c ≠ .calibrate) :
    plan c true (k :: es) = k.command :: plan c false es := by
  have skipped : (k :: es).find? (·.command = c) = es.find? (·.command = c) :=
    List.find?_cons_of_neg (by simpa [first] using other.symm)
  simp [plan, skipped, first]

theorem plan_driven (result : Except DeviceError String) : plan c false (⟨c, result⟩ :: es) =
    c :: if Exchange.Uncalibrated ⟨c, result⟩ then [.calibrate, c] else [] := by
  simp [plan]

end Plan

/-- A plan is carried out, calibrations and all, and the lock has acknowledged the last command. -/
def Completes (plan : List Command) (es : List Exchange) : Prop :=
  es.map (·.command) = plan ∧ (∀ e ∈ es, e.command = .calibrate → e.Calibrates) ∧
    ∃ e, es.getLast? = some e ∧ e.Acknowledged

/-- Exchanges go through a plan. One that stops them is the last; without one, or a lack of time, they go
through all of it. -/
structure Walks (stops : List Exchange → Exchange → Prop) (plan : List Command) (late ok : Prop)
    (es : List Exchange) : Prop where
  planned : es.map (·.command) <+: plan
  cut : ∀ before e later, es = before ++ e :: later → stops before e → later = []
  ending : es.map (·.command) = plan ∨ (∃ before e, es = before ++ [e] ∧ stops before e) ∨ late
  ok_iff : ok ↔ Completes plan es

namespace Walks

variable {stops : List Exchange → Exchange → Prop} {plan : List Command} {late ok : Prop} {c : Command}
  {e : Exchange} {es : List Exchange}

theorem nothing (without : late) (failed : ¬ok) : Walks stops (c :: plan) late ok [] where
  planned := List.nil_prefix
  cut before e later split := by simp at split
  ending := .inr (.inr without)
  ok_iff := iff_of_false failed (by simp [Completes])

theorem cut_single (before : List Exchange) (x : Exchange) (later : List Exchange)
    (split : [e] = before ++ x :: later) : before = [] ∧ x = e ∧ later = [] := by
  cases before with
  | nil => simp_all
  | cons y before => simp at split

theorem stopped (stop : stops [] e) (failed : ¬ok) (broken : ¬e.Acknowledged ∨ plan ≠ []) :
    Walks stops (e.command :: plan) late ok [e] where
  planned := ⟨plan, rfl⟩
  cut before x later split _ := (cut_single before x later split).2.2
  ending := .inr (.inl ⟨[], e, rfl, stop⟩)
  ok_iff := iff_of_false failed fun ⟨all, _, last⟩ => by
    obtain refused | more := broken
    · exact refused (by simpa using last)
    · exact more (by simpa using all.symm)

theorem acknowledged (done : e.Acknowledged) (drives : e.command ≠ .calibrate) (succeeded : ok) :
    Walks stops [e.command] late ok [e] where
  planned := List.prefix_refl _
  cut before x later split _ := (cut_single before x later split).2.2
  ending := .inl rfl
  ok_iff := iff_of_true succeeded ⟨rfl, by simp [drives], e, rfl, done⟩

theorem cons (goes : ¬stops [] e) (fine : e.command = .calibrate → e.Calibrates) (more : plan ≠ [])
    (h : Walks (fun before => stops (e :: before)) plan late ok es) :
    Walks stops (e.command :: plan) late ok (e :: es) where
  planned := by
    rw [List.map_cons]
    exact List.cons_prefix_cons.mpr ⟨rfl, h.planned⟩
  cut before x later split stop := by
    cases before with
    | nil =>
        obtain ⟨rfl, rfl⟩ := List.cons.inj split
        exact absurd stop goes
    | cons y before =>
        obtain ⟨rfl, rfl⟩ := List.cons.inj split
        exact h.cut before x later rfl stop
  ending := by
    obtain all | ⟨before, x, rfl, stop⟩ | without := h.ending
    · exact .inl (by rw [List.map_cons, all])
    · exact .inr (.inl ⟨e :: before, x, rfl, stop⟩)
    · exact .inr (.inr without)
  ok_iff := by
    rw [h.ok_iff]
    unfold Completes
    rw [List.map_cons, List.cons.injEq, eq_self, true_and, List.forall_mem_cons]
    refine and_congr_right fun all => ?_
    have some' : es ≠ [] := by
      rintro rfl
      exact more all.symm
    rw [List.getLast?_cons_of_ne_nil some', and_iff_right fine]

end Walks

namespace Session

variable {P : Type} [Port P] {s : Session P} {c : Command} {deadline : Nat}

/-- What a command sent before a deadline can come to. -/
inductive Sends (s : Session P) (c : Command) (deadline : Nat) :
    List Exchange → Except DeviceError Unit × Session P → Prop
  | late {e : DeviceError} (without : s.hasTime deadline = false)
      (other : e ≠ .protocol .notCalibrated) : Sends s c deadline [] (.error e, s)
  | acknowledged {result : Except DeviceError String} {t : Session P}
      (done : Exchange.Acknowledged ⟨c, result⟩) : Sends s c deadline [⟨c, result⟩] (.ok (), t)
  | uncalibrated {result : Except DeviceError String} {t : Session P}
      (asks : Exchange.Uncalibrated ⟨c, result⟩) :
      Sends s c deadline [⟨c, result⟩] (.error (.protocol .notCalibrated), t)
  | fails {result : Except DeviceError String} {e : DeviceError} {t : Session P}
      (refused : ¬Exchange.Acknowledged ⟨c, result⟩) (calibrated : ¬Exchange.Uncalibrated ⟨c, result⟩)
      (other : e ≠ .protocol .notCalibrated) : Sends s c deadline [⟨c, result⟩] (.error e, t)

inductive Gauges (s : Session P) (deadline : Nat) :
    List Exchange → Except DeviceError Calibration × Session P → Prop
  | late {e : DeviceError} (without : s.hasTime deadline = false) : Gauges s deadline [] (.error e, s)
  | found {result : Except DeviceError String} {ranges : Calibration} {t : Session P}
      (done : Exchange.Calibrates ⟨.calibrate, result⟩) :
      Gauges s deadline [⟨.calibrate, result⟩] (.ok ranges, t)
  | fails {result : Except DeviceError String} {e : DeviceError} {t : Session P}
      (failed : ¬Exchange.Calibrates ⟨.calibrate, result⟩) :
      Gauges s deadline [⟨.calibrate, result⟩] (.error e, t)

theorem exchangeUntil_of_late (without : s.hasTime deadline = false) :
    s.exchangesUntil c deadline = [] ∧
      s.exchangeUntil c deadline = (.error (.timeout c.word s.timing.commandTimeout), s) := by
  have spent : deadline - Port.now s.link.port = 0 := by simpa [hasTime] using without
  simp [exchangesUntil, without, exchangeUntil, spent]

theorem sends (s : Session P) (c : Command) (deadline : Nat) :
    s.Sends c deadline (s.exchangesUntil c deadline) (s.commandUntil c deadline) := by
  cases time : s.hasTime deadline with
  | false =>
      obtain ⟨none', result⟩ := exchangeUntil_of_late (c := c) time
      rw [none', commandUntil, result]
      exact .late time nofun
  | true =>
      have untold : (s.exchangeUntil c deadline).1 ≠ .error (.protocol .notCalibrated) :=
        exchangeUntil_protocol
      rw [exchangesUntil, if_pos time, commandUntil]
      generalize s.exchangeUntil c deadline = exchanged at untold ⊢
      obtain ⟨result, t⟩ := exchanged
      cases result with
      | error e =>
          refine .fails ?_ ?_ fun same => untold (congrArg _ same)
          · rintro ⟨reply, heard, -⟩
            cases heard
          · rintro ⟨reply, heard, -⟩
            cases heard
      | ok reply =>
          obtain ⟨affirms, body, read⟩ | ⟨asks, read⟩ | ⟨denies, calibrated, shown, read⟩ :=
            readAck_cases c reply
          · simp only [read]
            exact .acknowledged ⟨reply, rfl, affirms⟩
          · simp only [read]
            exact .uncalibrated ⟨reply, rfl, asks⟩
          · simp only [read]
            refine .fails ?_ ?_ nofun
            · rintro ⟨_, ⟨⟩, affirms⟩
              exact denies affirms
            · rintro ⟨_, ⟨⟩, asks⟩
              exact calibrated asks

theorem gauges (s : Session P) (deadline : Nat) :
    s.Gauges deadline (s.exchangesUntil .calibrate deadline) (s.calibrateUntil deadline) := by
  cases time : s.hasTime deadline with
  | false =>
      obtain ⟨none', result⟩ := exchangeUntil_of_late (c := .calibrate) time
      rw [none', calibrateUntil, result]
      exact .late time
  | true =>
      rw [exchangesUntil, if_pos time, calibrateUntil]
      generalize s.exchangeUntil .calibrate deadline = exchanged
      obtain ⟨result, t⟩ := exchanged
      cases result with
      | error e =>
          refine .fails ?_
          rintro ⟨reply, ranges, heard, -⟩
          cases heard
      | ok reply =>
          dsimp only
          cases read : readCalibration reply with
          | error e =>
              refine .fails ?_
              rintro ⟨_, ranges, ⟨⟩, found⟩
              cases read.symm.trans found
          | ok ranges => exact .found ⟨reply, ranges, rfl, read⟩

/-- A calibration opens a plan. Only one that finds no ranges stops it. -/
theorem calibratesUntil_walks {stops : List Exchange → Exchange → Prop}
    {whole rest : List Exchange → List Command} {next : Session P → Except DeviceError Unit × Session P}
    {exchanges : Session P → List Exchange} (begins : ∃ first later, whole [] = first :: later)
    (goes : ∀ k es, k.command = .calibrate → whole (k :: es) = k.command :: rest es)
    (more : ∀ es, rest es ≠ []) (stopped : ∀ k, k.command = .calibrate → (stops [] k ↔ ¬k.Calibrates))
    (walks : ∀ k t, k.command = .calibrate →
      Walks (fun before => stops (k :: before)) (rest (exchanges t))
        ((next t).2.hasTime deadline = false) ((next t).1 = .ok ()) (exchanges t)) :
    let result : Except DeviceError Unit × Session P := match s.calibrateUntil deadline with
      | (.error e, t) => (.error e, t)
      | (.ok _, t) => next t
    Walks stops (whole (s.calibratesUntil deadline exchanges)) (result.2.hasTime deadline = false)
      (result.1 = .ok ()) (s.calibratesUntil deadline exchanges) := by
  intro result
  have gauges := s.gauges deadline
  unfold calibratesUntil
  revert result
  generalize s.exchangesUntil .calibrate deadline = first at gauges ⊢
  generalize s.calibrateUntil deadline = calibrated at gauges ⊢
  cases gauges with
  | late without =>
      obtain ⟨c, later, plan⟩ := begins
      simp only [List.append_nil, plan]
      exact .nothing without nofun
  | @found result ranges t done =>
      simp only [List.singleton_append]
      rw [goes _ _ rfl]
      exact .cons (fun stop => (stopped _ rfl).mp stop done) (fun _ => done) (more _) (walks _ t rfl)
  | fails failed =>
      simp only [List.append_nil]
      rw [goes _ _ rfl]
      exact .stopped ((stopped _ rfl).mpr failed) nofun (.inr (more _))

theorem commandUntil_walks {stops : List Exchange → Exchange → Prop} (drives : c ≠ .calibrate)
    (stopped : ∀ e, e.command = c → (stops [] e ↔ ¬e.Acknowledged)) (s : Session P) :
    Walks stops [c] ((s.commandUntil c deadline).2.hasTime deadline = false)
      ((s.commandUntil c deadline).1 = .ok ()) (s.exchangesUntil c deadline) := by
  have sends := s.sends c deadline
  generalize s.exchangesUntil c deadline = es at sends ⊢
  generalize s.commandUntil c deadline = sent at sends ⊢
  cases sends with
  | late without => exact .nothing without nofun
  | @acknowledged result _ done => exact .acknowledged done drives rfl
  | @uncalibrated result _ asks =>
      have refused : ¬Exchange.Acknowledged ⟨c, result⟩ := fun done => asks.not_acknowledged done
      exact .stopped ((stopped _ rfl).mpr refused) nofun (.inl refused)
  | @fails result _ _ refused =>
      exact .stopped ((stopped _ rfl).mpr refused) nofun (.inl refused)

theorem driveUntil_of_calibrated
    (calibrated : (s.commandUntil c deadline).1 ≠ .error (.protocol .notCalibrated)) :
    s.drivesUntil c deadline = s.exchangesUntil c deadline ∧
      s.driveUntil c deadline = s.commandUntil c deadline := by
  unfold drivesUntil driveUntil
  generalize s.commandUntil c deadline = sent at calibrated ⊢
  split
  · exact absurd rfl calibrated
  · next other =>
    refine ⟨List.append_nil _, ?_⟩
    split
    · exact absurd rfl (other _)
    · rfl

theorem driveUntil_walks (drives : c ≠ .calibrate) (s : Session P) :
    Walks (Stops c) (plan c false (s.drivesUntil c deadline))
      ((s.driveUntil c deadline).2.hasTime deadline = false) ((s.driveUntil c deadline).1 = .ok ())
      (s.drivesUntil c deadline) := by
  have sends := s.sends c deadline
  -- The second round is for a lock that has asked for a calibration; any other outcome is the last.
  by_cases asksFirst : (s.commandUntil c deadline).1 = .error (.protocol .notCalibrated)
  · unfold drivesUntil driveUntil
    generalize s.exchangesUntil c deadline = first at sends ⊢
    generalize s.commandUntil c deadline = sent at sends asksFirst ⊢
    cases sends with
    | late without other => exact absurd (Except.error.inj asksFirst) other
    | acknowledged done => cases asksFirst
    | fails refused calibrated other => exact absurd (Except.error.inj asksFirst) other
    | @uncalibrated result t asks =>
        have chance : SecondChance c [] ⟨c, result⟩ := ⟨rfl, asks, by simp⟩
        simp only [List.singleton_append]
        rw [plan_driven, if_pos asks]
        refine @Walks.cons _ _ _ _ ⟨c, result⟩ _ (fun stop => stop.2 chance)
          (fun calibrates => absurd calibrates drives) nofun ?_
        refine @calibratesUntil_walks _ _ t deadline _ (fun _ => [.calibrate, c]) (fun _ => [c]) _ _
          ⟨_, _, rfl⟩ ?_ nofun (fun k calibrates => stops_calibrating drives calibrates _) ?_
        · intro k es calibrates
          rw [calibrates]
        · intro k t calibrates
          refine commandUntil_walks drives (fun e again => ?_) t
          simp [stops_driving drives again]
  · obtain ⟨same, sent⟩ := driveUntil_of_calibrated asksFirst
    rw [same, sent]
    generalize s.exchangesUntil c deadline = es at sends ⊢
    generalize s.commandUntil c deadline = sent at sends asksFirst ⊢
    cases sends with
    | late without =>
        obtain ⟨first, later, planned⟩ := exists_plan c false []
        rw [planned]
        exact .nothing without nofun
    | @acknowledged result t done =>
        have settled : ¬Exchange.Uncalibrated ⟨c, result⟩ := fun asks => asks.not_acknowledged done
        rw [plan_driven, if_neg settled]
        exact .acknowledged done drives rfl
    | uncalibrated asks => exact absurd rfl asksFirst
    | @fails result e t refused calibrated other =>
        rw [plan_driven, if_neg calibrated]
        refine .stopped ?_ nofun (.inl refused)
        rw [stops_driving drives rfl]
        exact ⟨refused, fun chance => calibrated chance.1⟩

theorem driveTo_walks {desired : BoltState} (drives : Command.towards? desired = some c) (s : Session P) :
    Walks (Stops c) (plan c (s.status.bolt = .unknown) (s.drivesTo desired))
      ((s.driveTo desired).2.hasTime s.commandDeadline = false) ((s.driveTo desired).1 = .ok ())
      (s.drivesTo desired) := by
  have other : c ≠ .calibrate := by
    rintro rfl
    cases desired <;> cases drives
  unfold drivesTo driveTo
  rw [drives]
  dsimp only
  by_cases unknown : s.status.bolt = .unknown
  · rw [if_pos unknown, if_pos unknown, decide_eq_true unknown]
    refine @calibratesUntil_walks _ _ s s.commandDeadline _ (plan c true) (plan c false) _ _
      (exists_plan c true []) (fun k es calibrates => plan_calibrated calibrates other) (fun es => ?_)
      (fun k calibrates => stops_calibrating other calibrates []) (fun k t calibrates => ?_)
    · obtain ⟨first, later, planned⟩ := exists_plan c false es
      rw [planned]
      exact List.cons_ne_nil first later
    · rw [stops_cons (calibrates ▸ other.symm)]
      exact driveUntil_walks other t
  · rw [if_neg unknown, if_neg unknown, decide_eq_false unknown]
    exact driveUntil_walks other s

theorem setState_link (s : Session P) (desired : BoltState) :
    (s.setState desired).2.link = (s.driveTo desired).2.link := by
  unfold setState
  split
  · next drove => rw [drove]
  · next drove => rw [drove]; rfl

theorem setState_result (s : Session P) (desired : BoltState) :
    (s.setState desired).1 = (s.driveTo desired).1 := by
  unfold setState
  split
  · next drove => rw [drove]
  · next drove => rw [drove]

/-- A state change that is acknowledged is remembered, and nothing else of the status changes. -/
theorem setState_status (s : Session P) (desired : BoltState) : (s.setState desired).2.status =
    if (s.setState desired).1 = .ok () then { s.status with bolt := desired } else s.status := by
  have kept := (driveTo_advances desired s).status
  unfold setState
  split
  · next drove =>
    rw [drove] at kept
    simpa using kept
  · next drove =>
    rw [drove] at kept
    rw [if_pos rfl]
    exact congrArg (fun status : Status => { status with bolt := desired }) kept

section Writing

variable {wire : P → List UInt8} {l l' : Link P} {es : List Exchange}

/-- The bytes of the command lines of exchanges; one without a reply may have written less. -/
inductive Wrote : List Exchange → List UInt8 → Prop
  | nothing : Wrote [] []
  | exchange {e : Exchange} {es : List Exchange} {taken more : List UInt8}
      (part : taken <+: commandLine e.command.word)
      (whole : (∃ reply, e.result = .ok reply) → taken = commandLine e.command.word)
      (rest : Wrote es more) : Wrote (e :: es) (taken ++ more)

theorem wrote_of_dialogue (records : Records wire) (h : Dialogue l es l') :
    ∃ taken, Wrote es taken ∧ wire l'.port = wire l.port ++ taken := by
  induction h with
  | silent => exact ⟨[], .nothing, (List.append_nil _).symm⟩
  | @exchange l l₁ _ command result later timeout goes rest ih =>
      obtain ⟨more, wrote, grown⟩ := ih
      obtain ⟨taken, first, part, whole⟩ := records.exchange command.word timeout l
      rw [goes] at first whole
      refine ⟨taken ++ more, .exchange part whole wrote, ?_⟩
      rw [grown, first, List.append_assoc]

end Writing

/-- A change to a state follows its plan: a calibration if the state is unknown, the command, and once more
a calibration and the command if the lock says that it is not calibrated. It breaks off after the first
exchange that fails in another way, and it succeeds if the whole plan has been carried out. -/
theorem state_change_follows_plan (s : Session P) (desired : BoltState) :
    let es := s.drivesTo desired
    let after := s.setState desired
    Dialogue s.link es after.2.link ∧
    (∀ wire : P → List UInt8, Records wire →
      ∃ taken, Wrote es taken ∧ wire after.2.link.port = wire s.link.port ++ taken) ∧
    (desired = .unknown → (∃ e, after.1 = .error e) ∧ es = [] ∧ after.2 = s) ∧
    (∀ c, Command.towards? desired = some c →
      Walks (Stops c) (plan c (s.status.bolt = .unknown) es)
        (after.2.hasTime s.commandDeadline = false) (after.1 = .ok ()) es) ∧
    (after.1 = .ok () → after.2.status = { s.status with bolt := desired }) ∧
    ∀ e, after.1 = .error e → after.2.status = s.status := by
  intro es after
  have dialogue : Dialogue s.link es after.2.link :=
    (setState_link s desired).symm ▸ (driveTo_advances desired s).dialogue
  refine ⟨dialogue, fun wire records => wrote_of_dialogue records dialogue, ?_, fun c drives => ?_,
    fun ok => ?_, fun e failed => ?_⟩
  · rintro rfl
    exact ⟨⟨_, rfl⟩, rfl, rfl⟩
  · have walks := driveTo_walks drives s
    rw [← setState_result] at walks
    rwa [hasTime, ← setState_link] at walks
  · rw [setState_status, if_pos ok]
  · have broken : after.1 ≠ .ok () := by simp [failed]
    rw [setState_status, if_neg broken]

/-- A lock that has lost its calibration. -/
def forgetful : Bench := Bench.answerFrom [
  ("lock", [["ERROR: not calibrated"], ["OK: locked"]]),
  ("calibrate", [["OK: locked 10-40 unlocked 700-760"]])] {}

def forgetfulSession : Session Bench := { link := { port := forgetful }, status := { bolt := .unlocked } }

theorem forgetful_driven :
    (forgetfulSession.drivesTo .locked).map (·.command) = [.lock, .calibrate, .lock] ∧
      (forgetfulSession.setState .locked).2.status = { bolt := .locked } ∧
      Wrote (forgetfulSession.drivesTo .locked) (forgetfulSession.setState .locked).2.link.port.wire ∧
      (forgetfulSession.setState .unknown).2 = forgetfulSession := by
  obtain ⟨-, wrote, -, walks, remembers, -⟩ := state_change_follows_plan forgetfulSession .locked
  obtain ⟨-, -, unknown, -⟩ := state_change_follows_plan forgetfulSession .unknown
  have ok : (forgetfulSession.setState .locked).1 = .ok () := by decide +kernel
  have all := ((walks .lock rfl).ok_iff.mp ok).1
  have twice : plan .lock false (forgetfulSession.drivesTo .locked) = [.lock, .calibrate, .lock] := by
    decide +kernel
  obtain ⟨taken, lines, wire⟩ := wrote Bench.wire Bench.records
  refine ⟨all.trans twice, remembers ok, ?_, (unknown rfl).2.2⟩
  rw [wire]
  exact lines

end Session

end Lock

end DoorControl
