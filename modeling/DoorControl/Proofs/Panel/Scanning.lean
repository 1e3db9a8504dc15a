/- What the panel's buttons are taken for over a run of scans: what the reply to the last one says, and released
without such a reply. -/
import DoorControl.Panel.Scanner
import DoorControl.Proofs.Text.Words
import DoorControl.Serial.Script
import Mathlib.Data.String.Basic

namespace DoorControl.Panel

open Text

section Replies

variable {c : Char} {cs : List Char} {b : Bool} {flags : List Bool} {n : Nat} {reply : String} {k : Keys}

def digit (b : Bool) : Char := if b then '1' else '0'

theorem utf8Size_digit (b : Bool) : (digit b).utf8Size = 1 := by
  cases b <;> rfl

theorem utf8Len_digits (flags : List Bool) : String.utf8Len (flags.map digit) = flags.length := by
  induction flags with
  | nil => rfl
  | cons b flags ih => rw [List.map_cons, String.utf8Len_cons, ih, utf8Size_digit, List.length_cons]

theorem flag?_eq_some_iff : flag? c = some b ↔ c = digit b := by
  unfold flag? digit
  cases b <;> grind

/-- Characters of as many bytes as there are flags set all of these only if they are digits. -/
theorem setFlags_eq_some_iff (bytes : String.utf8Len cs = n) :
    setFlags (List.replicate n false) cs = some flags ↔ cs = flags.map digit := by
  induction cs generalizing n flags with
  | nil =>
      subst bytes
      simp [setFlags, eq_comm]
  | cons c cs ih =>
      have size := c.utf8Size_pos
      rw [String.utf8Len_cons] at bytes
      obtain ⟨n, rfl⟩ := Nat.exists_eq_succ_of_ne_zero (show n ≠ 0 by omega)
      rw [List.replicate_succ, setFlags]
      constructor
      · intro set
        split at set
        · next b read =>
          obtain rfl := flag?_eq_some_iff.mp read
          rw [utf8Size_digit] at bytes
          obtain ⟨flags', rest, rfl⟩ := Option.map_eq_some_iff.mp set
          rw [(ih (by omega)).mp rest]
          rfl
        · cases set
      · intro digits
        obtain ⟨b, flags', rfl, rfl, rfl⟩ := List.map_eq_cons_iff.mp digits.symm
        rw [utf8Size_digit] at bytes
        have rest : setFlags (List.replicate n false) (flags'.map digit) = some flags' :=
          (ih (by omega)).mpr rfl
        rw [flag?_eq_some_iff.mpr rfl]
        dsimp only
        rw [rest]
        rfl

theorem toList_renderScan (k : Keys) :
    (renderScan k).toList = scanCommand.toList ++ [k.green, k.white, k.red, k.leave].map digit := by
  have bit (b : Bool) : (Keys.bit b).toList = [digit b] := by
    cases b <;> rfl
  simp [renderScan, scanCommand, bit]

/-- The replies that are read as a sample: blanks apart, those that report it. -/
theorem readScan_eq_ok_iff : readScan reply = .ok k ↔ trim reply.toList = (renderScan k).toList := by
  rw [toList_renderScan]
  unfold readScan
  constructor
  · intro read
    dsimp only at read
    split at read
    · cases read
    · next digits found =>
      split at read
      · next bytes =>
        rw [String.utf8ByteSize_ofList] at bytes
        split at read
        · next green white red leave set =>
          have digits' := (setFlags_eq_some_iff bytes).mp set
          cases read
          rw [after?_eq_some_iff.mp found, digits']
        · cases read
      · cases read
  · intro reports
    have bytes : String.utf8Len ([k.green, k.white, k.red, k.leave].map digit) = 4 := utf8Len_digits _
    have set : setFlags [false, false, false, false] ([k.green, k.white, k.red, k.leave].map digit) =
        some [k.green, k.white, k.red, k.leave] := (setFlags_eq_some_iff bytes).mpr rfl
    dsimp only
    rw [after?_eq_some_iff.mpr reports]
    dsimp only
    rw [if_pos ((String.utf8ByteSize_ofList _).trans bytes), set]

end Replies

/-- What a scan has met, what it comes to, and the buttons that are held to be down after it. -/
structure Scan where
  reply : Except DeviceError String
  result : Except DeviceError Keys
  keys : Keys

namespace Scan

/-- The scan has got a reply that, blanks apart, reports the sample. -/
def Reports (scan : Scan) (k : Keys) : Prop :=
  ∃ line, scan.reply = .ok line ∧ trim line.toList = (renderScan k).toList

/-- No button is down that the reply does not report. -/
structure Faithful (scan : Scan) : Prop where
  succeeds : ∀ k, scan.result = .ok k ↔ scan.Reports k
  held : ∀ k, scan.Reports k → scan.keys = k
  released : (¬∃ k, scan.Reports k) → scan.keys = {}

end Scan

namespace Scanner

variable {P : Type} [Serial.Port P]

def scanned (s : Scanner P) : Scan where
  reply := (s.link.exchange scanCommand s.timing.replyTimeout).1
  result := s.scan.1
  keys := s.scan.2.keys

/-- The scanner at the port as all others have left it. -/
def facing (s : Scanner P) (port : P) : Scanner P := { s with link := { s.link with port } }

/-- Scans one after the other, each of which may meet the port in any condition. -/
def scans (s : Scanner P) : List P → List Scan × Scanner P
  | [] => ([], s)
  | port :: ports =>
      let (later, last) := scans (s.facing port).scan.2 ports
      ((s.facing port).scanned :: later, last)

variable (s : Scanner P)

theorem scan_ok_iff (k : Keys) : s.scan.1 = .ok k ↔ s.scanned.Reports k := by
  unfold Scan.Reports scanned
  simp only [← readScan_eq_ok_iff]
  unfold scan
  cases exchanged : s.link.exchange scanCommand s.timing.replyTimeout with
  | mk reply link =>
      cases reply with
      | error e => simp
      | ok line => cases read : readScan line <;> simp [read]

theorem scan_keys : s.scan.2.keys = s.scan.1.toOption.getD {} := by
  unfold scan
  split
  · rfl
  · split <;> rfl

theorem scanned_faithful : s.scanned.Faithful where
  succeeds := s.scan_ok_iff
  held k reports := by
    have ok := (s.scan_ok_iff k).mpr reports
    rw [scanned, scan_keys, ok]
    rfl
  released silent := by
    rw [scanned, scan_keys]
    cases result : s.scan.1 with
    | error e => rfl
    | ok k => exact absurd ⟨k, (s.scan_ok_iff k).mp result⟩ silent

/-- After each scan the buttons are those of the sample that its reply reports; without such a reply all are released,
and the scan fails. A reply is read as a sample only if it is `S` and a digit for each button. -/
theorem keys_are_those_reported (ports : List P) :
    (∀ scan ∈ (s.scans ports).1, scan.Faithful) ∧
    (s.scans ports).2.keys = ((s.scans ports).1.getLast?.map Scan.keys).getD s.keys ∧
    ∀ reply k, readScan reply = .ok k ↔ trim reply.toList = (renderScan k).toList := by
  refine ⟨?_, ?_, fun reply k => readScan_eq_ok_iff⟩
  · induction ports generalizing s with
    | nil => exact List.forall_mem_nil _
    | cons port ports ih =>
        refine List.forall_mem_cons.mpr ⟨?_, ?_⟩
        · exact (s.facing port).scanned_faithful
        · exact ih (s.facing port).scan.2
  · induction ports generalizing s with
    | nil => rfl
    | cons port ports ih =>
        rw [scans]
        dsimp only
        rw [ih, List.getLast?_cons]
        cases ((s.facing port).scan.2.scans ports).1.getLast? <;> rfl

def answering (reply : String) : Serial.ScriptedPort where
  incoming := [.fault Serial.ScriptedPort.silence, .data (Text.Utf8.encode reply ++ [Serial.newline])]

/-- The green button is held down, and then the panel's reply is garbage. -/
theorem green_released :
    let s : Scanner Serial.ScriptedPort := { link := { port := {} } }
    ∃ first second, (s.scans [answering "S1000", answering "S10x0"]).1 = [first, second] ∧
      first.keys = { green := true } ∧ second.keys = {} := by
  intro s
  obtain ⟨faithful, -⟩ := s.keys_are_those_reported [answering "S1000", answering "S10x0"]
  obtain ⟨first, second, run, pressed, garbage⟩ : ∃ first second,
      (s.scans [answering "S1000", answering "S10x0"]).1 = [first, second] ∧
        first.reply = .ok "S1000" ∧ second.reply = .ok "S10x0" := ⟨_, _, rfl, by rfl, by rfl⟩
  rw [run] at faithful
  refine ⟨first, second, run, ?_, ?_⟩
  · refine (faithful first (by simp)).held _ ⟨"S1000", pressed, by decide⟩
  · refine (faithful second (by simp)).released ?_
    rintro ⟨k, line, got, reports⟩
    obtain rfl : "S10x0" = line := Except.ok.inj (garbage.symm.trans got)
    cases readScan_eq_ok_iff.mpr reports

end Scanner

end DoorControl.Panel
