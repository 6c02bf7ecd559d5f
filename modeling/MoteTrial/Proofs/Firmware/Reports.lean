import MoteTrial.Proofs.Network.Sending
import MoteTrial.Proofs.Text.FirmwareLines

/-! # Reports of the firmware

What the firmware of motes reports, the lines in which it does, and what the scripts read in them. The
firmware puts words and numbers together, the scripts look for words in the whole line, for a word at its
start and for the number after it; `reports_read` says that they find what was meant.
-/

namespace MoteTrial

open SimM Simulation Message

/-- What the firmware of a mote reports. -/
inductive Report where
  /-- A mote has started. -/
  | started (id : Int)
  /-- A client has sent a third of its counters. -/
  | oneThird
  /-- A client has sent two thirds of its counters. -/
  | twoThirds
  /-- A client has sent all its counters. -/
  | done
  /-- A server has received a number. -/
  | received (n : Int)
  deriving DecidableEq, Repr

namespace Report

/-- The line of a report in the usual words. -/
def line : Report → String
  | .started id => Numeral.decimal id ++ " " ++ Config.standard.keywordStarted
  | .oneThird => Config.standard.keywordDeteriorate
  | .twoThirds => Config.standard.keywordImprove
  | .done => Config.standard.keywordDone
  | .received n => Config.standard.keywordReceived ++ " " ++ Numeral.decimal n

/-- What a report means to the link-fault script. -/
def kind : Report → Message.Kind
  | .started _ => .started
  | .oneThird => .deteriorate
  | .twoThirds => .improve
  | .done => .done
  | .received _ => .other

/-- The number that a report tells of a reception. -/
def counter? : Report → Option Int
  | .received n => some n
  | _ => none

/-- Whether the numbers in a report can be written. -/
def Writable : Report → Prop
  | .started n | .received n => Numeral.isWritable n = true
  | _ => True

end Report

/-- What a client reports as it comes to a milestone. -/
def Report.ofMilestone : Milestone → Report
  | .oneThird => .oneThird
  | .twoThirds => .twoThirds

/-- What a client reports when its timer expires. -/
def Client.report? (c : Client) : Option Report :=
  if c.exhausted then some .done else c.milestone?.map .ofMilestone

section Reading

/-- Whatever is reported is taken for what it is, and a number is read as it was written. -/
theorem Report.read (report : Report) (writable : report.Writable) :
    classify report.line = report.kind ∧
      parseReceived Config.standard report.line = .ok report.counter? := by
  cases report with
  | started id => exact ⟨classify_startLine id, parseReceived_startLine id⟩
  | oneThird => exact ⟨by decide +kernel, parseReceived_other (by decide)⟩
  | twoThirds => exact ⟨by decide +kernel, parseReceived_other (by decide)⟩
  | done => exact ⟨by decide +kernel, parseReceived_other (by decide)⟩
  | received n => exact ⟨classify_received n, parseReceived_received writable⟩

/-- What stands after the number and a blank does not matter. -/
theorem Report.read_append (report : Report) (writable : report.Writable) {n : Int}
    (told : report.counter? = some n) {blank : Char} (apart : Text.isBlank blank = true)
    (rest : List Char) :
    parseReceived Config.standard (report.line ++ String.ofList (blank :: rest)) = .ok (some n) := by
  cases report with
  | received m =>
    cases told
    have blankFirst : ∀ c ∈ (blank :: rest).head?, Text.isBlank c = true := by
      rintro c ⟨rfl⟩
      exact apart
    exact parseReceived_received_append writable blankFirst
  | _ => cases told

end Reading

section Writing

variable {κ μ : Type} {hear : Hearing κ μ} {w : World κ μ} {id : Int} {slot : Nat} {c : Client}

/-- The timer of a client expires: it reports, and unless it is done it sends its next counter. -/
theorem tick_reports (standard : w.config = Config.standard) (there : w.clientAt id slot = some c) :
    tick hear id slot w =
      (match c.report? with
        | none => sendNext hear id slot
        | some .done => do
          emit hear id Report.done.line
          modifyClient id slot Client.finish
        | some report => do
          emit hear id report.line
          sendNext hear id slot : SimM κ μ Unit) w := by
  rw [tick_client standard there, Client.report?, Client.progress?]
  cases c.exhausted with
  | true => rfl
  | false =>
    simp only [Bool.false_eq_true, ↓reduceIte]
    cases c.milestone? with
    | none => rfl
    | some milestone => cases milestone <;> rfl

/-- What the firmware logs at a boot, at the reception of a number and when the timer of a client
expires, are the lines of its reports; and in each of them the scripts read what it reports, also where
more is put after the number of a reception. -/
theorem reports_read (hear : Hearing κ μ) (standard : w.config = Config.standard) :
    (∀ id mote firmware, w.motes.find? id = some mote → mote.firmware? = some firmware →
      Numeral.isWritable id = true →
      boot hear id w =
        (do emit hear id (Report.started id).line
            if firmware.isClient then schedule 600000 (.tick id mote.currentSlot) : SimM κ μ Unit) w) ∧
    (∀ id mote received n, w.motes.find? id = some mote →
      mote.firmware? = some (.server received) → Numeral.isWritable n = true →
      receive hear id (.number n) w =
        emit hear id (Report.received n).line
          (w.putMote id (mote.set mote.currentSlot (.server (received + 1))))) ∧
    (∀ id slot c, w.clientAt id slot = some c →
      tick hear id slot w =
        (match c.report? with
          | none => sendNext hear id slot
          | some .done => do
            emit hear id Report.done.line
            modifyClient id slot Client.finish
          | some report => do
            emit hear id report.line
            sendNext hear id slot : SimM κ μ Unit) w) ∧
    ∀ report : Report, report.Writable →
      classify report.line = report.kind ∧
      parseReceived Config.standard report.line = .ok report.counter? ∧
      ∀ n, report.counter? = some n → ∀ blank rest, Text.isBlank blank = true →
        parseReceived Config.standard (report.line ++ String.ofList (blank :: rest)) = .ok (some n) := by
  refine ⟨?_, ?_, ?_, ?_⟩
  · intro id mote firmware present inUse writable
    exact boot_apply standard writable present inUse
  · intro id mote received n present inUse writable
    exact receive_server standard present inUse writable
  · intro id slot c there
    exact tick_reports standard there
  · intro report writable
    obtain ⟨kind, counter⟩ := report.read writable
    exact ⟨kind, counter, fun n told blank rest apart => report.read_append writable told apart rest⟩

/-- A server, and a client that has just sent a third of its counters. -/
def onTheWay : World Unit Unit :=
  let fresh : World Unit Unit := World.plain ()
  let client : Client := { route := ⟨1, none⟩, limit := 6, counter := 2 }
  { fresh with motes := (fresh.motes.put 1 ⟨#[.server 4]⟩).put 3 ⟨#[.client client]⟩ }

theorem reports_read_onTheWay :
    let unheard : Hearing Unit Unit := fun _ _ _ => pure ()
    onTheWay.config = Config.standard ∧ Numeral.isWritable 3 = true ∧
      Numeral.isWritable (-40) = true ∧
      boot unheard 3 onTheWay =
        (do emit unheard 3 "3 started"
            schedule 600000 (.tick 3 0) : SimM Unit Unit Unit) onTheWay ∧
      receive unheard 1 (.number (-40)) onTheWay =
        emit unheard 1 "received -40" (onTheWay.putMote 1 ⟨#[.server 5]⟩) ∧
      tick unheard 3 0 onTheWay =
        (do emit unheard 3 "1 third"
            sendNext unheard 3 0 : SimM Unit Unit Unit) onTheWay ∧
      classify "1 third" = .deteriorate ∧
      parseReceived Config.standard "3 started" = .ok none ∧
      parseReceived Config.standard "received -40\t1 third" = .ok (some (-40)) := by
  intro unheard
  obtain ⟨boots, receives, ticks, reads⟩ :=
    reports_read (w := onTheWay) unheard (rfl : onTheWay.config = Config.standard)
  have three : Numeral.isWritable 3 = true := by decide +kernel
  have forty : Numeral.isWritable (-40) = true := by decide +kernel
  obtain ⟨kind, -, -⟩ := reads .oneThird trivial
  obtain ⟨-, started, -⟩ := reads (.started 3) three
  obtain ⟨-, -, longer⟩ := reads (.received (-40)) forty
  exact ⟨rfl, three, forty, boots 3 _ _ rfl rfl three, receives 1 _ 4 (-40) rfl rfl forty,
    ticks 3 0 _ rfl, kind, started, longer (-40) rfl '\t' "1 third".toList rfl⟩

end Writing

end MoteTrial
