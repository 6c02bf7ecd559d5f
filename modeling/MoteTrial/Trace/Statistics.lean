import MoteTrial.Trace.Basic

/-! # Loss statistics

Numbers about the reception rows of a trace: how many counters came in, how many were lost, the rate
of loss, and the mean and the greatest gap. Gaps have to fit into 64 bits.
-/

namespace MoteTrial

/-- Numbers about the received counters of a run. -/
structure LossStatistics where
  received : Nat
  lost : Int
  lossRate : Binary64
  meanGap : Binary64
  maxGap : Int
  deriving DecidableEq, Repr, Inhabited

namespace LossStatistics

/-- The statistics of a run without receptions. -/
def none : LossStatistics := ⟨0, 0, Binary64.zero, Binary64.zero, 0⟩

/-- Whether an integer fits into a signed word of 64 bits. -/
def fitsWord (n : Int) : Bool := -(2 ^ 63) ≤ n && n < 2 ^ 63

/-- The mean of integers: each becomes a number, the numbers are added in order, the sum is
divided. -/
def mean (gaps : List Int) : Binary64 :=
  (gaps.foldl (fun sum gap => sum.add (Binary64.ofInt gap)) Binary64.zero).divNat gaps.length

/-- The statistics of reception rows. -/
def ofRows (rows : List ReceptionRow) : Except Failure LossStatistics :=
  match rows.getLast? with
  | Option.none => .ok none
  | some final =>
    let gaps := rows.map (·.gap)
    let received := rows.length
    if !gaps.all fitsWord then .error .beyondWord
    else if received + final.lost = 0 then .error .zeroDivision
    else .ok {
      received
      lost := final.lost
      lossRate := Binary64.ofRatio final.lost (received + final.lost)
      meanGap := mean gaps
      maxGap := gaps.foldl max (gaps.headD 0) }

end LossStatistics

/-- The loss statistics of a trace. -/
def Trace.statistics (t : Trace) : Except Failure LossStatistics :=
  LossStatistics.ofRows t.receptionRows.toList

end MoteTrial
