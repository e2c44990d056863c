import OvfInspect.Storage.Failure
import OvfInspect.Value

/-!
# Reports of the system

The system reports a failure as a row of values: a code and a reason, then a place, and as the fifth
a second place. Such a report can be made from any values. One that is too short or too long for
that is only shown as the row it is.
-/

namespace OvfInspect.Storage

structure Report where
  values : List Value
  /-- Whether the row has a code and a reason. -/
  isCoded : Bool := false
  code : Value := .absent
  reason : Value := .absent
  place : Value := .absent
  second : Value := .absent
  deriving Repr

namespace Report

/-- The report that a row of values makes. A second place counts only beside a first. -/
def ofValues (values : List Value) : Report :=
  match values with
  | [code, reason] => { values, isCoded := true, code, reason }
  | [code, reason, place] => { values, isCoded := true, code, reason, place }
  | [code, reason, place, _] => { values, isCoded := true, code, reason, place }
  | [code, reason, place, _, second] =>
    { values, isCoded := true, code, reason, place
      second := if place.isAbsent then .absent else second }
  | _ => { values }

def waitingCodes : List Int := [11, 114, 115]

/-- The report of the system itself that a row of values makes. When a transfer would have to wait
the number of bytes that were transferred stands in the place, and has to be whole. -/
def ofSystemValues? (values : List Value) : Option Report :=
  let report := ofValues values
  if report.code.whole?.any fun code => code ∈ waitingCodes then
    match report.place with
    | .real _ => none
    | place => if place.whole?.isSome then some { report with place := .absent, second := .absent }
      else some report
  else some report

def notFound (wanted place : Value) : Report :=
  ofValues [.number Failure.noEntryCode, .text (Failure.notFoundReason wanted.plain), place]

def message (report : Report) : String :=
  let places := [report.place, report.second].filter fun place => !place.isAbsent
  if report.isCoded then
    Failure.systemText report.code.plain report.reason.plain (places.map Value.quoted)
  else Value.plainRow report.values

def summary (report : Report) : String :=
  if report.code.isAbsent || report.place.isAbsent then report.message
  else report.place.plain ++ ": " ++ report.reason.plain

end Report

end OvfInspect.Storage
