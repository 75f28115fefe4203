import ExprFront.Scan.Code

/-!
# Running a scan

`ScanM.step` is one step: after a fault the scan has stopped and every further step
reports the end with length zero; otherwise the step is taken in text or code mode, and a fault
stops the scan.

`Scanner.run` takes steps until the end is reported, that end included. Every step before it
either covers at least one byte or stops the scan, so the measure `Scanner.progress` falls with
each step; `run` checks this as it goes, which makes it total without a bound on the number of
steps.
-/

namespace ExprFront

namespace ScanM

/-- A step in the mode the scanner is in: text mode in the text of a literal or of a format
spec, code mode elsewhere. -/
def modeStep : ScanM RawToken := do
  match (← get).textDelimiter? with
  | some d => textStep d
  | none => codeStep

/-- One step of the scan. -/
def step : ScanM RawToken := do
  let sc ← get
  if sc.stopped then pure ⟨.eof, 0⟩
  else
    let tok ← modeStep
    if tok.tag.isFault then modify fun sc => { sc with stopped := true }
    pure tok

end ScanM

namespace Scanner

/-- What is left to scan: twice the bytes not yet read, plus one until the scan stops. -/
def progress (sc : Scanner) : Nat :=
  2 * (sc.src.size + 1 - sc.pos) + (if sc.stopped then 0 else 1)

/-- The steps from here up to and including the end, and the scanner after them. -/
def run (sc : Scanner) : List RawToken × Scanner :=
  let (tok, next) := ScanM.step.run sc
  if tok.tag == .eof then ([tok], next)
  else if next.progress < sc.progress then
    let (rest, last) := next.run
    (tok :: rest, last)
  else ([tok], next)
termination_by sc.progress

end Scanner

/-- The whole scan of a text: every piece up to and including the end, and the scanner after
it. -/
def scanText (src : Source) (limits : ScanLimits) : List RawToken × Scanner :=
  (Scanner.start src limits).run

end ExprFront
