import CodeAudit.Fingerprint.Key
import CodeAudit.Report.Basic

/-!
# Tracking

What becomes of findings from one scan to the next.

The findings of a scan are compared by fingerprint with those of the report before. One
that was there before persists and keeps the time at which it was first seen; any other
is new. A finding of the report before that is gone is closed, and stays in the report
as closed. The first scan of a project has nothing to compare with.

A summary is then counted from the result.

## Main definitions

* `baseline`: The findings of a first scan.
* `track`: The findings of a later scan.
* `summarize`: Counts of findings.
-/

namespace CodeAudit

/-- The findings of a first scan: all are new. -/
def baseline (current : List Finding) (now : Int) : List Finding :=
  current.map fun f => f.seenSince .new now (.int now)

/-- The first finding with a fingerprint. -/
def findByFingerprint? (fs : List Finding) (fingerprint : String) : Option Finding :=
  fs.find? fun f => f.fingerprint == fingerprint

/-- The time a finding was first seen, or a given one if it is not known. -/
def firstSeen (f : Finding) (now : Int) : Value :=
  match f.firstDetected with
  | .null => .int now
  | v => v

/-- A finding of a scan, compared with the findings of the report before. -/
def trackOne (previous : List Finding) (now : Int) (f : Finding) : Finding :=
  match findByFingerprint? previous f.fingerprint with
  -- What was closed before counts too, so a finding that comes back persists.
  | some prior => f.seenSince .persistent now (firstSeen prior now)
  | none => f.seenSince .new now (.int now)

/-- The findings of the report before that are gone, closed. Each fingerprint is closed
    once; those in the list are not closed any more. -/
def closeGone (now : Int) : List String → List Finding → List Finding
  | _, [] => []
  | seen, prior :: rest =>
    -- Findings that were closed before are closed anew, since they are in the report still.
    if seen.contains prior.fingerprint then closeGone now seen rest
    else prior.withStatus .closed now :: closeGone now (prior.fingerprint :: seen) rest

/-- The findings of a later scan: those of the scan in their order, and behind them those
    of the report before that are gone. -/
def track (current previous : List Finding) (now : Int) : List Finding :=
  current.map (trackOne previous now) ++
    closeGone now (current.map Finding.fingerprint) previous

/-- Counts as integers. -/
def counts {α : Type} [DecidableEq α] (keys : List α) : Keyed α Int :=
  (Keyed.tally keys).map fun p => (p.1, (p.2 : Int))

/-- The number of findings in a state. -/
def countStatus (fs : List Finding) (s : Status) : Nat :=
  (fs.filterMap Finding.status).count s

/-- Counts of findings. Severities and categories are those of the active ones. -/
def summarize (fs : List Finding) : Summary :=
  let active := fs.filter Finding.isActive
  { total := active.length
    new := countStatus fs .new
    persistent := countStatus fs .persistent
    closed := countStatus fs .closed
    bySeverity := counts (active.map Finding.severity)
    byCategory := counts (active.map Finding.category)
    byStatus := counts (fs.filterMap Finding.status) }

end CodeAudit
