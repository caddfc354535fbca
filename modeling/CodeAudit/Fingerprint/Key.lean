import CodeAudit.Finding.Basic
import CodeAudit.Fingerprint.Sha256
import CodeAudit.Text.Utf8

/-!
# Fingerprints

The identity of a finding across scans.

A finding is recognised by its rule, its file and the text it matched. Spacing does not
count: every run of blanks in the matched text is one space. Nor does the place, so that
a finding that only moved keeps its identity. Several findings of one scan that agree in
all this are numbered, and the number is part of the identity.

The parts are joined with bars to a key, and the fingerprint is the digest of the key.

## Main definitions

* `fingerprintKey`: The key of a finding.
* `fingerprint`: The digest of a key.
* `Finding.likeness`: What two findings of one scan agree in if they are numbered.
* `assignFingerprints`: Findings of a scan with their fingerprints.
-/

namespace CodeAudit

/-- A path with forward slashes only. -/
def forwardSlashes (path : List Char) : List Char :=
  path.map fun c => if c == '\\' then '/' else c

/-- The key of a finding: its rule, its path, its matched text and its number. -/
def fingerprintKey (ruleId path matched : String) (ordinal : Int) : List Char :=
  ruleId.toList ++ '|' :: forwardSlashes path.toList ++ '|' :: squeeze matched.toList ++
    '|' :: (toString ordinal).toList

/-- The fingerprint of a finding. -/
def fingerprint (ruleId path matched : String) (ordinal : Int) : String :=
  Sha256.digest (Utf8.encode (fingerprintKey ruleId path matched ordinal))

namespace Finding

/-- What two findings of one scan agree in if they are numbered: the rule, the path, and
    the matched text up to spacing. -/
def likeness (f : Finding) : String × String × List Char :=
  (f.ruleId, f.path, squeeze f.matched.toList)

/-- The finding with the fingerprint of a number. -/
def withOrdinal (f : Finding) (ordinal : Nat) : Finding :=
  { f with fingerprint := CodeAudit.fingerprint f.ruleId f.path f.matched ordinal }

end Finding

/-- Gives findings their fingerprints, given what was like them before. -/
def assignAfter (before : List (String × String × List Char)) : List Finding → List Finding
  | [] => []
  -- The number of a finding is how many like it have been met, whatever stands between them.
  | f :: rest => f.withOrdinal (before.count f.likeness) :: assignAfter (f.likeness :: before) rest

/-- The findings of a scan with their fingerprints. The number of a finding is the number
    of findings before it that are like it. -/
def assignFingerprints (fs : List Finding) : List Finding :=
  assignAfter [] fs

end CodeAudit
