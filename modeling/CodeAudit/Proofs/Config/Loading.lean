import CodeAudit.CommandLine.Run
import CodeAudit.Proofs.Operation
import CodeAudit.Proofs.Sorting
import CodeAudit.Proofs.Text.Stream

/-!
# Loading Configurations

What the bytes of a configuration file come to.

A configuration file is read, taken for a document, and laid over the standard configuration, and
each of these can fail. Most failures are mistakes of the configuration, which the commands show and
end with. Three are not, and nothing between the file and the end of the program turns them into
mistakes: the bytes are no text, a scalar of the document does not spell what it is marked as, and a
key that means nothing is no text, so that it cannot be told. `Stops` says which bytes do this, and
`ofBytes_error` that no others do.

Bytes that are no text are met only if the document in front of them is read so far. Its first two
parts are asked for before anything else, so in a file with fewer bytes than these have characters
they always are.

Keys that mean nothing are told in their order and have no other effect: without them the document
gives the same configuration.

What a command does is then told for all bytes at once. It goes on with the configuration, it shows
the mistake and ends with the code for one, or the program ends with one of the three failures. The
code is that for a mistake only if the console prints the line that shows it, which quotes what it is
about.

## Main definitions

* `Config.ofValue`, `Config.ofBytes`: The configuration that a document or bytes come to, with the
  keys that mean nothing.
* `Config.Stops`: Bytes end the program.
* `scanWith`, `rulesWith`: What the commands do with a configuration.
* `settle`: What a command does about a configuration file.
* `exitOn`: The exit code of a command on a console.

## Theorems

* `Config.run_load`: The configuration of a file follows from its bytes.
* `Config.ofBytes_error`, `Config.ofBytes_of_stops`: What can be wrong with bytes.
* `Config.stops_of_short`: A file that is no text and is short.
* `Config.ofValue_mapping`: Keys that mean nothing are told and otherwise ignored.
* `run_runScan`, `run_runRules`: What the commands do about a configuration file.
* `exitOn_settle_config`, `exitOn_settle_of_stops`: The exit code where a configuration file is
  wrong.
* `loading_config`: A configuration file with any bytes.
-/

namespace CodeAudit

/-! ## Keys -/

theorem Value.sameKey_text (v : Value) (s : String) :
    v.sameKey (.text s) = true ↔ v = .text s := by
  cases v with
  | text t =>
      rw [sameKey, beq_iff_eq, text.injEq]
  | _ => exact ⟨(fun h => nomatch h), fun h => nomatch h⟩

namespace Config

/-- A key of a document means something. -/
def isKnown (key : Value) : Bool :=
  (keys.map Key.name).any fun k => key.sameKey (.text k)

theorem isKnown_iff (key : Value) :
    isKnown key = true ↔ ∃ k ∈ keys.map Key.name, key = .text k := by
  rw [isKnown, List.any_eq_true]
  simp only [Value.sameKey_text]

/-- Values are texts, or one of them is no text. -/
theorem cases_of_textsOf (vs : List Value) :
    (∃ texts, textsOf vs = some texts ∧ vs = texts.map .text) ∨
      (textsOf vs = none ∧ ∃ v ∈ vs, ∀ s, v ≠ .text s) := by
  induction vs with
  | nil => exact Or.inl ⟨[], rfl, rfl⟩
  | cons v rest ih =>
      cases v with
      | text s =>
          rcases ih with ⟨texts, htexts, hrest⟩ | ⟨hnone, v, hv, hodd⟩
          · refine Or.inl ⟨s :: texts, by rw [textsOf, htexts]; rfl, ?_⟩
            rw [hrest, List.map_cons]
          · exact Or.inr ⟨by rw [textsOf, hnone]; rfl, v, List.mem_cons_of_mem _ hv, hodd⟩
      -- One value that is no text spoils the list, whatever stands behind it.
      | _ =>
          exact Or.inr ⟨rfl, _, List.mem_cons_self, fun _ h => nomatch h⟩

theorem mem_withoutRepetitions (s : String) (texts : List String) :
    s ∈ withoutRepetitions texts ↔ s ∈ texts := by
  induction texts with
  | nil => exact Iff.rfl
  | cons t rest ih =>
      rw [withoutRepetitions, List.mem_cons, List.mem_cons, List.mem_filter, ih, bne_iff_ne]
      constructor
      · rintro (h | ⟨h, _⟩)
        · exact Or.inl h
        · exact Or.inr h
      · rintro (h | h)
        · exact Or.inl h
        · by_cases hs : s = t
          · exact Or.inl hs
          · exact Or.inr ⟨h, hs⟩

theorem unknownKeys_mapping (entries : Value.Entries) :
    unknownKeys (.mapping entries) =
      match textsOf ((entries.map Prod.fst).filter fun v => !isKnown v) with
      | some texts => .ok (sortTexts (withoutRepetitions texts))
      | none => .error .wrongKind := rfl

/-- The keys of a mapping that mean nothing are told, unless one of them is no text. -/
theorem cases_of_unknownKeys (entries : Value.Entries) :
    (∃ unknown, unknownKeys (.mapping entries) = .ok unknown ∧ unknown.Pairwise (· ≤ ·) ∧
      ∀ k, k ∈ unknown ↔ (∃ v, (.text k, v) ∈ entries) ∧ k ∉ keys.map Key.name) ∨
    (unknownKeys (.mapping entries) = .error .wrongKind ∧
      ∃ e ∈ entries, ∀ s, e.1 ≠ .text s) := by
  rw [unknownKeys_mapping]
  -- The strange keys are sorted only if all of them are texts. So the cases are those of the
  -- strange keys, not of all keys.
  rcases cases_of_textsOf ((entries.map Prod.fst).filter fun v => !isKnown v) with
    ⟨texts, htexts, hstrange⟩ | ⟨hnone, v, hv, hodd⟩
  · refine Or.inl ⟨_, by rw [htexts], pairwise_sortTexts _, fun k => ?_⟩
    have hmem : k ∈ texts ↔ Value.text k ∈ texts.map Value.text :=
      (List.mem_map_of_injective fun a b h => Value.text.inj h).symm
    rw [sortTexts, (perm_sortBy _ _).mem_iff, mem_withoutRepetitions, hmem, ← hstrange,
      List.mem_filter, Bool.not_eq_true', ← Bool.not_eq_true, isKnown_iff, List.mem_map]
    refine and_congr ⟨?_, ?_⟩ (not_congr ⟨?_, ?_⟩)
    · rintro ⟨⟨key, v⟩, he, rfl⟩
      exact ⟨v, he⟩
    · rintro ⟨v, he⟩
      exact ⟨(.text k, v), he, rfl⟩
    · rintro ⟨k', hk', heq⟩
      exact Value.text.inj heq ▸ hk'
    · exact fun hk => ⟨k, hk, rfl⟩
  · rw [List.mem_filter] at hv
    rcases List.mem_map.mp hv.1 with ⟨e, he, rfl⟩
    exact Or.inr ⟨by rw [hnone], e, he, hodd⟩

/-- A key that is no text cannot be told. -/
theorem unknownKeys_of_odd (entries : Value.Entries) (e : Value × Value) (he : e ∈ entries)
    (hodd : ∀ s, e.1 ≠ .text s) : unknownKeys (.mapping entries) = .error .wrongKind := by
  -- No key that means something is odd, so the odd one is among the strange ones that are
  -- sorted.
  have hstrange : e.1 ∈ (entries.map Prod.fst).filter fun v => !isKnown v := by
    rw [List.mem_filter, Bool.not_eq_true', ← Bool.not_eq_true, isKnown_iff]
    exact ⟨List.mem_map_of_mem he, fun ⟨k, _, hk⟩ => hodd k hk⟩
  rw [unknownKeys_mapping]
  rcases cases_of_textsOf ((entries.map Prod.fst).filter fun v => !isKnown v) with
    ⟨texts, _, htexts⟩ | ⟨hnone, _⟩
  · rw [htexts] at hstrange
    rcases List.mem_map.mp hstrange with ⟨s, _, hs⟩
    exact absurd hs.symm (hodd s)
  · rw [hnone]

/-! ## Documents -/

/-- The keys of a mapping stop at a mistake of the configuration, if they stop. -/
theorem error_of_assignKeys (entries : Value.Entries) (ks : List Key) :
    ∀ (c changed : Config) (e : OverlayError),
      assignKeys (.mapping entries) ks c = (changed, .error e) → ∃ why, e = .config why := by
  induction ks with
  | nil => exact fun _ _ _ h => nomatch (Prod.mk.inj h).2
  | cons k rest ih =>
      intro c changed e h
      -- A mapping has every key asked for, or not; only the reading of a value can fail.
      rw [assignKeys] at h
      split at h
      · rename_i f hkey
        exact nomatch hkey
      · exact ih c changed e h
      · split at h
        · exact ih _ changed e h
        · rename_i why _
          exact ⟨why, (Except.error.inj (Prod.mk.inj h).2).symm⟩

theorem find?_filter_known (k : String) (hk : k ∈ keys.map Key.name) (entries : Value.Entries) :
    Value.get? k (entries.filter fun e => isKnown e.1) = Value.get? k entries := by
  unfold Value.get?
  induction entries with
  | nil => rfl
  | cons e rest ih =>
      rcases e with ⟨key, v⟩
      -- The two searches meet the same entries up to the one searched for, which is known and
      -- stays.
      rw [List.filter_cons, Value.find?_cons]
      by_cases hsame : key.sameKey (.text k) = true
      · have hknown : isKnown key = true :=
          (isKnown_iff key).mpr ⟨k, hk, (key.sameKey_text k).mp hsame⟩
        rw [if_pos hknown, Value.find?_cons]
        simp only [if_pos hsame]
      · rw [if_neg hsame, ← ih]
        by_cases hknown : isKnown key = true
        · rw [if_pos hknown, Value.find?_cons, if_neg hsame]
        · rw [if_neg hknown]

/-- Only the keys that mean something take effect. -/
theorem assignKeys_filter_known (entries : Value.Entries) (ks : List Key)
    (hks : ∀ k ∈ ks, k ∈ keys) : ∀ c,
      assignKeys (.mapping (entries.filter fun e => isKnown e.1)) ks c =
        assignKeys (.mapping entries) ks c := by
  induction ks with
  | nil => exact fun _ => rfl
  | cons k rest ih =>
      intro c
      rw [List.forall_mem_cons] at hks
      have hkey : keyOf k.name (.mapping (entries.filter fun e => isKnown e.1)) =
          keyOf k.name (.mapping entries) :=
        congrArg Except.ok (find?_filter_known k.name (List.mem_map_of_mem hks.1) entries)
      simp only [assignKeys, hkey, ih hks.2]

/-- A mapping without the keys that mean nothing is laid over in the same way. -/
theorem overlay_filter_known (c changed : Config) (entries : Value.Entries)
    (unknown : List String) (h : c.overlay (.mapping entries) = (changed, .ok unknown)) :
    c.overlay (.mapping (entries.filter fun e => isKnown e.1)) = (changed, .ok []) := by
  -- What is left after the filter has nothing strange in it.
  have hnone : unknownKeys (.mapping (entries.filter fun e => isKnown e.1)) = .ok [] := by
    have hfilter : ((entries.filter fun e => isKnown e.1).map Prod.fst).filter
        (fun v => !isKnown v) = [] := by
      rw [List.filter_eq_nil_iff]
      intro v hv
      rcases List.mem_map.mp hv with ⟨e, he, rfl⟩
      rw [(List.mem_filter.mp he).2]
      exact Bool.false_ne_true
    rw [unknownKeys_mapping, hfilter]
    rfl
  unfold overlay at h ⊢
  rw [assignKeys_filter_known entries keys fun _ hk => hk, hnone]
  cases hassign : assignKeys (.mapping entries) keys c with
  | mk assigned result =>
      rw [hassign] at h
      cases result with
      | error e => exact nomatch (Prod.mk.inj h).2
      | ok _ =>
          dsimp only at h ⊢
          split at h
          · rw [(Prod.mk.inj h).1]
          · exact nomatch (Prod.mk.inj h).2

/-- The configuration that a document of a file comes to, with the keys that mean nothing. -/
def ofValue (path : String) (v : Value) : Except Failure (Config × List String) :=
  match v.opened with
  | .null => .ok (standard, [])
  | .mapping entries =>
    match standard.overlay (.mapping entries) with
    | (_, .error e) => .error (.ofOverlay e)
    | (c, .ok unknown) => .ok (c, unknown)
  | v => .error (.config (.notAMapping v.kindName path))

/-- A mapping of which all keys are texts comes to a configuration, or to a mistake of one. -/
theorem ofValue_error (path : String) (v : Value) (e : Failure) (h : ofValue path v = .error e) :
    (∃ why, e = .config why) ∨ e = .fault .wrongKind ∧ ∃ entries key c,
      v.opened = .mapping entries ∧ assignKeys (.mapping entries) keys standard = (c, .ok ()) ∧
        key ∈ entries ∧ ∀ s, key.1 ≠ .text s := by
  rw [ofValue] at h
  cases hv : v.opened with
  | null =>
      rw [hv] at h
      exact nomatch h
  | mapping entries =>
      simp only [hv, overlay] at h
      rcases hassign : assignKeys (.mapping entries) keys standard with ⟨c, result⟩
      rw [hassign] at h
      cases result with
      | error e' =>
          -- The keys that mean something are assigned before the strange ones are told, so an
          -- error of the assignment comes first.
          rcases error_of_assignKeys entries keys standard c e' hassign with ⟨why, he'⟩
          exact Or.inl ⟨why, by rw [← Except.error.inj h, he']; rfl⟩
      | ok _ =>
          rcases cases_of_unknownKeys entries with
            ⟨unknown, hunknown, _⟩ | ⟨hunknown, key, hkey, hodd⟩
          · simp only [hunknown] at h
            exact nomatch h
          · simp only [hunknown] at h
            exact Or.inr ⟨(Except.error.inj h).symm, entries, key, c, rfl, hassign, hkey, hodd⟩
  | _ =>
      rw [hv] at h
      exact Or.inl ⟨_, (Except.error.inj h).symm⟩

/-- The keys of a mapping that mean nothing are told in their order, and make no difference to the
    configuration. -/
theorem ofValue_mapping (path : String) (v : Value) (entries : Value.Entries) (c : Config)
    (unknown : List String) (hv : v.opened = .mapping entries)
    (h : ofValue path v = .ok (c, unknown)) :
    unknown.Pairwise (· ≤ ·) ∧
      (∀ k, k ∈ unknown ↔ (∃ v, (.text k, v) ∈ entries) ∧ k ∉ keys.map Key.name) ∧
      ofValue path (.mapping (entries.filter fun e => isKnown e.1)) = .ok (c, []) := by
  rw [ofValue, hv] at h
  dsimp only at h
  rcases hoverlay : standard.overlay (.mapping entries) with ⟨changed, result⟩
  rw [hoverlay] at h
  cases result with
  | error e => exact nomatch h
  | ok told =>
      simp only [Except.ok.injEq, Prod.mk.injEq] at h
      rw [h.1, h.2] at hoverlay
      have hknown := overlay_filter_known standard c entries unknown hoverlay
      rw [overlay] at hoverlay
      rcases hassign : assignKeys (.mapping entries) keys standard with ⟨assigned, result⟩
      rw [hassign] at hoverlay
      cases result with
      | error e => exact nomatch (Prod.mk.inj hoverlay).2
      | ok _ =>
          -- The assignment went through, so that only the strange keys can stop it.
          rcases cases_of_unknownKeys entries with
            ⟨told', hunknown, hsorted, hmem⟩ | ⟨hunknown, _⟩
          · simp only [hunknown, Prod.mk.injEq, Except.ok.injEq] at hoverlay
            rw [hoverlay.2] at hsorted hmem
            exact ⟨hsorted, hmem, by rw [ofValue, Value.opened_mapping]; simp only [hknown]⟩
          · simp only [hunknown] at hoverlay
            exact nomatch (Prod.mk.inj hoverlay).2

/-! ## Bytes -/

/-- The configuration that the bytes of a file come to, with the keys that mean nothing. -/
def ofBytes (path : String) (bytes : List UInt8) : Except Failure (Config × List String) :=
  valueOf path bytes >>= ofValue path

/-- Bytes end the program, with a failure that is no mistake of the configuration. -/
inductive Stops (path : String) (bytes : List UInt8) : Failure → Prop
  /-- They are no text, and the reading of the document comes to where they are not. -/
  | notText (h : Utf8.decode? bytes = none) (hcut : documentOf path bytes = .error (.cutOff ())) :
      Stops path bytes .notText
  /-- A scalar does not spell what it is marked as. -/
  | defect (e : Yaml.Defect) (h : documentOf path bytes = .error (.defect e)) :
      Stops path bytes (.defect e)
  /-- A key is no text. The keys that mean something have all taken effect. -/
  | oddKey (v : Value) (entries : Value.Entries) (key : Value × Value) (c : Config)
      (h : documentOf path bytes = .ok v) (hv : v.opened = .mapping entries)
      (hassign : assignKeys (.mapping entries) keys standard = (c, .ok ())) (hkey : key ∈ entries)
      (hodd : ∀ s, key.1 ≠ .text s) : Stops path bytes (.fault .wrongKind)

/-- Nothing cuts a text off. -/
theorem notText_of_cutOff (path : String) (bytes : List UInt8)
    (h : documentOf path bytes = .error (.cutOff ())) : Utf8.decode? bytes = none := by
  rw [documentOf] at h
  cases hcs : Utf8.decode? bytes with
  | none => rfl
  | some cs =>
      simp only [hcs] at h
      cases hload : Yaml.loadParts path (normalizeNewlines cs) (none : Option Empty) with
      | ok v =>
          rw [hload] at h
          exact nomatch h
      | error e =>
          rw [hload] at h
          cases e with
          | cutOff none => exact nomatch none
          | _ => exact nomatch h

/-- A text that is cut off in its first two parts is cut off before anything is read. -/
theorem loadParts_of_short {ε : Type} (source : String) (cs : List Char) (e : ε)
    (h : cs.length < 2 * Yaml.partLength) :
    Yaml.loadParts source cs (some e) = .error (.cutOff e) := by
  have hnone : Yaml.wholeParts cs.length = 0 := if_pos h
  rw [Yaml.loadParts, Yaml.Supply.inParts, Option.isSome_some, if_pos rfl, hnone, List.take_zero]
  rfl

/-- A file that is no text and has fewer bytes than the first two parts have characters ends the
    program, whatever stands in it. -/
theorem stops_of_short (path : String) (bytes : List UInt8) (h : Utf8.decode? bytes = none)
    (hshort : bytes.length < 2 * Yaml.partLength) : Stops path bytes .notText := by
  refine .notText h ?_
  rw [documentOf, h]
  exact loadParts_of_short path _ ()
    (Nat.lt_of_le_of_lt (length_charsBeforeFault Yaml.partLength bytes) hshort)

/-- What is wrong with bytes is a mistake of the configuration, or ends the program. -/
theorem ofBytes_error (path : String) (bytes : List UInt8) (e : Failure)
    (h : ofBytes path bytes = .error e) : (∃ why, e = .config why) ∨ Stops path bytes e := by
  rw [ofBytes, valueOf] at h
  cases hdocument : documentOf path bytes with
  | error e' =>
      rw [hdocument] at h
      cases e' with
      | malformed t => exact Or.inl ⟨_, (Except.error.inj h).symm⟩
      | defect e' => exact Or.inr (Except.error.inj h ▸ .defect e' hdocument)
      | cutOff _ =>
          exact Or.inr
            (Except.error.inj h ▸ .notText (notText_of_cutOff path bytes hdocument) hdocument)
  | ok v =>
      -- A document was read. Whatever is wrong now is wrong with its value.
      rw [hdocument, ok_bind] at h
      rcases ofValue_error path v e h with
        hwhy | ⟨rfl, entries, key, c, hv, hassign, hkey, hodd⟩
      · exact Or.inl hwhy
      · exact Or.inr (.oddKey v entries key c hdocument hv hassign hkey hodd)

/-- Bytes that end the program do so. -/
theorem ofBytes_of_stops (path : String) (bytes : List UInt8) (e : Failure)
    (h : Stops path bytes e) : ofBytes path bytes = .error e := by
  rw [ofBytes, valueOf]
  cases h with
  | notText _ hcut => rw [hcut]; rfl
  | defect e h => rw [h]; rfl
  | oddKey v entries key c h hv hassign hkey hodd =>
      simp only [h, ok_bind, ofValue, hv, overlay, hassign,
        unknownKeys_of_odd entries key hkey hodd]
      rfl

/-! ## Files -/

/-- What is told about keys that mean nothing. -/
def notesOf (unknown : List String) : Log :=
  if unknown.isEmpty then [] else [.unknownConfigKeys unknown]

/-- A configuration with what is told about it behind a log, or a failure. -/
def told (log : Log) : Except Failure (Config × List String) → Except Failure Config × Log
  | .ok (c, unknown) => (.ok c, log ++ notesOf unknown)
  | .error e => (.error e, log)

theorem run_ofDocument (path : String) (v : Value) (log : Log) :
    (ofDocument path v).run.run log = told log (ofValue path v) := by
  rw [ofDocument, ofValue]
  cases v.opened with
  | null =>
      have hnone : log ++ notesOf [] = log := List.append_nil log
      dsimp only
      rw [told, hnone]
      rfl
  | mapping entries =>
      dsimp only
      rw [apply]
      rcases standard.overlay (.mapping entries) with ⟨c, result⟩
      cases result with
      | error e => rfl
      | ok unknown =>
          cases unknown with
          | nil =>
              have hnone : log ++ notesOf [] = log := List.append_nil log
              simp only [told, hnone]
              rfl
          | cons k rest => rfl
  | _ => rfl

/-- The configuration of a file follows from its bytes. -/
theorem run_load (d : Disk) (path : String) (bytes : List UInt8)
    (h : d.lookup path = .ok (.file bytes)) (log : Log) :
    (load d path).run.run log = told log (ofBytes path bytes) := by
  have hfile : d.isFile path = true := by rw [Disk.isFile, h]
  have hcontent : d.fileContent path = .ok bytes := by rw [Disk.fileContent, h]
  -- Putting an error or a value into an attempt tells nothing.
  have hof : ∀ {α : Type} (x : Except Failure α), (Attempt.ofExcept x).run.run log = (x, log) :=
    fun _ => rfl
  rw [load, if_pos hfile, hcontent, ofBytes]
  dsimp only
  rw [run_bind_eq, hof]
  cases valueOf path bytes with
  | error e => rfl
  -- Only here something can be told, and `run_ofDocument` says what.
  | ok v => exact run_ofDocument path v log

end Config

/-! ## Commands -/

/-- The path of the configuration file of a scan. -/
def ScanOptions.configPath (o : ScanOptions) : String :=
  (given o.config).getD (Config.path o.path)

/-- What a scan does with its configuration. -/
def scanWith (p : Package) (d : Disk) (o : ScanOptions) (verbose : Bool) (stopAt : StopAt)
    (clock : Clock) (config : Config) : Action Outcome := do
  let name := projectName d o.path none
  let scanned ← tryScan (executeScan p o.path name config stopAt clock)
  let progress := progressCalls (← get).scan.announced
  match scanned with
  | none =>
    let stopped := Item.line ("\n" ++ Show.styled "yellow" "Scan interrupted.")
    return { code := 130, err := Show.banner ++ [stopped], progress }
  | some (report, result) =>
    let out ← Action.ofExcept (showReport report (some result) verbose o.showClosed)
    let exported ← exportIfAsked o.jsonOutput report
    return { code := if isSerious report then 1 else 0, out, err := Show.banner ++ exported,
             progress }

/-- What the command for rules does with its configuration. -/
def rulesWith (p : Package) (d : Disk) (o : RuleOptions) (config : Config) : Action Outcome := do
  let rules ← Action.ofAttempt (allRules p d (some (customFolder o.path config)))
  return { code := 0, out := Show.ruleList (rules.filter o.wants) }

theorem runScan_eq (p : Package) (o : ScanOptions) (verbose : Bool) (stopAt : StopAt)
    (clock : Clock) :
    runScan p o verbose stopAt clock = (do
      let d := (← get).disk
      if !d.isFolder o.path then
        return { code := 2, err := [.line (Show.styled "red" ("Not a directory: " ++ o.path))] }
      match ← tryConfig (o.resolve d) with
      | .error e => return wrongConfig e
      | .ok config => scanWith p d o verbose stopAt clock config) := rfl

theorem runRules_eq (p : Package) (o : RuleOptions) :
    runRules p o = (do
      let d := (← get).disk
      match ← tryConfig (Config.load d (Config.path o.path)) with
      | .error e => return wrongConfig e
      | .ok config => rulesWith p d o config) := rfl

/-- A mistake of the configuration is kept, and any other failure ends the program. -/
theorem run_tryConfig (x : Attempt Config) (w : World) :
    (tryConfig x).run.run w = match x.run.run w.scan.log with
      | (.ok c, log) => (.ok (.ok c), w.withLog log)
      | (.error (.config e), log) => (.ok (.error e), w.withLog log)
      | (.error e, log) => (.error e, w.withLog log) := by
  rw [tryConfig, run_tryCatch, run_bind_eq, Action.run_ofAttempt]
  rcases x.run.run w.scan.log with ⟨result, log⟩
  cases result with
  | ok c => rfl
  | error e =>
      -- Mistakes of the configuration are the one kind that a command catches.
      cases e with
      | config why => rfl
      | _ => rfl

/-- What a command does about what its configuration file comes to: it goes on with the
    configuration, or shows the mistake in it, or the program ends. -/
def settle (next : Config → Action Outcome) (w : World) :
    Except Failure (Config × List String) → Except Failure Outcome × World
  | .ok (c, unknown) => (next c).run.run (w.withLog (w.scan.log ++ Config.notesOf unknown))
  | .error (.config why) => (.ok (wrongConfig why), w)
  | .error e => (.error e, w)

/-- The exit code of a command on a console, if the program does not end with a failure. -/
def exitOn (console : Console) : Except Failure Outcome × World → Option Nat
  | (.ok o, _) => o.codeOn console
  | (.error _, _) => none

/-- A mistake of the configuration is shown in one line, and if the console prints it, the code is the
    one for a mistake. -/
theorem exitOn_settle_config (console : Console) (next : Config → Action Outcome) (w : World)
    (why : ConfigError) :
    exitOn console (settle next w (.error (.config why))) =
      if console.err (.line (Show.styled "red" (why.text Wording.full))) then some 2 else none := by
  unfold settle exitOn wrongConfig Outcome.codeOn
  simp only [List.all_nil, List.all_cons, Bool.and_true, Bool.true_and]

/-- Bytes that end the program leave no exit code. -/
theorem exitOn_settle_of_stops (console : Console) (next : Config → Action Outcome) (w : World)
    (path : String) (bytes : List UInt8) (e : Failure) (h : Config.Stops path bytes e) :
    exitOn console (settle next w (Config.ofBytes path bytes)) = none := by
  rw [Config.ofBytes_of_stops path bytes e h]
  cases h with
  | _ => rfl

theorem run_resolve (o : ScanOptions) (d : Disk) (log : Log) :
    (o.resolve d).run.run log = match (Config.load d o.configPath).run.run log with
      | (.ok c, log') => (.ok (o.override c), log')
      | (.error e, log') => (.error e, log') := by
  rw [ScanOptions.resolve, run_bind_eq, ← ScanOptions.configPath]
  rcases (Config.load d o.configPath).run.run log with ⟨result, log'⟩
  cases result with
  | ok c => rfl
  | error e => rfl

/-- What a scan does about its configuration file. -/
theorem run_runScan (p : Package) (o : ScanOptions) (verbose : Bool) (stopAt : StopAt)
    (clock : Clock) (w : World) (bytes : List UInt8) (hroot : w.disk.isFolder o.path = true)
    (h : w.disk.lookup o.configPath = .ok (.file bytes)) :
    (runScan p o verbose stopAt clock).run.run w =
      settle (fun c => scanWith p w.disk o verbose stopAt clock (o.override c)) w
        (Config.ofBytes o.configPath bytes) := by
  -- The options change the configuration after it was loaded, so that they do not matter for
  -- what is told or for what is wrong.
  have hload := Config.run_load w.disk o.configPath bytes h w.scan.log
  rw [runScan_eq, run_bind _ _ _ _ _ (run_get w)]
  simp only [hroot, Bool.not_true, Bool.false_eq_true, if_false]
  rw [run_bind_eq, run_tryConfig, run_resolve, hload]
  cases Config.ofBytes o.configPath bytes with
  | ok r => rfl
  | error e =>
      cases e with
      | config why => rfl
      | _ => rfl

/-- What the command for rules does about the configuration file of the project. -/
theorem run_runRules (p : Package) (o : RuleOptions) (w : World) (bytes : List UInt8)
    (h : w.disk.lookup (Config.path o.path) = .ok (.file bytes)) :
    (runRules p o).run.run w =
      settle (rulesWith p w.disk o) w (Config.ofBytes (Config.path o.path) bytes) := by
  have hload := Config.run_load w.disk (Config.path o.path) bytes h w.scan.log
  rw [runRules_eq, run_bind _ _ _ _ _ (run_get w), run_bind_eq, run_tryConfig, hload]
  cases Config.ofBytes (Config.path o.path) bytes with
  | ok r => rfl
  | error e =>
      cases e with
      | config why => rfl
      | _ => rfl

/-- A configuration file with any bytes. It comes to a configuration with keys that mean nothing, or
    to a mistake of the configuration, or to one of the failures that end the program. The commands
    go on with the configuration and tell such keys, show the mistake and end with the code for one
    if the console prints it, or end the program. -/
theorem loading_config (d : Disk) (path : String) (bytes : List UInt8)
    (h : d.lookup path = .ok (.file bytes)) :
    (∀ log, (Config.load d path).run.run log = Config.told log (Config.ofBytes path bytes)) ∧
    (∀ e, Config.ofBytes path bytes = .error e →
      (∃ why, e = .config why) ∨ Config.Stops path bytes e) ∧
    (∀ e, Config.Stops path bytes e → Config.ofBytes path bytes = .error e) ∧
    (Utf8.decode? bytes = none → bytes.length < 2 * Yaml.partLength →
      Config.Stops path bytes .notText) ∧
    (∀ v entries c unknown, Config.valueOf path bytes = .ok v → v.opened = .mapping entries →
      Config.ofBytes path bytes = .ok (c, unknown) →
        unknown.Pairwise (· ≤ ·) ∧
        (∀ k, k ∈ unknown ↔
          (∃ v, (.text k, v) ∈ entries) ∧ k ∉ Config.keys.map Config.Key.name) ∧
        Config.ofValue path (.mapping (entries.filter fun e => Config.isKnown e.1)) =
          .ok (c, [])) ∧
    (∀ (p : Package) (o : ScanOptions) (verbose : Bool) (stopAt : StopAt) (clock : Clock)
      (w : World), w.disk = d → d.isFolder o.path = true → o.configPath = path →
        (runScan p o verbose stopAt clock).run.run w =
          settle (fun c => scanWith p d o verbose stopAt clock (o.override c)) w
            (Config.ofBytes path bytes)) ∧
    (∀ (p : Package) (o : RuleOptions) (w : World), w.disk = d → Config.path o.path = path →
      (runRules p o).run.run w = settle (rulesWith p d o) w (Config.ofBytes path bytes)) ∧
    ∀ (console : Console) (next : Config → Action Outcome) (w : World),
      (∀ why, Config.ofBytes path bytes = .error (.config why) →
        exitOn console (settle next w (Config.ofBytes path bytes)) =
          if console.err (.line (Show.styled "red" (why.text Wording.full))) then some 2
          else none) ∧
      ∀ e, Config.Stops path bytes e →
        exitOn console (settle next w (Config.ofBytes path bytes)) = none := by
  refine ⟨Config.run_load d path bytes h, Config.ofBytes_error path bytes,
    Config.ofBytes_of_stops path bytes, Config.stops_of_short path bytes, ?_, ?_, ?_, ?_⟩
  · intro v entries c unknown hvalue hv hbytes
    rw [Config.ofBytes, hvalue, ok_bind] at hbytes
    exact Config.ofValue_mapping path v entries c unknown hv hbytes
  · rintro p o verbose stopAt clock w rfl hroot rfl
    exact run_runScan p o verbose stopAt clock w bytes hroot h
  · rintro p o w rfl rfl
    exact run_runRules p o w bytes h
  · intro console next w
    refine ⟨fun why hwhy => ?_, fun e he => ?_⟩
    · rw [hwhy]
      exact exitOn_settle_config console next w why
    · exact exitOn_settle_of_stops console next w path bytes e he

/-! ## Two configuration files -/

/-- A project whose configuration file has a key that means nothing, and one whose configuration
    file is no text. -/
def configDisk : Disk where
  root := .folder
    [("p", .folder [(".securecode", .folder
      [("config.yaml", .file (Utf8.encode "minSeverity: high\nmood: good\n".toList))])]),
     ("q", .folder [(".securecode", .folder [("config.yaml", .file [255])])])]
  cwd := []

/-- A key that means nothing is told, and the rest takes effect. -/
theorem loading_config_mood :
    ∃ c, c.minSeverity = .high ∧
      (Config.load configDisk "/p/.securecode/config.yaml").run.run [] =
        (.ok c, [.unknownConfigKeys ["mood"]]) ∧
      (runRules .builtin { path := "/p" }).run.run (World.ofDisk configDisk 0) =
        (rulesWith .builtin configDisk { path := "/p" } c).run.run
          ((World.ofDisk configDisk 0).withLog [.unknownConfigKeys ["mood"]]) := by
  have hall := loading_config configDisk "/p/.securecode/config.yaml"
    (Utf8.encode "minSeverity: high\nmood: good\n".toList) rfl
  rcases hall with ⟨hload, _, _, _, _, _, hrules, _⟩
  rcases exists_of_toOption_map
    (Config.ofBytes "/p/.securecode/config.yaml"
      (Utf8.encode "minSeverity: high\nmood: good\n".toList))
    (fun r => (r.1.minSeverity, r.2)) (.high, ["mood"]) (by decide +kernel) with
    ⟨⟨c, unknown⟩, hbytes, hshown⟩
  rw [Prod.mk.injEq] at hshown
  rcases hshown with ⟨hseverity, rfl⟩
  refine ⟨c, hseverity, ?_, ?_⟩
  · rw [hload, hbytes]
    rfl
  · rw [hrules .builtin { path := "/p" } (World.ofDisk configDisk 0) rfl (by decide +kernel),
      hbytes]
    rfl

/-- Bytes that are no text are no mistake of the configuration: the program ends. -/
theorem not_loading_of_bytes :
    configDisk.isFile "/q/.securecode/config.yaml" = true ∧
      (∀ log, (Config.load configDisk "/q/.securecode/config.yaml").run.run log =
        (.error .notText, log)) ∧
      ∀ w : World, w.disk = configDisk →
        (runScan .builtin { path := "/q" } false none ⟨0, 0⟩).run.run w = (.error .notText, w) ∧
        (runRules .builtin { path := "/q" }).run.run w = (.error .notText, w) := by
  have hlookup : configDisk.lookup "/q/.securecode/config.yaml" = .ok (.file [255]) := rfl
  have hpath : Config.path "/q" = "/q/.securecode/config.yaml" := by decide +kernel
  have hbytes := Config.ofBytes_of_stops "/q/.securecode/config.yaml" [255] .notText
    (Config.stops_of_short _ _ (by decide) (by decide))
  refine ⟨by decide +kernel, fun log => ?_, ?_⟩
  · rw [Config.run_load configDisk _ [255] hlookup, hbytes]
    rfl
  · rintro w hw
    rw [← hpath] at hlookup hbytes
    rw [run_runRules .builtin { path := "/q" } w [255] (by rw [hw]; exact hlookup),
      run_runScan .builtin { path := "/q" } false none ⟨0, 0⟩ w [255]
        (by rw [hw]; decide +kernel) (by rw [hw]; exact hlookup)]
    constructor
    · exact congrArg (settle _ w) hbytes
    · exact congrArg (settle _ w) hbytes

end CodeAudit
