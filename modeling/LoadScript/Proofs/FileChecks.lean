import LoadScript.Proofs.Settings.Loading

set_option autoImplicit false
set_option relaxedAutoImplicit false

namespace LoadScript.CommandLine

variable {σ : Type} {files : FileAccess (StateM σ)} {state : σ}

def Setup.findsProblems (setup : Setup) : Except FileFault String → Bool
  | .ok source => !(setup.read source).problems.isEmpty
  | .error _ => false

/-- The notes of a report without the line that sums it up or says why it failed. -/
def Report.fileNotes (r : Report) : List String :=
  if r.code = 0 then r.notes else r.notes.dropLast

/-- The reports on single files one after the other, without their summaries. -/
def Report.joined (alone : String → Report) (paths : List String) : Report where
  output := paths.flatMap fun path => (alone path).output
  notes := paths.flatMap fun path => (alone path).fileNotes

namespace Checked

variable {setup : Setup} {content : String → Except FileFault String} {front back paths : List String} {path : String}

@[simp]
theorem empty_followedBy (c : Checked) : followedBy {} c = c := by
  simp [followedBy]

theorem followedBy_assoc (a b c : Checked) : (a.followedBy b).followedBy c = a.followedBy (b.followedBy c) := by
  simp [followedBy, Nat.add_assoc]

def ofFiles (setup : Setup) (content : String → Except FileFault String) : List String → Checked
  | [] => {}
  | path :: rest =>
    let first := ofContent setup path (content path)
    if first.stop.isSome then first else first.followedBy (ofFiles setup content rest)

theorem checkFiles_eq (h : files.Rests state) (setup : Setup) (paths : List String) :
    checkFiles files setup paths state = (ofFiles setup (files.textAt state) paths, state) := by
  induction paths with
  | nil => rfl
  | cons path rest ih =>
    rw [checkFiles, bind_apply, h.read_text, ofFiles]
    dsimp only
    split
    · rfl
    · rw [bind_apply, ih]
      rfl

@[simp]
theorem stop_ofSource (setup : Setup) (path source : String) : (ofSource setup path source).stop = none := by
  rw [ofSource]
  cases setup.settings.format <;> rfl

theorem failed_ofSource (setup : Setup) (path source : String) :
    (ofSource setup path source).failed = if (setup.read source).problems.isEmpty then 0 else 1 := by
  rw [ofSource]
  cases setup.settings.format <;> rfl

theorem ofFiles_cons_ok {source : String} (h : content path = .ok source) :
    ofFiles setup content (path :: paths) = (ofSource setup path source).followedBy (ofFiles setup content paths) := by
  simp [ofFiles, h, ofContent]

theorem ofFiles_cons_error {fault : FileFault} (h : content path = .error fault) :
    ofFiles setup content (path :: paths) = { stop := some (.unreadable path fault) } := by
  simp [ofFiles, h, ofContent]

theorem ofFiles_append (h : ∀ path ∈ front, ∃ source, content path = .ok source) :
    ofFiles setup content (front ++ back) = (ofFiles setup content front).followedBy (ofFiles setup content back) := by
  induction front with
  | nil => rw [List.nil_append, ofFiles, empty_followedBy]
  | cons path rest ih =>
    obtain ⟨⟨source, hsource⟩, hrest⟩ := List.forall_mem_cons.1 h
    rw [List.cons_append, ofFiles_cons_ok hsource, ofFiles_cons_ok hsource, ih hrest, followedBy_assoc]

theorem ofFiles_eq (h : ∀ path ∈ paths, ∃ source, content path = .ok source) :
    ofFiles setup content paths =
      { output := paths.flatMap fun path => (ofFiles setup content [path]).output
        notes := paths.flatMap fun path => (ofFiles setup content [path]).notes
        failed := paths.countP fun path => setup.findsProblems (content path) } := by
  induction paths with
  | nil => rfl
  | cons path rest ih =>
    obtain ⟨⟨source, hsource⟩, hrest⟩ := List.forall_mem_cons.1 h
    rw [List.flatMap_cons, List.flatMap_cons, List.countP_cons, ofFiles_cons_ok hsource, ih hrest,
      ofFiles_cons_ok hsource]
    simp [followedBy, ofFiles, failed_ofSource, hsource, Setup.findsProblems, Nat.add_comm]

@[simp]
theorem output_report (c : Checked) (total : Nat) : (c.report total).output = c.output := by
  rw [report]
  split
  · rfl
  · split <;> rfl

@[simp]
theorem fileNotes_report (c : Checked) (total : Nat) : (c.report total).fileNotes = c.notes := by
  rw [report]
  split
  · simp [Report.fileNotes, Report.failing]
  · split <;> simp [Report.fileNotes]

theorem report_of_stop_eq_none {c : Checked} (h : c.stop = none) (total : Nat) :
    c.report total =
      { output := c.output
        notes := c.notes ++ if c.failed = 0 then [] else [summary c.failed total]
        code := if c.failed = 0 then 0 else 1 } := by
  rw [report, h]
  dsimp only
  split <;> simp

theorem report_of_stopped (c : Checked) (fault : SettingsFault SystemText) (total : Nat) :
    (c.followedBy { stop := some fault }).report total =
      { output := c.output, notes := c.notes ++ [Failure.note (.settings fault)], code := 1 } := by
  simp [report, followedBy, Report.failing]

def reportAlone (setup : Setup) (content : String → Except FileFault String) (path : String) : Report :=
  (ofFiles setup content [path]).report 1

theorem reportAlone_of_ok {source : String} (h : content path = .ok source) :
    (reportAlone setup content path).output = (ofSource setup path source).output ∧
      (reportAlone setup content path).fileNotes = (ofSource setup path source).notes := by
  rw [reportAlone, output_report, fileNotes_report, ofFiles_cons_ok h]
  simp [followedBy, ofFiles]

theorem joined_reportAlone (paths : List String) :
    Report.joined (reportAlone setup content) paths =
      { output := paths.flatMap fun path => (ofFiles setup content [path]).output
        notes := paths.flatMap fun path => (ofFiles setup content [path]).notes } := by
  simp only [Report.joined, reportAlone, output_report, fileNotes_report]

/-- The report on files that can all be read. -/
theorem report_ofFiles (h : ∀ path ∈ paths, ∃ source, content path = .ok source) (total : Nat) :
    let failed := paths.countP fun path => setup.findsProblems (content path)
    let joined := Report.joined (reportAlone setup content) paths
    (ofFiles setup content paths).report total =
      if failed = 0 then joined
      else { joined with notes := joined.notes ++ [summary failed total], code := 1 } := by
  intro failed joined
  have hjoined : joined = _ := joined_reportAlone paths
  rw [ofFiles_eq h, report_of_stop_eq_none rfl, hjoined]
  by_cases hnone : failed = 0
  · rw [if_pos hnone, if_pos hnone, if_pos hnone, List.append_nil]
  · rw [if_neg hnone, if_neg hnone, if_neg hnone]

theorem report_ofFiles_unreadable {fault : FileFault} (h : ∀ path ∈ front, ∃ source, content path = .ok source)
    (hpath : content path = .error fault) (total : Nat) :
    let joined := Report.joined (reportAlone setup content) front
    (ofFiles setup content (front ++ path :: back)).report total =
      { joined with notes := joined.notes ++ [Failure.note (.settings (.unreadable path fault))], code := 1 } := by
  intro joined
  have hjoined : joined = _ := joined_reportAlone front
  rw [ofFiles_append h, ofFiles_cons_error hpath, report_of_stopped, ofFiles_eq h, hjoined]

theorem ofFiles_inFormat (setup : Setup) (content : String → Except FileFault String) (format : OutputFormat)
    (paths : List String) :
    (ofFiles (setup.inFormat format) content paths).stop = (ofFiles setup content paths).stop ∧
      (ofFiles (setup.inFormat format) content paths).failed = (ofFiles setup content paths).failed := by
  induction paths with
  | nil => exact ⟨rfl, rfl⟩
  | cons path rest ih =>
    cases hpath : content path with
    | error fault =>
      rw [ofFiles_cons_error hpath, ofFiles_cons_error hpath]
      exact ⟨rfl, rfl⟩
    | ok source =>
      rw [ofFiles_cons_ok hpath, ofFiles_cons_ok hpath, followedBy, followedBy, ih.1, ih.2, failed_ofSource,
        failed_ofSource]
      exact ⟨rfl, rfl⟩

theorem code_report_inFormat (setup : Setup) (content : String → Except FileFault String) (format : OutputFormat)
    (paths : List String) (total : Nat) :
    ((ofFiles (setup.inFormat format) content paths).report total).code =
      ((ofFiles setup content paths).report total).code := by
  obtain ⟨hstop, hfailed⟩ := ofFiles_inFormat setup content format paths
  rw [report, report, hstop, hfailed]
  cases (ofFiles setup content paths).stop with
  | none => dsimp only; split <;> rfl
  | some fault => rfl

end Checked

theorem run_check {env : Environment} {flags : Flags} {setup : Setup} (h : files.Rests state)
    (hload : loadSetup files env flags state = (.ok setup, state)) (paths : List String) :
    (Invocation.run files env ⟨flags, .check paths⟩ state).1 =
      (Checked.ofFiles setup (files.textAt state) paths).report paths.length := by
  rw [run_of_loadSetup h hload, Command.run, bind_apply, Checked.checkFiles_eq h]
  rfl

/-- A check of files, in each format, reports on one file after the other as it would on that file alone, without the
summary: the problems of the file, as notes or as one JSON text. If all files can be read it ends well or with the number
of those that have problems, and otherwise with the fault of the first that cannot be read. Whether it ends well is the
same in each format. -/
theorem check_composes {env : Environment} {flags : Flags} {setup : Setup} (hrests : files.Rests state)
    (hload : loadSetup files env flags state = (.ok setup, state)) (paths : List String) (format : OutputFormat) :
    let check (format : OutputFormat) (paths : List String) : Report :=
      (Invocation.run files env ⟨{ flags with format := some format }, .check paths⟩ state).1
    let alone (path : String) : Report := check format [path]
    let failed := paths.countP fun path => setup.findsProblems (files.textAt state path)
    (Invocation.run files env ⟨flags, .check paths⟩ state).1 = check setup.settings.format paths ∧
    (∀ path source, files.textAt state path = .ok source →
      let problems := (setup.read source).problems
      let value : Json.Value := .object [("file", .string path), ("errors", .array (problems.map Problem.toJson))]
      (format = .text → (alone path).output = [] ∧
        (alone path).fileNotes = problems.map (Problem.report path source.toList)) ∧
      (format = .json → (alone path).output = [value.sorted.compactText] ∧ (alone path).fileNotes = [])) ∧
    ((∀ path ∈ paths, ∃ source, files.textAt state path = .ok source) →
      check format paths =
        if failed = 0 then .joined alone paths
        else
          { Report.joined alone paths with
            notes := (Report.joined alone paths).notes ++
              [toString failed ++ " of " ++ toString paths.length ++ " files have errors"]
            code := 1 }) ∧
    (∀ front path back fault, paths = front ++ path :: back →
      (∀ path ∈ front, ∃ source, files.textAt state path = .ok source) → files.textAt state path = .error fault →
        check format paths =
          { Report.joined alone front with
            notes := (Report.joined alone front).notes ++ [Failure.note (.settings (.unreadable path fault))]
            code := 1 }) ∧
    ∀ other, (check other paths).code = (check format paths).code := by
  intro check alone failed
  have hcheck : ∀ format paths, check format paths =
      (Checked.ofFiles (setup.inFormat format) (files.textAt state) paths).report paths.length := by
    intro format paths
    exact run_check hrests (loadSetup_inFormat hrests hload format) paths
  have halone : alone = Checked.reportAlone (setup.inFormat format) (files.textAt state) :=
    funext fun path => hcheck format [path]
  refine ⟨?_, ?_, ?_, ?_, ?_⟩
  · rw [hcheck, run_check hrests hload]
    rfl
  · intro path source hsource problems value
    rw [halone]
    constructor
    · rintro rfl
      exact Checked.reportAlone_of_ok hsource
    · rintro rfl
      exact Checked.reportAlone_of_ok hsource
  · intro hread
    rw [hcheck, halone]
    exact Checked.report_ofFiles hread paths.length
  · rintro front path back fault rfl hfront hpath
    rw [hcheck, halone]
    exact Checked.report_ofFiles_unreadable hfront hpath _
  · intro other
    rw [hcheck, hcheck, Checked.code_report_inFormat, Checked.code_report_inFormat]

/-- A clean file, one that has a problem and is given twice, and then one whose bytes are no text. -/
theorem check_of_mixed_files :
    let store : FileStore := ⟨[(["a.qvs"], .file (some "1;")), (["b.qvs"], .file (some "(;")), (["raw"], .file none)]⟩
    let check (format : OutputFormat) (paths : List String) : Report :=
      (Invocation.run FileStore.access (fun _ => none) ⟨{ format := some format }, .check paths⟩ store).1
    FileStore.access.Rests store ∧
    loadSetup FileStore.access (fun _ => none) {} store = (.ok ⟨{}, Vocabulary.standard⟩, store) ∧
    check .text ["b.qvs", "a.qvs", "b.qvs"] =
      { Report.joined (fun path => check .text [path]) ["b.qvs", "a.qvs", "b.qvs"] with
        notes := (Report.joined (fun path => check .text [path]) ["b.qvs", "a.qvs", "b.qvs"]).notes ++
          ["2 of 3 files have errors"]
        code := 1 } ∧
    check .json ["b.qvs", "raw", "a.qvs"] =
      { Report.joined (fun path => check .json [path]) ["b.qvs"] with
        notes := (Report.joined (fun path => check .json [path]) ["b.qvs"]).notes ++
          [Failure.note (.settings (.unreadable "raw" .notText))]
        code := 1 } := by
  intro store check
  have hrests : FileStore.access.Rests store := FileStore.keeps_access.rests store
  have hload : loadSetup FileStore.access (fun _ => none) {} store = (.ok ⟨{}, Vocabulary.standard⟩, store) := by
    have hthere : FileStore.access.isThere store (Settings.path fun _ => none) = false := by decide +kernel
    exact loadSetup_of_flags hrests hthere {}
  have hclean : ∃ source, FileStore.access.textAt store "a.qvs" = .ok source := ⟨"1;", rfl⟩
  have hbroken : ∃ source, FileStore.access.textAt store "b.qvs" = .ok source := ⟨"(;", rfl⟩
  have hfailed : (["b.qvs", "a.qvs", "b.qvs"].countP fun path =>
      Setup.findsProblems ⟨{}, Vocabulary.standard⟩ (FileStore.access.textAt store path)) = 2 := by decide +kernel
  have hall := check_composes hrests hload ["b.qvs", "a.qvs", "b.qvs"] .text
  have hpart := check_composes hrests hload ["b.qvs", "raw", "a.qvs"] .json
  refine ⟨hrests, hload, ?_, ?_⟩
  · have hsummary := hall.2.2.1 (by simp [hclean, hbroken])
    rwa [hfailed] at hsummary
  · exact hpart.2.2.2.1 ["b.qvs"] "raw" ["a.qvs"] .notText rfl (by simp [hbroken]) rfl

end LoadScript.CommandLine
