import SourceSig.Service.Api
import SourceSig.Proofs.Scheduling
import Mathlib

/-!
# The service and the batch agree

There are three ways to the outcome of a file: its signature from the service (`Service.signature`),
its section in the report of the service (`Service.report`), and its report in a batch. The report
of the service sorts the files by their paths, and the batch collects them by their paths as they
are finished.

`Service.report_of_parseList` : the report has one section for each file, in the order of the bytes
of the paths and, among files of one path, in the order of the request; a section says what the
signature route answers to the file alone; and a batch of files with these statements under these
paths, no two of them the same, has this report whatever order its files are finished in.
-/

namespace SourceSig

theorem Text.encode_le_encode {s t : String} (h : s ≤ t) : encode s ≤ encode t := by
  rcases eq_or_lt_of_le h with rfl | hlt
  · exact List.le_refl _
  · exact List.le_of_lt (encode_lt_encode hlt)

namespace Service

/-! ## Files in the order of their paths -/

/-- Files in the order of their paths; files with one path keep their order. -/
def inPathOrder (files : List Upload) : List Upload :=
  files.mergeSort fun f g => decide (f.path ≤ g.path)

theorem pathLe_trans (f g h : Upload) (hfg : decide (f.path ≤ g.path))
    (hgh : decide (g.path ≤ h.path)) : decide (f.path ≤ h.path) :=
  decide_eq_true (le_trans (of_decide_eq_true hfg) (of_decide_eq_true hgh))

theorem pathLe_total (f g : Upload) : decide (f.path ≤ g.path) || decide (g.path ≤ f.path) := by
  simpa using le_total f.path g.path

theorem inPathOrder_perm (files : List Upload) : (inPathOrder files).Perm files :=
  List.mergeSort_perm files _

theorem pairwise_inPathOrder (files : List Upload) :
    (inPathOrder files).Pairwise fun f g => f.path ≤ g.path :=
  (List.pairwise_mergeSort pathLe_trans pathLe_total files).imp of_decide_eq_true

/-- The files of one path are a sorted part of the list, so sorting leaves them as they are. -/
theorem filter_inPathOrder (files : List Upload) (path : String) :
    (inPathOrder files).filter (·.path = path) = files.filter (·.path = path) := by
  have hsorted : (files.filter (·.path = path)).Pairwise fun f g => decide (f.path ≤ g.path) := by
    refine List.pairwise_of_forall_mem_list fun f hf g hg => decide_eq_true ?_
    rw [of_decide_eq_true (List.mem_filter.mp hf).2, of_decide_eq_true (List.mem_filter.mp hg).2]
  have hsublist : (files.filter (·.path = path)).Sublist (inPathOrder files) :=
    List.sublist_mergeSort pathLe_trans pathLe_total hsorted List.filter_sublist
  have hfilter := hsublist.filter (·.path = path)
  simp only [List.filter_filter, Bool.and_self] at hfilter
  exact (hfilter.eq_of_length ((inPathOrder_perm files).filter _).length_eq.symm).symm

/-- Sorting the reports is sorting the files. -/
theorem reportsOf_eq_map (files : List Upload) :
    reportsOf files = (inPathOrder files).map reportOf := by
  have hle : ∀ f ∈ files, ∀ g ∈ files,
      decide (f.path ≤ g.path) = decide ((reportOf f).path ≤ (reportOf g).path) :=
    fun _ _ _ _ => rfl
  exact (List.map_mergeSort (s := fun a b : Report => decide (a.path ≤ b.path)) hle).symm

/-! ## Sections -/

/-- What the section of a file is when the signature route answers the file alone with a
response. -/
inductive SectionFor (file : Upload) : Response → String → Prop
  | found (signature : String) :
      SectionFor file (json 200 [("path", .str file.path), ("signature", .str signature)])
        ("# " ++ file.path ++ "\n\n" ++ signature ++ "\n")
  | failed (error : String) (line : Nat) :
      SectionFor file
        (json 422 [("path", .str file.path), ("error", .str error), ("line", .num (.int line))])
        ("ERROR: " ++ error ++ " IN " ++ file.path ++ "#" ++ toString line)

theorem sectionFor_signatureOf (file : Upload) :
    SectionFor file (signatureOf file) (reportOf file).text := by
  unfold signatureOf reportOf
  cases signatureText file.statements with
  | ok signature => exact .found signature
  | error fault => exact .failed fault.message ((fault.line.map UInt32.toNat).getD 0)

/-- The section of a file says what the signature route answers to a body that holds the file. -/
theorem sectionFor_signature {body : Text.Bytes} {file : Upload}
    (h : Upload.parse body = .ok file) : SectionFor file (signature body) (reportOf file).text := by
  rw [signature, h]
  exact sectionFor_signatureOf file

/-! ## Batches -/

/-- A batch of files whose source has the statements of `files` under their paths. -/
def Supplies (host : Host) (source : TreeSource) (root : String) (budget : Nat)
    (names : List String) (files : List Upload) : Prop :=
  List.Forall₂ (fun name file => Path.normalize root name = file.path ∧
    source.load host name = .ok file.statements ∧ source.millis host name ≤ budget) names files

variable {host : Host} {source : TreeSource} {root : String} {budget workers : Nat}
  {names : List String} {files : List Upload}

/-- The jobs of a batch: each file with what becomes of it within its time. -/
def jobsOf (host : Host) (source : TreeSource) (budget : Nat) (names : List String) :
    List (String × Attempt) :=
  names.map fun name => (name, Batch.attempt host source budget name)

/-- A file that is loaded within its time has the report of the service. -/
theorem reportOf_attempt {name : String} {file : Upload}
    (hpath : Path.normalize root name = file.path)
    (hload : source.load host name = .ok file.statements)
    (hmillis : source.millis host name ≤ budget) :
    Batch.reportOf root (budget / 1000) name (Batch.attempt host source budget name) =
      reportOf file := by
  rw [Batch.reportOf, Batch.attempt, if_neg (not_lt.mpr hmillis), hload, hpath]
  rfl

/-- A batch that has the statements of the files makes the reports of the service. -/
theorem Supplies.map_reportOf_eq (h : Supplies host source root budget names files) :
    ((jobsOf host source budget names).map fun job =>
      Batch.reportOf root (budget / 1000) job.1 job.2) = files.map reportOf := by
  rw [jobsOf, List.map_map]
  induction h with
  | nil => rfl
  | cons hfile _ ih =>
    obtain ⟨hpath, hload, hmillis⟩ := hfile
    rw [List.map_cons, List.map_cons, ih, ← reportOf_attempt hpath hload hmillis]
    rfl

theorem increasing_reportsOf (h : (files.map Upload.path).Nodup) :
    Batch.Increasing (reportsOf files) := by
  have hnodup : ((inPathOrder files).map Upload.path).Nodup :=
    ((inPathOrder_perm files).map Upload.path).nodup_iff.mpr h
  rw [reportsOf_eq_map, Batch.Increasing, List.pairwise_map]
  exact (pairwise_inPathOrder files).imp₂ (fun _ _ hle hne => lt_of_le_of_ne hle hne)
    (List.pairwise_map.mp hnodup)

/-- Where no two files share a path, the reports of the batch and of the service are the same: both
increase by their paths, and they have the same members. -/
theorem Supplies.reports_eq (h : Supplies host source root budget names files)
    (hnodup : (files.map Upload.path).Nodup) {finished : List (String × Attempt)}
    (hrun : Pool.Finishes workers (jobsOf host source budget names) finished) :
    (Batch.ofFinished root (budget / 1000) finished).reports = reportsOf files := by
  have hreports := h.map_reportOf_eq
  have hpaths : ((jobsOf host source budget names).map (Batch.pathOf root)).Nodup := by
    have hjobs := congrArg (List.map Report.path) hreports
    rw [Batch.map_path_reportOf, List.map_map] at hjobs
    rw [hjobs]
    exact hnodup
  refine Batch.eq_of_increasing Batch.increasing_reports (increasing_reportsOf hnodup) fun r => ?_
  rw [Batch.mem_reports_iff_of_nodup hrun hpaths, reportsOf_eq_map,
    ((inPathOrder_perm files).map reportOf).mem_iff, ← hreports, List.mem_map]

/-- The report of the service on some files: it is always an answer, with one section for each file,
in the order of the bytes of their paths, where files of one path keep their order. The section of a
file depends on the file alone, and says what the signature route answers to it. A batch that loads
these statements in time from files with these paths, no two of them the same, has the same report,
whatever the pool and the order in which it finishes them. -/
theorem report_of_parseList {body : Text.Bytes} (h : Upload.parseList body = .ok files) :
    ∃ ordered : List Upload, ordered.Perm files ∧
      (ordered.Pairwise fun f g => Text.encode f.path ≤ Text.encode g.path) ∧
      (∀ path, ordered.filter (·.path = path) = files.filter (·.path = path)) ∧
      report body = plain 200 (String.join (ordered.map fun f => (reportOf f).text ++ "\n")) ∧
      (∀ file, ∀ alone, Upload.parse alone = .ok file →
        SectionFor file (signature alone) (reportOf file).text) ∧
      ((files.map Upload.path).Nodup →
        ∀ host source root budget names, Supplies host source root budget names files →
          ∀ workers finished, Pool.Finishes workers (jobsOf host source budget names) finished →
            Report.listText (Batch.ofFinished root (budget / 1000) finished).reports =
              (report body).body) := by
  have hreport : report body = plain 200 (Report.listText (reportsOf files)) := by
    rw [report, h]
  refine ⟨inPathOrder files, inPathOrder_perm files,
    (pairwise_inPathOrder files).imp Text.encode_le_encode, filter_inPathOrder files, ?_,
    fun _ _ => sectionFor_signature, fun hnodup host source root budget names hsupplies
      workers finished hrun => ?_⟩
  · rw [hreport, reportsOf_eq_map, Report.listText, List.map_map]
    rfl
  · rw [hreport, hsupplies.reports_eq hnodup hrun]
    rfl

/-- Two files, of which the first has a member that no signature expresses: each of them alone as a
request for its signature, both as a request for a report, and both as dumps below a folder; of the
dumps, the second is finished first. -/
theorem report_of_parseList_two_files :
    let dump := "[\x7b\"nodeType\":\"Stmt_Trait\",\"name\":\"T\"," ++
      "\"stmts\":[\x7b\"nodeType\":\"X\"\x7d]\x7d]"
    let statement : Node :=
      ⟨"Stmt_Trait", [("name", .str "T"), ("stmts", .list [.node ⟨"X", [], {}⟩])], {}⟩
    let failing : Upload := ⟨"b", [statement]⟩
    let empty : Upload := ⟨"a", []⟩
    let failingText := "[\"b\"," ++ dump ++ "]"
    let emptyText := "[\"a\",[]]"
    let body := Text.encode ("[[" ++ failingText ++ "," ++ emptyText ++ "]]")
    let files := [failing, empty]
    let tree : FileTree :=
      .dir [("src", .dir [("a", .file (Text.encode "[]")), ("b", .file (Text.encode dump))])]
    let host : Host := ⟨tree, fun _ _ => .error .notFound⟩
    let jobs := jobsOf host .dumps 1000 ["src/b", "src/a"]
    Upload.parseList body = .ok files ∧
      Upload.parse (Text.encode failingText) = .ok failing ∧
      SectionFor failing (signature (Text.encode failingText)) (reportOf failing).text ∧
      Upload.parse (Text.encode emptyText) = .ok empty ∧
      SectionFor empty (signature (Text.encode emptyText)) (reportOf empty).text ∧
      (files.map Upload.path).Nodup ∧
      Supplies host .dumps "src" 1000 ["src/b", "src/a"] files ∧
        Pool.Finishes 2 jobs jobs.reverse ∧
          Report.listText (Batch.ofFinished "src" (1000 / 1000) jobs.reverse).reports =
            (report body).body := by
  intro dump statement failing empty failingText emptyText body files tree host jobs
  have hparse : Upload.parseList body = .ok files := by
    subst body files failing empty failingText emptyText dump statement
    cbv
  have hfailing : Upload.parse (Text.encode failingText) = .ok failing := by
    subst failing failingText dump statement
    cbv
  have hempty : Upload.parse (Text.encode emptyText) = .ok empty := by
    subst empty emptyText
    cbv
  have hnodup : (files.map Upload.path).Nodup := by
    decide
  have hread : readDump (Text.encode dump) = .ok [statement] := by
    subst dump statement
    cbv
  have hload : ∀ (name text : String) (statements : List Node), tree.textAt name = .ok text →
      stripBanner text = text → readDump (Text.encode text) = .ok statements →
        TreeSource.dumps.load host name = .ok statements := by
    intro name text statements htext hbanner hread
    rw [TreeSource.load, htext]
    simp only [hbanner, TreeSource.parseDump, hread]
  have hb := hload "src/b" dump [statement] (by decide +kernel) (by decide +kernel) hread
  have ha := hload "src/a" "[]" [] (by decide +kernel) (by decide +kernel) (by cbv)
  have hsupplies : Supplies host .dumps "src" 1000 ["src/b", "src/a"] files :=
    .cons ⟨by decide +kernel, hb, Nat.zero_le _⟩
      (.cons ⟨by decide +kernel, ha, Nat.zero_le _⟩ .nil)
  have hrun : Pool.Finishes 2 jobs jobs.reverse :=
    .head (.start _ _ [] _ (by decide)) <|
      .head (.start _ _ [_] _ (by decide)) <|
        .head (.finish _ [_] _ [] _) <|
          .single (.finish _ [] _ [] [_])
  obtain ⟨-, -, -, -, -, halone, hbatch⟩ := report_of_parseList hparse
  exact ⟨hparse, hfailing, halone _ _ hfailing, hempty, halone _ _ hempty, hnodup, hsupplies, hrun,
    hbatch hnodup host .dumps "src" 1000 _ hsupplies 2 jobs.reverse hrun⟩

end Service

end SourceSig
