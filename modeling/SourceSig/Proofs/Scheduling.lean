import SourceSig.Batch
import SourceSig.Proofs.ByteOrder
import Mathlib.Data.List.Dedup
import Mathlib.Data.List.Induction
import Mathlib.Data.List.Sort
import Mathlib.Data.String.Basic
import Mathlib.Logic.Relation

/-!
# Scheduling

A pool starts the files of a batch in their order, as many at a time as it has workers, and finishes
them in any order (`Pool.Step`). The reports are collected by path in the order in which the files
were finished. `Batch.mem_collect` says which reports are left: those that no later one with their
path replaces.

`Batch.reports_of_finishes` : the reports are in the order of their paths, one for each path, and if
no two files share a path then neither the number of workers nor the order has a say in them.

`Batch.processed_add_failed_eq` : a batch accounts for each of its files exactly if no two of them
share a path; `Batch.not_forall_processed_add_failed_eq_total` is a batch that loses one.
-/

namespace SourceSig

/-! ## Pools -/

/-- The jobs of a pool: those that wait, in their order, those at work, and those that are finished,
in the order in which they were. -/
structure Pool (α : Type) where
  waiting : List α
  running : List α
  finished : List α

namespace Pool

variable {α : Type} {workers : Nat}

/-- A free worker starts the next job, or some job at work is finished. A pool has a worker even if
it is given none. -/
inductive Step (workers : Nat) : Pool α → Pool α → Prop
  | start (job : α) (waiting running finished : List α) :
      running.length < max workers 1 →
        Step workers ⟨job :: waiting, running, finished⟩ ⟨waiting, running ++ [job], finished⟩
  | finish (waiting before : List α) (job : α) (after finished : List α) :
      Step workers ⟨waiting, before ++ job :: after, finished⟩
        ⟨waiting, before ++ after, finished ++ [job]⟩

/-- A pool of so many workers can finish the jobs in the given order. -/
def Finishes (workers : Nat) (jobs finished : List α) : Prop :=
  Relation.ReflTransGen (Step workers) ⟨jobs, [], []⟩ ⟨[], [], finished⟩

/-- All jobs of a pool, whatever became of them. -/
def jobs (p : Pool α) : List α :=
  p.finished ++ (p.running ++ p.waiting)

/-- No step loses a job or does one twice. -/
theorem Step.perm_jobs {p q : Pool α} (h : Step workers p q) : q.jobs.Perm p.jobs := by
  cases h with
  | start => simp [jobs]
  | finish waiting before job after finished =>
    have hmoved : (job :: (before ++ after ++ waiting)).Perm (before ++ job :: after ++ waiting) :=
      (List.perm_middle.symm : (job :: (before ++ after)).Perm _).append_right waiting
    simpa [jobs] using hmoved.append_left finished

/-- A pool that is done has finished each of its jobs once. -/
theorem Finishes.perm {jobs finished : List α} (h : Finishes workers jobs finished) :
    finished.Perm jobs := by
  have hrun : ∀ {p q : Pool α}, Relation.ReflTransGen (Step workers) p q → q.jobs.Perm p.jobs := by
    intro p q hpq
    induction hpq with
    | refl => exact .refl _
    | tail _ hstep ih => exact hstep.perm_jobs.trans ih
  simpa [Pool.jobs] using hrun h

/-- Every pool can finish its jobs in the order in which it starts them. -/
theorem finishes_self (workers : Nat) (jobs : List α) : Finishes workers jobs jobs := by
  have hrun : ∀ waiting finished : List α, Relation.ReflTransGen (Step workers)
      ⟨waiting, [], finished⟩ ⟨[], [], finished ++ waiting⟩ := by
    intro waiting
    induction waiting with
    | nil =>
      intro finished
      rw [List.append_nil]
    | cons job waiting ih =>
      intro finished
      have hstart : Step workers ⟨job :: waiting, [], finished⟩ ⟨waiting, [job], finished⟩ :=
        .start job waiting [] finished (by simp)
      have hfinish : Step workers ⟨waiting, [job], finished⟩ ⟨waiting, [], finished ++ [job]⟩ :=
        .finish waiting [] job [] finished
      simpa using (ih (finished ++ [job])).head hfinish |>.head hstart
  simpa [Finishes] using hrun jobs []

end Pool

namespace Batch

/-! ## Collecting reports -/

/-- Reports in increasing order of their paths, so that no path is there twice. -/
def Increasing (reports : List Report) : Prop :=
  reports.Pairwise fun q r => q.path < r.path

/-- The report put in is there, and the others but for the one that it replaces. -/
theorem mem_insert {r x : Report} : ∀ {qs : List Report}, Increasing qs →
    (x ∈ insert r qs ↔ x = r ∨ x ∈ qs ∧ x.path ≠ r.path)
  | [], _ => by simp [insert]
  | q :: qs, h => by
    obtain ⟨hq, hqs⟩ := List.pairwise_cons.mp h
    have ih := mem_insert (r := r) (x := x) hqs
    unfold insert
    split_ifs with hlt heq
    · -- Every report of the list has a greater path, so none is replaced.
      have hne : ∀ y ∈ q :: qs, y.path ≠ r.path := by
        intro y hy
        rcases List.mem_cons.mp hy with rfl | hy
        · exact hlt.ne'
        · exact (hlt.trans (hq y hy)).ne'
      rw [List.mem_cons]
      exact or_congr_right ⟨fun hx => ⟨hx, hne x hx⟩, And.left⟩
    · have hne : ∀ y ∈ qs, y.path ≠ r.path := fun y hy => heq ▸ (hq y hy).ne'
      rw [List.mem_cons, List.mem_cons]
      refine or_congr_right ⟨fun hx => ⟨.inr hx, hne x hx⟩, ?_⟩
      rintro ⟨rfl | hx, hpath⟩
      · exact absurd heq.symm hpath
      · exact hx
    · have hpath : q.path ≠ r.path := fun h => heq h.symm
      rw [List.mem_cons, List.mem_cons, ih]
      constructor
      · rintro (rfl | rfl | ⟨hx, hne⟩)
        · exact .inr ⟨.inl rfl, hpath⟩
        · exact .inl rfl
        · exact .inr ⟨.inr hx, hne⟩
      · rintro (rfl | ⟨rfl | hx, hne⟩)
        · exact .inr (.inl rfl)
        · exact .inl rfl
        · exact .inr (.inr ⟨hx, hne⟩)

/-- Reports stay in the order of their paths, no path twice. -/
theorem increasing_insert (r : Report) : ∀ {qs : List Report}, Increasing qs →
    Increasing (insert r qs)
  | [], _ => by simp [insert, Increasing]
  | q :: qs, h => by
    obtain ⟨hq, hqs⟩ := List.pairwise_cons.mp h
    unfold insert
    split_ifs with hlt heq
    · refine List.pairwise_cons.mpr ⟨fun x hx => ?_, h⟩
      rcases List.mem_cons.mp hx with rfl | hx
      · exact hlt
      · exact hlt.trans (hq x hx)
    · exact List.pairwise_cons.mpr ⟨fun x hx => heq ▸ hq x hx, hqs⟩
    · refine List.pairwise_cons.mpr ⟨fun x hx => ?_, increasing_insert r hqs⟩
      rcases (mem_insert hqs).mp hx with rfl | ⟨hx, _⟩
      · exact lt_of_le_of_ne (not_lt.mp hlt) fun h => heq h.symm
      · exact hq x hx

theorem collect_concat (finished : List Report) (r : Report) :
    collect (finished ++ [r]) = insert r (collect finished) := by
  simp [collect]

/-- The collected reports are in the order of their paths, whatever order they came in. -/
theorem increasing_collect (finished : List Report) : Increasing (collect finished) := by
  induction finished using List.reverseRecOn with
  | nil => exact .nil
  | append_singleton finished r ih =>
    rw [collect_concat]
    exact increasing_insert r ih

/-- A report is the last one with its path. -/
def IsLast (r : Report) (finished : List Report) : Prop :=
  ∃ before after, finished = before ++ r :: after ∧ ∀ q ∈ after, q.path ≠ r.path

/-- The last report on a path is the new one, or the last one so far on another path. -/
theorem isLast_concat {r x : Report} {finished : List Report} :
    IsLast x (finished ++ [r]) ↔ x = r ∨ IsLast x finished ∧ x.path ≠ r.path := by
  constructor
  · rintro ⟨before, after, heq, hlast⟩
    rcases List.eq_nil_or_concat after with rfl | ⟨after, q, rfl⟩
    · exact .inl (List.singleton_inj.mp (List.append_inj' heq rfl).2).symm
    · have hsplit : finished ++ [r] = (before ++ x :: after) ++ [q] := by simpa using heq
      obtain ⟨hfinished, hr⟩ := List.append_inj' hsplit rfl
      obtain rfl := List.singleton_inj.mp hr
      exact .inr ⟨⟨before, after, hfinished, fun y hy => hlast y (by simp [hy])⟩,
        (hlast r (by simp)).symm⟩
  · rintro (rfl | ⟨⟨before, after, rfl, hlast⟩, hne⟩)
    · exact ⟨finished, [], rfl, by simp⟩
    · refine ⟨before, after ++ [r], by simp, fun q hq => ?_⟩
      rcases List.mem_append.mp hq with hq | hq
      · exact hlast q hq
      · exact List.mem_singleton.mp hq ▸ hne.symm

/-- A path that is finished more than once keeps its last report. -/
theorem mem_collect {x : Report} {finished : List Report} :
    x ∈ collect finished ↔ IsLast x finished := by
  induction finished using List.reverseRecOn with
  | nil => simp [collect, IsLast]
  | append_singleton finished r ih =>
    rw [collect_concat, mem_insert (increasing_collect finished), isLast_concat, ih]

/-- Every path that was finished has a last report. -/
theorem exists_isLast {path : String} {finished : List Report}
    (h : ∃ r ∈ finished, r.path = path) : ∃ r, IsLast r finished ∧ r.path = path := by
  induction finished using List.reverseRecOn with
  | nil => simp at h
  | append_singleton finished q ih =>
    by_cases hq : q.path = path
    · exact ⟨q, isLast_concat.mpr (.inl rfl), hq⟩
    · obtain ⟨r, hr, hpath⟩ := h
      rcases List.mem_append.mp hr with hr | hr
      · obtain ⟨x, hx, hxpath⟩ := ih ⟨r, hr, hpath⟩
        exact ⟨x, isLast_concat.mpr (.inr ⟨hx, fun h => hq (h ▸ hxpath)⟩), hxpath⟩
      · exact absurd (List.mem_singleton.mp hr ▸ hpath) hq

theorem IsLast.mem {r : Report} {finished : List Report} (h : IsLast r finished) :
    r ∈ finished := by
  obtain ⟨before, after, rfl, -⟩ := h
  simp

/-- Where paths are distinct, no report is replaced. -/
theorem isLast_iff_mem {r : Report} {finished : List Report}
    (h : (finished.map Report.path).Nodup) : IsLast r finished ↔ r ∈ finished := by
  refine ⟨IsLast.mem, fun hr => ?_⟩
  obtain ⟨before, after, rfl⟩ := List.append_of_mem hr
  refine ⟨before, after, rfl, fun q hq hpath => ?_⟩
  rw [List.map_append, List.map_cons, List.nodup_append, List.nodup_cons] at h
  exact h.2.1.1 (hpath ▸ List.mem_map_of_mem hq)

/-- Two lists in strict order with the same members are the same. -/
theorem eq_of_increasing {qs rs : List Report} (hqs : Increasing qs) (hrs : Increasing rs)
    (h : ∀ x, x ∈ qs ↔ x ∈ rs) : qs = rs := by
  have : Std.Antisymm fun q r : Report => q.path < r.path :=
    ⟨fun _ _ hqr hrq => absurd hqr hrq.asymm⟩
  have : Std.Irrefl fun q r : Report => q.path < r.path := ⟨fun _ => lt_irrefl _⟩
  exact List.Pairwise.eq_of_mem_iff hqs hrs h

/-! ## Batches -/

/-- The path of the report on a job, whatever becomes of it. -/
def pathOf (root : String) (job : String × Attempt) : String :=
  Path.normalize root job.1

@[simp] theorem path_reportOf (root : String) (seconds : Nat) (job : String × Attempt) :
    (reportOf root seconds job.1 job.2).path = pathOf root job :=
  rfl

variable {root : String} {seconds workers : Nat} {jobs finished : List (String × Attempt)}

theorem reports_ofFinished : (ofFinished root seconds finished).reports =
    collect (finished.map fun job => reportOf root seconds job.1 job.2) :=
  rfl

theorem map_path_reportOf : (finished.map fun job => reportOf root seconds job.1 job.2).map
    Report.path = finished.map (pathOf root) := by
  rw [List.map_map]
  rfl

/-- The reports are on the jobs after which none with the same path was finished. -/
theorem mem_reports_iff {r : Report} : r ∈ (ofFinished root seconds finished).reports ↔
    ∃ before job after, finished = before ++ job :: after ∧
      r = reportOf root seconds job.1 job.2 ∧
        ∀ later ∈ after, pathOf root later ≠ pathOf root job := by
  rw [reports_ofFinished, mem_collect]
  constructor
  · rintro ⟨before, after, heq, hlast⟩
    obtain ⟨jobsBefore, rest, rfl, rfl, hrest⟩ := List.map_eq_append_iff.mp heq
    obtain ⟨job, jobsAfter, rfl, rfl, rfl⟩ := List.map_eq_cons_iff.mp hrest
    refine ⟨jobsBefore, job, jobsAfter, rfl, rfl, fun later hlater => ?_⟩
    have hne := hlast _ (List.mem_map_of_mem hlater)
    rwa [path_reportOf, path_reportOf] at hne
  · rintro ⟨before, job, after, rfl, rfl, hlast⟩
    refine ⟨_, _, List.map_append, fun q hq => ?_⟩
    obtain ⟨later, hlater, rfl⟩ := List.mem_map.mp hq
    rw [path_reportOf, path_reportOf]
    exact hlast later hlater

/-- The paths of the reports are those of the jobs. -/
theorem exists_mem_reports_iff (h : Pool.Finishes workers jobs finished) (path : String) :
    (∃ r ∈ (ofFinished root seconds finished).reports, r.path = path) ↔
      ∃ job ∈ jobs, pathOf root job = path := by
  constructor
  · rintro ⟨r, hr, rfl⟩
    obtain ⟨before, job, after, rfl, rfl, -⟩ := mem_reports_iff.mp hr
    exact ⟨job, h.perm.mem_iff.mp (by simp), (path_reportOf root seconds job).symm⟩
  · rintro ⟨job, hjob, rfl⟩
    have hfinished := List.mem_map_of_mem (f := fun job => reportOf root seconds job.1 job.2)
      (h.perm.mem_iff.mpr hjob)
    obtain ⟨r, hr, hpath⟩ := exists_isLast ⟨_, hfinished, path_reportOf root seconds job⟩
    exact ⟨r, mem_collect.mpr hr, hpath⟩

/-- The reports of a batch are in strict order of their paths. -/
theorem increasing_reports : Increasing (ofFinished root seconds finished).reports :=
  increasing_collect _

/-- Where no two jobs share a path, each has its report, and the pool has no say in them. -/
theorem mem_reports_iff_of_nodup (h : Pool.Finishes workers jobs finished)
    (hnodup : (jobs.map (pathOf root)).Nodup) {r : Report} :
    r ∈ (ofFinished root seconds finished).reports ↔
      ∃ job ∈ jobs, reportOf root seconds job.1 job.2 = r := by
  have hpaths : ((finished.map fun job => reportOf root seconds job.1 job.2).map
      Report.path).Nodup := by
    rw [map_path_reportOf]
    exact (h.perm.map (pathOf root)).nodup_iff.mpr hnodup
  rw [reports_ofFinished, mem_collect, isLast_iff_mem hpaths, List.mem_map]
  exact exists_congr fun job => and_congr_left fun _ => h.perm.mem_iff

/-- Where no two jobs share a path, the reports with the path of a job are those it has alone. -/
theorem filter_reports_of_nodup (h : Pool.Finishes workers jobs finished)
    (hnodup : (jobs.map (pathOf root)).Nodup) {job : String × Attempt} (hjob : job ∈ jobs) :
    ((ofFinished root seconds finished).reports.filter fun r => r.path = pathOf root job) =
      (ofFinished root seconds [job]).reports := by
  refine eq_of_increasing (increasing_reports.filter _) increasing_reports fun r => ?_
  have hone : r ∈ (ofFinished root seconds [job]).reports ↔
      r = reportOf root seconds job.1 job.2 := List.mem_singleton
  rw [List.mem_filter, mem_reports_iff_of_nodup h hnodup, hone, decide_eq_true_iff]
  constructor
  · rintro ⟨⟨other, hother, rfl⟩, hpath⟩
    rw [path_reportOf] at hpath
    rw [List.inj_on_of_nodup_map hnodup hother hjob hpath]
  · rintro rfl
    exact ⟨⟨job, hjob, rfl⟩, path_reportOf root seconds job⟩

/-- Whatever the pool and the order in which it finishes the jobs, the reports have increasing
paths, in the order of their bytes, those of the jobs, and the report on a path is that of the job
with the path that was finished last. Where no two jobs share a path, neither the number of workers
nor the order matters, and each job has the report that it has alone. -/
theorem reports_of_finishes (h : Pool.Finishes workers jobs finished) :
    let reports := (ofFinished root seconds finished).reports
    (reports.Pairwise fun q r => Text.encode q.path < Text.encode r.path) ∧
      (∀ path, (∃ r ∈ reports, r.path = path) ↔ ∃ job ∈ jobs, Path.normalize root job.1 = path) ∧
      (∀ r ∈ reports, ∃ before job after, finished = before ++ job :: after ∧
        r = reportOf root seconds job.1 job.2 ∧
          ∀ later ∈ after, Path.normalize root later.1 ≠ Path.normalize root job.1) ∧
      ((jobs.map fun job => Path.normalize root job.1).Nodup →
        (∀ otherWorkers otherFinished, Pool.Finishes otherWorkers jobs otherFinished →
          (ofFinished root seconds otherFinished).reports = reports) ∧
        ∀ job ∈ jobs, ∀ aloneWorkers aloneFinished, Pool.Finishes aloneWorkers [job] aloneFinished →
          (reports.filter fun r => r.path = Path.normalize root job.1) =
            (ofFinished root seconds aloneFinished).reports) := by
  intro reports
  refine ⟨increasing_reports.imp Text.encode_lt_encode, exists_mem_reports_iff h,
    fun r hr => mem_reports_iff.mp hr, fun hnodup => ⟨?_, ?_⟩⟩
  · intro otherWorkers otherFinished hother
    refine eq_of_increasing increasing_reports increasing_reports fun r => ?_
    rw [mem_reports_iff_of_nodup hother hnodup, mem_reports_iff_of_nodup h hnodup]
  · intro job hjob aloneWorkers aloneFinished halone
    rw [List.perm_singleton.mp halone.perm]
    exact filter_reports_of_nodup h hnodup hjob

/-- A worker is lost on the file that comes first, and the other file is finished before it. -/
theorem reports_of_finishes_two_workers :
    let jobs := [("src/b.php", .lost "boom"), ("src/a.php", .answered (.ok ""))]
    Pool.Finishes 2 jobs jobs.reverse ∧
      (jobs.map fun job => Path.normalize "src" job.1).Nodup ∧
        (ofFinished "src" 30 jobs).reports = (ofFinished "src" 30 jobs.reverse).reports := by
  intro jobs
  have hrun : Pool.Finishes 2 jobs jobs.reverse :=
    .head (.start _ _ [] _ (by decide)) <|
      .head (.start _ _ [_] _ (by decide)) <|
        .head (.finish _ [_] _ [] _) <|
          .single (.finish _ [] _ [] [_])
  have hnodup : (jobs.map fun job => Path.normalize "src" job.1).Nodup := by
    decide +kernel
  obtain ⟨-, -, -, hdistinct⟩ := @reports_of_finishes "src" 30 2 jobs jobs.reverse hrun
  exact ⟨hrun, hnodup, (hdistinct hnodup).1 1 jobs (Pool.finishes_self 1 jobs)⟩

/-! ## Accounting -/

theorem processed_add_failed (b : Batch) : b.processed + b.failed = b.reports.length :=
  Nat.sub_add_cancel (List.length_filter_le _ _)

/-- There is one report for each path. -/
theorem perm_paths_reports (h : Pool.Finishes workers jobs finished) :
    ((ofFinished root seconds finished).reports.map Report.path).Perm
      (jobs.map (pathOf root)).dedup := by
  have hnodup : ((ofFinished root seconds finished).reports.map Report.path).Nodup :=
    (List.pairwise_map.mpr increasing_reports).imp ne_of_lt
  refine (List.perm_ext_iff_of_nodup hnodup (List.nodup_dedup _)).mpr fun path => ?_
  rw [List.mem_dedup, List.mem_map, List.mem_map]
  exact exists_mem_reports_iff h path

/-- A batch has as many reports as its jobs have different paths. -/
theorem length_reports (h : Pool.Finishes workers jobs finished) :
    (ofFinished root seconds finished).reports.length = (jobs.map (pathOf root)).dedup.length := by
  simpa using (perm_paths_reports h).length_eq

theorem length_dedup_eq_iff {α : Type} [DecidableEq α] {xs : List α} :
    xs.dedup.length = xs.length ↔ xs.Nodup :=
  ⟨fun h => List.dedup_eq_self.mp ((List.dedup_sublist xs).eq_of_length h),
    fun h => by rw [h.dedup]⟩

/-- The total of a batch counts its jobs and the other two numbers count its reports, one for each
path. They agree exactly if no two jobs share a path. -/
theorem processed_add_failed_eq (h : Pool.Finishes workers jobs finished) :
    let b := ofFinished root seconds finished
    let paths := jobs.map fun job => Path.normalize root job.1
    b.total = jobs.length ∧ b.processed + b.failed = b.reports.length ∧
      b.reports.length = paths.dedup.length ∧
        (b.processed + b.failed = b.total ↔ paths.Nodup) := by
  intro b paths
  have htotal : b.total = jobs.length := h.perm.length_eq
  have hreports : b.reports.length = paths.dedup.length := length_reports h
  refine ⟨htotal, processed_add_failed b, hreports, ?_⟩
  have hpaths : jobs.length = paths.length := (List.length_map _).symm
  rw [processed_add_failed, hreports, htotal, hpaths, length_dedup_eq_iff]

/-- A file that is listed twice is counted once, also where it ends in two ways. -/
theorem processed_add_failed_eq_listed_twice :
    let jobs := [("src/a.php", .overran), ("src/a.php", .answered (.ok ""))]
    let b := ofFinished "src" 30 jobs
    Pool.Finishes 4 jobs jobs ∧ b.total = 2 ∧ b.processed + b.failed ≠ b.total := by
  intro jobs b
  have hrun : Pool.Finishes 4 jobs jobs := Pool.finishes_self 4 jobs
  obtain ⟨htotal, -, -, hiff⟩ := @processed_add_failed_eq "src" 30 4 jobs jobs hrun
  exact ⟨hrun, htotal, fun heq => absurd (hiff.mp heq) (by decide +kernel)⟩

/-- A file whose name has a backslash in it shares its path with a file in a folder, and one of the
two is in no report. -/
theorem not_forall_processed_add_failed_eq_total :
    ¬∀ (root : String) (seconds workers : Nat) (jobs finished : List (String × Attempt)),
      Pool.Finishes workers jobs finished →
        let b := ofFinished root seconds finished
        b.processed + b.failed = b.total ∧ b.reports.length = jobs.length := by
  intro h
  let jobs : List (String × Attempt) :=
    [("lib\\b.php", .answered (.ok "")), ("lib/b.php", .answered (.ok ""))]
  have hlength := (h "" 30 1 jobs jobs (Pool.finishes_self 1 jobs)).2
  have hone : (ofFinished "" 30 jobs).reports.length = 1 := by
    decide +kernel
  rw [hone] at hlength
  cases hlength

end Batch

end SourceSig
