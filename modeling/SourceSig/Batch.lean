import SourceSig.Loader

/-!
# Batches

Reports on many files. Workers finish files in any order; the reports are collected by path, and a
path that is finished twice keeps the later report. A file that takes too long, or whose worker is
lost, fails alone.
-/

namespace SourceSig

/-- What became of the attempt at one file. -/
inductive Attempt where
  | answered (outcome : Except Failure String)
  | overran
  | lost (message : String)

/-- The outcome of an attempt at the file with the report path, within a number of seconds. -/
def Attempt.outcome (path : String) (seconds : Nat) : Attempt → Except Failure String
  | .answered outcome => outcome
  | .overran => .error (.timedOut path seconds)
  | .lost message => .error (.workerLost path message)

/-- The outcome of a batch: how many files there were, and the reports on them. -/
structure Batch where
  total : Nat
  reports : List Report

namespace Batch

/-- Reports in increasing order of their paths with one more put in, in place of the one with its
path if there is one. -/
def insert (r : Report) : List Report → List Report
  | [] => [r]
  | q :: qs =>
    if r.path < q.path then r :: q :: qs
    else if r.path = q.path then r :: qs
    else q :: insert r qs

/-- The reports of a batch from those that were finished, in the order in which they were. -/
def collect (finished : List Report) : List Report :=
  finished.foldl (fun reports r => insert r reports) []

/-- The report on an attempt at a file. -/
def reportOf (root : String) (seconds : Nat) (file : String) (attempt : Attempt) : Report :=
  let path := Path.normalize root file
  ⟨path, attempt.outcome path seconds⟩

/-- A batch whose files were finished in the given order. -/
def ofFinished (root : String) (seconds : Nat) (finished : List (String × Attempt)) : Batch where
  total := finished.length
  reports := collect (finished.map fun (file, attempt) => reportOf root seconds file attempt)

/-- How many of the reports are errors. -/
def failed (b : Batch) : Nat :=
  (b.reports.filter fun r => !r.isOk).length

/-- How many of the reports have a signature. -/
def processed (b : Batch) : Nat :=
  b.reports.length - b.failed

/-- The attempt at a file within a number of milliseconds. -/
def attempt (host : Host) (source : TreeSource) (budget : Nat) (file : String) : Attempt :=
  if budget < source.millis host file then .overran
  else .answered (outcomeOf (source.load host file))

/-- The batch of the files of a source, finished in the order of the list, where each file has a
number of milliseconds. -/
def run (host : Host) (source : TreeSource) (root : String) (budget : Nat) (files : List String) :
    Batch :=
  ofFinished root (budget / 1000) (files.map fun file => (file, attempt host source budget file))

end Batch

end SourceSig
