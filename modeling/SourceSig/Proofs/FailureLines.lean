import SourceSig.Batch
import SourceSig.Service.Api
import SourceSig.Proofs.NumberText
import SourceSig.Proofs.Outcomes

/-!
# The lines of failures

The report on a file that fails is its message, its path and a line number. A report is cut into
lines by those who read it, so the message has to stay on one. Every text of the program's own does:
the faults of a dump, which show what they found with its line feeds escaped, the causes of a file
that cannot be read, and the path in a report. What a parser program wrote, the tag of a node and
the message of a lost worker come from outside and are repeated as they are.

`Report.oneLine_text_iff_not_breaksLine` : the report on a file that fails, whose path has no line
feed, is one line of a whole report exactly if no text from outside breaks it (`BreaksLine`).
-/

namespace SourceSig

namespace Text

/-- The text has no line feed. -/
def OneLine (s : String) : Prop :=
  '\n' ∉ s.toList

instance : DecidablePred OneLine := fun s => inferInstanceAs (Decidable ('\n' ∉ s.toList))

/-- A text put together has no line feed if none of its parts has one. -/
@[simp] theorem oneLine_append {s t : String} : OneLine (s ++ t) ↔ OneLine s ∧ OneLine t := by
  simp [OneLine]

@[simp] theorem oneLine_ofList {cs : List Char} : OneLine (String.ofList cs) ↔ '\n' ∉ cs := by
  simp [OneLine]

/-! ## Cutting into lines -/

section Lines

variable {α : Type} {isEnd : α → Bool} {e : α}

/-- A text with an end mark after it has a first line. -/
theorem exists_linesBy_append_eq (isEnd : α → Bool) (s : List α) (e : α) :
    ∃ line rest, linesBy isEnd (s ++ [e]) = line :: rest := by
  refine List.exists_cons_of_ne_nil fun hnil => ?_
  have hflatten := flatten_linesBy isEnd (s ++ [e])
  rw [hnil] at hflatten
  simp at hflatten

/-- What is ended does not run into what follows. -/
theorem linesBy_append_end (he : isEnd e) (s t : List α) :
    linesBy isEnd (s ++ e :: t) = linesBy isEnd (s ++ [e]) ++ linesBy isEnd t := by
  induction s with
  | nil => simp [linesBy, he]
  | cons c s ih =>
    by_cases hc : isEnd c
    · simp [linesBy, hc, ih]
    · obtain ⟨line, rest, h⟩ := exists_linesBy_append_eq isEnd s e
      simp [linesBy, hc, ih, h]

/-- A text and an end mark are one line exactly if there is no end mark in the text. -/
theorem linesBy_append_singleton_iff (he : isEnd e) {s : List α} :
    linesBy isEnd (s ++ [e]) = [s ++ [e]] ↔ ∀ c ∈ s, isEnd c = false := by
  induction s with
  | nil => simp [linesBy, he]
  | cons c s ih =>
    by_cases hc : isEnd c
    · simp [linesBy, hc]
    · obtain ⟨line, rest, h⟩ := exists_linesBy_append_eq isEnd s e
      simp only [h] at ih
      simp [linesBy, hc, h, ← ih]

end Lines

/-- Printed with a line feed after it, a text is one line exactly if it has no line feed. -/
theorem lines_append_lineFeed_iff {s : String} :
    lines (s ++ "\n").toList = [(s ++ "\n").toList] ↔ OneLine s := by
  rw [String.toList_append]
  refine (linesBy_append_singleton_iff (by decide)).trans ⟨fun h hmem => ?_, fun h c hc => ?_⟩
  · simpa using h _ hmem
  · exact decide_eq_false fun heq => h (heq ▸ hc)

/-! ## Texts of the program's own -/

/-- No character of a number is a line feed. -/
theorem oneLine_of_isNumberChar {s : String} (h : ∀ c ∈ s.toList, isNumberChar c) : OneLine s :=
  fun hmem => absurd (h _ hmem) (by decide)

theorem oneLine_natText (n : Nat) : OneLine (toString n) :=
  oneLine_of_isNumberChar fun _ hc => isNumberChar_of_isDigit (isDigit_of_mem_toString hc)

theorem oneLine_intText (i : Int) : OneLine (toString i) := by
  refine oneLine_of_isNumberChar fun c hc => ?_
  rcases of_mem_int_toString hc with h | rfl
  · exact isNumberChar_of_isDigit h
  · decide

theorem oneLine_writeFloat (x : Binary64) : OneLine (Json.writeFloat x) := by
  have hplus : ∀ c ∈ Json.numberLayout.plus.toList, c = '+' := by simp [Json.numberLayout]
  have hwrite : OneLine (Json.numberLayout.write (x.shortest Json.numberLayout.tie)) :=
    oneLine_of_isNumberChar fun _ hc =>
      (Layout.isDecimalText_write rfl hplus _).isNumberChar_of_mem hc
  rw [Json.writeFloat]
  split
  · rw [Layout.writeFinite, oneLine_append]
    refine ⟨?_, hwrite⟩
    split <;> simp [OneLine]
  · simp [OneLine]

theorem lineFeed_not_mem_toDigits (n : Nat) : '\n' ∉ Nat.toDigits 16 n := by
  induction n using Nat.strongRecOn with
  | ind n ih =>
    have hdigit (k : Nat) (hk : k < 16) : '\n' ≠ Nat.digitChar k := by
      interval_cases k <;> decide
    by_cases hn : n < 16
    · rw [Nat.toDigits_of_lt_base hn]
      simp [hdigit n hn]
    · rw [Nat.toDigits_of_base_le (by omega) (by omega)]
      simp [ih (n / 16) (by omega), hdigit _ (Nat.mod_lt n (show 0 < 16 by omega))]

/-- A diagnostic shows a line feed by its escape. -/
theorem lineFeed_not_mem_showChar (c : Char) : '\n' ∉ showChar c := by
  unfold showChar
  split_ifs with h1 h2 h3
  all_goals simp
  all_goals first
    | exact lineFeed_not_mem_toDigits _
    | exact fun h => h3 h.symm

/-- A shown text has its line feeds as escapes. -/
theorem oneLine_showText (s : String) : OneLine (showText s) := by
  rw [showText, oneLine_ofList]
  simp [lineFeed_not_mem_showChar]

end Text

open Text (OneLine)

/-! ## Faults of the program's own -/

theorem Json.ReadError.oneLine_message (fault : ReadError) : OneLine fault.message := by
  cases fault <;> simp [OneLine, message]

theorem FormatError.oneLine_message (fault : FormatError) : OneLine fault.message := by
  have hsort (found : Json.Sort) : OneLine found.describe := by
    cases found <;> simp [OneLine, Json.Sort.describe]
  cases fault with
  | notAnObject found => exact Text.oneLine_append.mpr ⟨by simp [OneLine], hsort found⟩
  | tagNotText found => exact Text.oneLine_append.mpr ⟨by simp [OneLine], hsort found⟩
  | noTag =>
    change OneLine "node object without nodeType"
    simp [OneLine]

/-- What was found is named without a line feed, also where it is a text that has one. -/
theorem Found.oneLine_describe (found : Found) : OneLine found.describe := by
  cases found with
  | null | sequence | map => decide
  | bool b => cases b <;> decide
  | number n =>
    cases n with
    | int i =>
      change OneLine ("integer `" ++ toString i ++ "`")
      simp only [Text.oneLine_append]
      exact ⟨⟨by simp [OneLine], Text.oneLine_intText i⟩, by simp [OneLine]⟩
    | float x =>
      change OneLine ("floating point `" ++ Json.writeFloat x ++ "`")
      simp only [Text.oneLine_append]
      exact ⟨⟨by simp [OneLine], Text.oneLine_writeFloat x⟩, by simp [OneLine]⟩
  | text s => exact Text.oneLine_append.mpr ⟨by simp [OneLine], Text.oneLine_showText s⟩

section Dump

variable {α : Type}

/-- A property of all faults of the text holds of what the lifted reader complains about. -/
theorem onError_liftRead {p : DecodeError → Prop} (hp : ∀ fault, p (.malformed fault))
    (read : Except Json.ReadError α) : OnError p (liftRead read) :=
  OnError.mapError fun fault _ => hp fault

/-- If each element can only fail with a property, so can all of them. The induction follows the
reading of one element after the other. -/
theorem onError_readElements {p : DecodeError → Prop} (hp : ∀ fault, p (.malformed fault))
    {readOne : (s : Text.Bytes) → Except DecodeError (α × Json.Rest s)}
    (hone : ∀ s, OnError p (readOne s)) (first : Bool) (acc : List α) (s : Text.Bytes) :
    OnError p (readElements readOne first acc s) := by
  -- The induction is on the length: an element is taken off the front at each turn.
  induction h : s.length using Nat.strongRecOn generalizing first acc s with
  | ind n ih =>
    rw [readElements]
    refine (onError_liftRead hp _).bind fun item => ?_
    cases item with
    | done rest => exact onError_ok _
    | more here =>
      refine (hone _).bind fun ⟨a, rest⟩ => ?_
      have hshorter : rest.1.length < n := h ▸ (here.then rest).2
      exact (ih _ hshorter _ _ _ rfl).bind fun _ => onError_ok _

theorem oneLine_mismatch (found : Found) {wanted : Wanted} (h : OneLine wanted.describe) :
    OneLine (DecodeError.mismatch found wanted).message := by
  change OneLine ("invalid type: " ++ found.describe ++ ", expected " ++ wanted.describe)
  simp only [Text.oneLine_append]
  exact ⟨⟨⟨by simp [OneLine], found.oneLine_describe⟩, by simp [OneLine]⟩, h⟩

/-- The fault at a value of the wrong sort is on one line, whatever the value is. -/
theorem oneLine_mismatchAt {wanted : Wanted} (h : OneLine wanted.describe) (s : Text.Bytes) :
    OneLine (mismatchAt wanted s).message := by
  have hmismatch (found : Found) := oneLine_mismatch found h
  unfold mismatchAt
  split
  · exact Json.ReadError.oneLine_message _
  · split_ifs
    · exact hmismatch _
    · exact hmismatch _
    · split
      · exact Json.ReadError.oneLine_message _
      all_goals exact hmismatch _

/-- The fault of a text that is no dump. -/
theorem onError_readDump (bytes : Text.Bytes) :
    OnError (fun fault => OneLine fault.message) (readDump bytes) := by
  have hread (fault : Json.ReadError) : OneLine (DecodeError.malformed fault).message :=
    fault.oneLine_message
  have hnode (s : Text.Bytes) : OnError (fun fault => OneLine fault.message) (readNode s) := by
    refine (onError_liftRead hread _).bind fun ⟨v, rest⟩ => ?_
    dsimp only
    split
    · exact onError_ok _
    · exact onError_error (FormatError.oneLine_message _)
  refine OnError.bind ?_ fun _ => (onError_liftRead hread _).bind fun _ => onError_ok _
  unfold readSequence
  split
  · exact onError_error (Json.ReadError.oneLine_message _)
  · split_ifs
    · exact (onError_readElements hread hnode _ _ _).bind fun _ => onError_ok _
    · exact onError_error (oneLine_mismatchAt (by simp [OneLine, Wanted.describe]) _)

end Dump

/-- Only a cause that is told by the system can have several lines. -/
theorem IoError.oneLine_message {cause : IoError} (h : ∀ text, cause ≠ .other text) :
    OneLine cause.message := by
  cases cause with
  | other text => exact absurd rfl (h text)
  | _ => simp [OneLine, message]

namespace FileTree

theorem oneLine_missingCause (name : String) : OneLine (missingCause name).message := by
  unfold missingCause
  split_ifs <;> exact IoError.oneLine_message nofun

/-- Following segments fails with causes of one line only: those of the operating system. -/
theorem onError_follow : ∀ (segments : List Path.Segment) (place : Place),
    OnError (fun cause => OneLine cause.message) (follow segments place)
  | [], place => onError_ok place
  | s :: segments, place => by
    unfold follow
    split
    · split
      · split
        · exact onError_follow segments _
        · exact onError_error (oneLine_missingCause _)
      · split
        · exact onError_follow segments _
        · exact onError_error (IoError.oneLine_message nofun)
      · exact onError_follow segments _
    · exact onError_error (IoError.oneLine_message nofun)

/-- The cause of a path that leads nowhere. -/
theorem onError_lookup (tree : FileTree) (path : String) :
    OnError (fun cause => OneLine cause.message) (tree.lookup path) := by
  have hcause (cause : IoError) (h : OneLine cause.message) :
      OneLine (pathCause path cause).message := by
    unfold pathCause
    split_ifs
    · exact IoError.oneLine_message nofun
    · exact IoError.oneLine_message nofun
    · exact h
  refine OnError.mapError fun cause hfound => hcause cause ?_
  split_ifs at hfound
  · cases hfound
    exact IoError.oneLine_message nofun
  · exact onError_follow _ _ cause hfound

/-- The cause of a path at which there is no text. -/
theorem onError_textAt (tree : FileTree) (path : String) :
    OnError (fun cause => OneLine cause.message) (tree.textAt path) := by
  refine (onError_lookup tree path).bind fun place => OnError.bind ?_ fun bytes => ?_
  · cases place.tree with
    | file content => exact onError_ok content
    | dir entries => exact onError_error (IoError.oneLine_message nofun)
  · split
    · exact onError_ok _
    · exact onError_error (IoError.oneLine_message nofun)

end FileTree

/-! ## Paths -/

namespace Path

/-- Parts of a text without line feeds have none. -/
theorem lineFeed_not_mem_splitOn {cs : List Char} (h : '\n' ∉ cs) :
    ∀ s ∈ Text.splitOn '/' cs, '\n' ∉ s := by
  induction cs with
  | nil => simp [Text.splitOn]
  | cons c cs ih =>
    obtain ⟨hc, hcs⟩ := not_or.mp (mt List.mem_cons.mpr h)
    have ih := ih hcs
    rw [Text.splitOn]
    split
    · simpa using ih
    · split
      · simpa using hc
      · next part rest hsplit =>
        rw [hsplit] at ih
        simp only [List.forall_mem_cons] at ih ⊢
        exact ⟨by simpa using ⟨hc, ih.1⟩, ih.2⟩

theorem lineFeed_not_mem_join {segments : List Segment} (h : ∀ s ∈ segments, '\n' ∉ s) :
    '\n' ∉ join segments := by
  induction segments with
  | nil => simp [join]
  | cons s rest ih =>
    obtain ⟨hs, hrest⟩ := List.forall_mem_cons.mp h
    cases rest with
    | nil => simpa [join] using hs
    | cons t rest =>
      have ih := ih hrest
      simp only [join, List.intercalate_cons_cons, List.mem_append] at ih ⊢
      simp [hs, ih]

theorem mem_of_mem_dropEndWhile {α : Type} {p : α → Bool} {xs : List α} {a : α}
    (h : a ∈ Text.dropEndWhile p xs) : a ∈ xs := by
  rw [Text.dropEndWhile, List.mem_reverse] at h
  exact List.mem_reverse.mp ((List.dropWhile_suffix p).subset h)

/-- What is left after some components was there before. -/
theorem subset_of_after : ∀ {cs : List Component} {segments rest : List Segment},
    after cs segments = some rest → rest ⊆ segments
  | [], segments, rest, h => by
    rw [after, Option.some.injEq] at h
    exact h ▸ List.Subset.refl _
  | _ :: _, [], _, h => nomatch h
  | c :: cs, s :: segments, rest, h => by
    rw [after] at h
    split at h
    · exact List.subset_cons_of_subset s (subset_of_after h)
    · split_ifs at h
      exact List.subset_cons_of_subset s (subset_of_after h)

/-- The segments of a path on one line are on one line. -/
theorem lineFeed_not_mem_segments {path : String} (h : OneLine path) :
    ∀ s ∈ (parts path).segments, '\n' ∉ s := by
  unfold parts
  split
  · next rest heq =>
    rw [OneLine, heq] at h
    exact lineFeed_not_mem_splitOn (not_or.mp (mt List.mem_cons.mpr h)).2
  · exact lineFeed_not_mem_splitOn h

theorem lineFeed_not_mem_join_trimEnd {segments : List Segment} (h : ∀ s ∈ segments, '\n' ∉ s) :
    '\n' ∉ join (trimEnd segments) :=
  lineFeed_not_mem_join fun s hs => h s (mem_of_mem_dropEndWhile hs)

/-- A path on one line is so from any root. -/
theorem oneLine_relativeTo {root path relative : String} (h : OneLine path)
    (hrelative : relativeTo root path = some relative) : OneLine relative := by
  have hsegments := lineFeed_not_mem_segments h
  rw [relativeTo] at hrelative
  split at hrelative
  · -- The root has no components, and the whole path is kept.
    cases hrelative
    rw [Text.oneLine_ofList, Parts.wholeText]
    split
    · simpa using lineFeed_not_mem_join_trimEnd hsegments
    · refine lineFeed_not_mem_join (List.forall_mem_cons.mpr ⟨by decide, fun s hs => ?_⟩)
      exact hsegments s (List.drop_subset _ _ (mem_of_mem_dropEndWhile hs))
    · exact lineFeed_not_mem_join_trimEnd hsegments
  · obtain ⟨left, hleft, rfl⟩ := Option.map_eq_some_iff.mp hrelative
    rw [Text.oneLine_ofList]
    refine lineFeed_not_mem_join_trimEnd fun s hs => hsegments s ?_
    have hmem := (List.dropWhile_suffix _).subset hs
    split at hleft
    · split_ifs at hleft
      exact subset_of_after hleft hmem
    · exact subset_of_after hleft hmem

/-- The path in a report. -/
theorem oneLine_normalize (root : String) {path : String} (h : OneLine path) :
    OneLine (normalize root path) := by
  have hrelative : OneLine ((relativeTo root path).getD path) := by
    cases hr : relativeTo root path with
    | none => exact h
    | some relative => exact oneLine_relativeTo h hr
  rw [normalize, Text.oneLine_ofList]
  intro hmem
  have hmem := (List.dropWhile_suffix _).subset (mem_of_mem_dropEndWhile hmem)
  obtain ⟨c, hc, heq⟩ := List.mem_map.mp hmem
  split_ifs at heq
  · exact absurd heq (by decide)
  · exact hrelative (heq ▸ hc)

end Path

/-! ## Reports -/

/-- What a parser program says of a file: what it wrote as errors or, failing that, as output. -/
def Completion.complaint (c : Completion) : String :=
  let errors := Text.trim (Text.decodeLossy c.errors)
  if errors = "" then Text.trim (Text.decodeLossy c.output) else errors

/-- A parser that refuses a file has its whole complaint in the message. -/
theorem TreeSource.message_rejection (file : String) (c : Completion) :
    (rejection file c).message = "Failed to parse file: " ++ file ++ ": " ++ c.complaint :=
  rfl

namespace Report

/-- A report of a batch or of the service on a file whose path has no line feed. -/
inductive Made : Report → Prop
  | answered (host : Host) (source : TreeSource) (root : String) (seconds : Nat) {file : String}
      (hfile : OneLine file) :
      Made (Batch.reportOf root seconds file (.answered (outcomeOf (source.load host file))))
  | overran (root : String) (seconds : Nat) {file : String} (hfile : OneLine file) :
      Made (Batch.reportOf root seconds file .overran)
  | lost (root : String) (seconds : Nat) (message : String) {file : String}
      (hfile : OneLine file) : Made (Batch.reportOf root seconds file (.lost message))
  | uploaded {file : Upload} (hpath : OneLine file.path) : Made (Service.reportOf file)

/-- A report whose failure repeats a text from outside that has a line feed. -/
inductive BreaksLine (r : Report) : Prop
  /-- The parser program refuses the file in several lines. -/
  | refused {host : Host} {program file : String} {args : List String} {place : FileTree.Place}
      {c : Completion}
      (hr : r.outcome = outcomeOf ((TreeSource.command program args).load host file))
      (hfile : host.files.lookup file = .ok place)
      (hrun : host.run program (TreeSource.arguments args file) = .ok c)
      (hfailed : c.succeeded = false) (hbreak : ¬OneLine c.complaint)
  /-- The parser program cannot be run, and its name or the cause has several lines. -/
  | notRun {host : Host} {program file : String} {args : List String} {place : FileTree.Place}
      {cause : IoError}
      (hr : r.outcome = outcomeOf ((TreeSource.command program args).load host file))
      (hfile : host.files.lookup file = .ok place)
      (hrun : host.run program (TreeSource.arguments args file) = .error cause)
      (hbreak : ¬OneLine program ∨ ¬OneLine cause.message)
  /-- A node that is not supported has a tag of several lines. -/
  | unsupported {fault : Unsupported} (hr : r.outcome = .error (.unsupported fault))
      (hbreak : ¬OneLine fault.tag)
  /-- The worker was lost with a message of several lines. -/
  | lost {file message : String} (hr : r.outcome = .error (.workerLost file message))
      (hbreak : ¬OneLine message)

variable {r : Report} {failure : Failure}

/-- An error is reported with its message, the path of the file and a line, which is zero if none is
known. -/
theorem text_of_error (h : r.outcome = .error failure) :
    r.text = "ERROR: " ++ failure.message ++ " IN " ++ r.path ++ "#" ++
      toString ((failure.line.map UInt32.toNat).getD 0) := by
  rw [text, h]

/-- The report of an error is on one line exactly if its message and its path are. -/
theorem oneLine_text_iff (h : r.outcome = .error failure) :
    OneLine r.text ↔ OneLine failure.message ∧ OneLine r.path := by
  rw [text_of_error h]
  simp only [Text.oneLine_append, Text.oneLine_natText, and_true]
  have hstart : OneLine "ERROR: " := by simp [OneLine]
  have hmid : OneLine " IN " := by simp [OneLine]
  have hmark : OneLine "#" := by simp [OneLine]
  simp [hstart, hmid, hmark]

/-- Of an unsupported node only the tag can bring in a line feed. -/
theorem oneLine_message_unsupported (fault : Unsupported) :
    OneLine fault.message ↔ OneLine fault.tag := by
  have hconstruct : OneLine fault.construct.describe := by
    cases fault.construct <;> simp [OneLine, Construct.describe]
  have hstart : OneLine "Unsupported " := by simp [OneLine]
  have hcolon : OneLine ": " := by simp [OneLine]
  simp [Unsupported.message, hconstruct, hstart, hcolon]

/-- The lines of a whole report are those of its sections. -/
theorem lines_listText (reports : List Report) : Text.lines (listText reports).toList =
    reports.flatMap fun r => Text.lines (r.text ++ "\n").toList := by
  induction reports with
  | nil => rfl
  | cons r reports ih =>
    have hcons : (listText (r :: reports)).toList =
        r.text.toList ++ '\n' :: (listText reports).toList := by
      simp [listText]
    rw [hcons, List.flatMap_cons, ← ih, String.toList_append]
    exact Text.linesBy_append_end (by decide) _ _

/-- A report is one line of the whole report exactly if its text has no line feed. -/
theorem lines_listText_append_iff (before after : List Report) :
    Text.lines (listText (before ++ r :: after)).toList =
      Text.lines (listText before).toList ++
        (r.text ++ "\n").toList :: Text.lines (listText after).toList ↔ OneLine r.text := by
  rw [← Text.lines_append_lineFeed_iff]
  simp only [lines_listText, List.flatMap_append, List.flatMap_cons]
  rw [List.append_right_inj, ← List.singleton_append, List.append_left_inj]

/-! ### Which failures keep to one line -/

section Load

variable {host : Host} {source : TreeSource} {program file : String} {args : List String}
  {place : FileTree.Place}

theorem load_command (hfile : host.files.lookup file = .ok place) :
    (TreeSource.command program args).load host file =
      TreeSource.runParser host program args file := by
  simp only [TreeSource.load, hfile]

/-- A file that the parser program refuses is rejected with what the program wrote. -/
theorem load_of_refused {c : Completion} (hfile : host.files.lookup file = .ok place)
    (hrun : host.run program (TreeSource.arguments args file) = .ok c)
    (hfailed : c.succeeded = false) :
    (TreeSource.command program args).load host file = .error (TreeSource.rejection file c) := by
  simp [load_command hfile, TreeSource.runParser, hrun, hfailed]

/-- Where the parser program cannot be run, the file is rejected with the cause. -/
theorem load_of_notRun {cause : IoError} (hfile : host.files.lookup file = .ok place)
    (hrun : host.run program (TreeSource.arguments args file) = .error cause) :
    (TreeSource.command program args).load host file = .error (.unparsable file
      ("could not run parser `" ++ program ++ "`: " ++ cause.message) none) := by
  simp [load_command hfile, TreeSource.runParser, hrun]

/-- A rejection is on one line exactly if its complaint is. -/
theorem oneLine_message_unparsable {message : String} {line : Option UInt32}
    (hfile : OneLine file) :
    OneLine (Failure.unparsable file message line).message ↔ OneLine message := by
  have hstart : OneLine "Failed to parse file: " := by simp [OneLine]
  have hcolon : OneLine ": " := by simp [OneLine]
  change OneLine ("Failed to parse file: " ++ file ++ ": " ++ message) ↔ _
  simp [hstart, hcolon, hfile]

theorem oneLine_message_unreadable {cause : IoError} (hfile : OneLine file)
    (hcause : OneLine cause.message) : OneLine (Failure.unreadable file cause).message := by
  have hstart : OneLine "File " := by simp [OneLine]
  have hmid : OneLine " is not readable: " := by simp [OneLine]
  change OneLine ("File " ++ file ++ " is not readable: " ++ cause.message)
  simp [hstart, hmid, hfile, hcause]

/-- A dump that is no tree is complained about on one line, whatever is in it. -/
theorem onError_parseDump (hfile : OneLine file) (text : String) :
    OnError (fun failure => OneLine failure.message) (TreeSource.parseDump file text) := by
  have hstart : OneLine "invalid syntax tree dump: " := by simp [OneLine]
  unfold TreeSource.parseDump
  split
  · exact onError_ok _
  · next fault hread =>
    refine onError_error ((oneLine_message_unparsable hfile).mpr ?_)
    exact Text.oneLine_append.mpr ⟨hstart, onError_readDump _ fault hread⟩

/-- A file that cannot be loaded fails in one line, unless the parser program breaks it. -/
theorem breaksLine_of_load (hfile : OneLine file)
    (hr : r.outcome = outcomeOf (source.load host file))
    (hload : source.load host file = .error failure) (hbreak : ¬OneLine failure.message) :
    r.BreaksLine := by
  cases source with
  | dumps =>
    rw [TreeSource.load] at hload
    split at hload
    · exact absurd (onError_parseDump hfile _ failure hload) hbreak
    · next cause htext =>
      cases hload
      exact absurd (oneLine_message_unreadable hfile
        (FileTree.onError_textAt _ _ cause htext)) hbreak
  | command program args =>
    cases hlookup : host.files.lookup file with
    | error cause =>
      simp only [TreeSource.load, hlookup, Except.error.injEq] at hload
      subst hload
      exact absurd (oneLine_message_unreadable hfile
        (FileTree.onError_lookup _ _ cause hlookup)) hbreak
    | ok place =>
      cases hrun : host.run program (TreeSource.arguments args file) with
      | error cause =>
        rw [load_of_notRun hlookup hrun, Except.error.injEq] at hload
        subst hload
        refine .notRun hr hlookup hrun (not_and_or.mp fun h => hbreak ?_)
        have hstart : OneLine "could not run parser `" := by simp [OneLine]
        have hmid : OneLine "`: " := by simp [OneLine]
        simp [oneLine_message_unparsable hfile, hstart, hmid, h]
      | ok c =>
        cases hfailed : c.succeeded with
        | false =>
          rw [load_of_refused hlookup hrun hfailed, Except.error.injEq] at hload
          subst hload
          exact .refused hr hlookup hrun hfailed (mt (oneLine_message_unparsable hfile).mpr hbreak)
        | true =>
          simp only [load_command hlookup, TreeSource.runParser, hrun, hfailed, if_true] at hload
          exact absurd (onError_parseDump hfile _ failure hload) hbreak

end Load

/-- The program reports under paths of one line. -/
theorem Made.oneLine_path (h : r.Made) : OneLine r.path := by
  cases h with
  | answered _ _ root _ hfile | overran root _ hfile | lost root _ _ hfile =>
    exact Path.oneLine_normalize root hfile
  | uploaded hpath => exact hpath

theorem oneLine_message_timedOut {path : String} (hpath : OneLine path) (seconds : Nat) :
    OneLine (Failure.timedOut path seconds).message := by
  have hstart : OneLine "Timed out after " := by simp [OneLine]
  have hmid : OneLine "s processing " := by simp [OneLine]
  change OneLine ("Timed out after " ++ toString seconds ++ "s processing " ++ path)
  simp only [Text.oneLine_append]
  exact ⟨⟨⟨hstart, Text.oneLine_natText seconds⟩, hmid⟩, hpath⟩

/-- A lost worker is reported on one line exactly if it left a message of one line. -/
theorem oneLine_message_workerLost {path message : String} (hpath : OneLine path) :
    OneLine (Failure.workerLost path message).message ↔ OneLine message := by
  have hstart : OneLine "Worker failed processing " := by simp [OneLine]
  have hcolon : OneLine ": " := by simp [OneLine]
  change OneLine ("Worker failed processing " ++ path ++ ": " ++ message) ↔ _
  simp [hstart, hcolon, hpath]

/-- A message of several lines about a parsed file repeats the tag of a node. -/
theorem breaksLine_of_signatureText {statements : List Node}
    (hr : r.outcome = (signatureText statements).mapError .unsupported)
    (h : r.outcome = .error failure) (hbreak : ¬OneLine failure.message) : r.BreaksLine := by
  cases hsig : signatureText statements with
  | ok text =>
    rw [hsig] at hr
    exact nomatch hr.symm.trans h
  | error fault =>
    rw [hsig] at hr
    cases hr.symm.trans h
    exact .unsupported hr (mt (oneLine_message_unsupported fault).mpr hbreak)

/-- A message of several lines about a file of a batch repeats a text from outside, whether the file
was loaded or not. -/
theorem breaksLine_of_outcomeOf {host : Host} {source : TreeSource} {file : String}
    (hfile : OneLine file) (hr : r.outcome = outcomeOf (source.load host file))
    (h : r.outcome = .error failure) (hbreak : ¬OneLine failure.message) : r.BreaksLine := by
  cases hload : source.load host file with
  | error loadFailure =>
    have heq := hr
    rw [hload] at heq
    cases heq.symm.trans h
    exact breaksLine_of_load hfile hr hload hbreak
  | ok statements =>
    rw [hload] at hr
    exact breaksLine_of_signatureText hr h hbreak

/-- Whatever report the program makes, a message of several lines repeats a text from outside. -/
theorem Made.breaksLine (hmade : r.Made) (h : r.outcome = .error failure)
    (hbreak : ¬OneLine failure.message) : r.BreaksLine := by
  have hpath := hmade.oneLine_path
  cases hmade with
  | answered host source root seconds hfile => exact breaksLine_of_outcomeOf hfile rfl h hbreak
  | overran root seconds hfile =>
    cases h
    exact absurd (oneLine_message_timedOut hpath seconds) hbreak
  | lost root seconds message hfile =>
    cases h
    exact .lost rfl (mt (oneLine_message_workerLost hpath).mpr hbreak)
  | uploaded hpath => exact breaksLine_of_signatureText rfl h hbreak

/-- A message that repeats such a text has several lines. -/
theorem BreaksLine.not_oneLine (hbreaks : r.BreaksLine) (h : r.outcome = .error failure) :
    ¬OneLine failure.message := by
  intro hline
  cases hbreaks with
  | refused hr hfile hrun hfailed hbreak =>
    rw [load_of_refused hfile hrun hfailed] at hr
    cases hr.symm.trans h
    rw [TreeSource.message_rejection] at hline
    exact hbreak (Text.oneLine_append.mp hline).2
  | notRun hr hfile hrun hbreak =>
    rw [load_of_notRun hfile hrun] at hr
    cases hr.symm.trans h
    have hmessage := (Text.oneLine_append.mp hline).2
    simp only [Text.oneLine_append] at hmessage
    tauto
  | unsupported hr hbreak =>
    cases hr.symm.trans h
    exact hbreak ((oneLine_message_unsupported _).mp hline)
  | lost hr hbreak =>
    cases hr.symm.trans h
    exact hbreak (Text.oneLine_append.mp hline).2

/-- The report on a file that fails, whose path has no line feed, is a message, a path and a line
number, and it is one line of a whole report unless a text from outside breaks it. -/
theorem oneLine_text_iff_not_breaksLine (hmade : r.Made) (h : r.outcome = .error failure) :
    r.text = "ERROR: " ++ failure.message ++ " IN " ++ r.path ++ "#" ++
        toString ((failure.line.map UInt32.toNat).getD 0) ∧
      (OneLine r.text ↔ ¬r.BreaksLine) ∧
      ∀ before after, Text.lines (listText (before ++ r :: after)).toList =
        Text.lines (listText before).toList ++
          (r.text ++ "\n").toList :: Text.lines (listText after).toList ↔ ¬r.BreaksLine := by
  have hiff : OneLine r.text ↔ ¬r.BreaksLine := by
    rw [oneLine_text_iff h]
    constructor
    · exact fun hline hbreaks => hbreaks.not_oneLine h hline.1
    · exact fun hbreaks => ⟨not_not.mp (mt (hmade.breaksLine h) hbreaks), hmade.oneLine_path⟩
  refine ⟨text_of_error h, hiff, fun before after => ?_⟩
  exact (lines_listText_append_iff before after).trans hiff

/-- A parser program that refuses the file `a.php` with a text on its errors. -/
def refusing (text : String) : Host :=
  ⟨.dir [("a.php", .file [])], fun _ _ => .ok ⟨false, [], Text.encode text, 0⟩⟩

/-- The report on the file `a.php`, which a parser program refuses with a text. -/
def refusedWith (text : String) : Report :=
  Batch.reportOf "" 5 "a.php"
    (.answered (outcomeOf ((TreeSource.command "sh" []).load (refusing text) "a.php")))

/-- The outcome where a parser refuses the file with a text. -/
theorem outcome_refusedWith (text message : String)
    (hdecode : Text.decodeLossy (Text.encode text) = text) (htrim : Text.trim text = message)
    (hne : message ≠ "") : (refusedWith text).outcome =
      .error (.unparsable "a.php" message (lineOfMessage message)) := by
  have hfile : (refusing text).files.lookup "a.php" =
      .ok ⟨.file [], [.dir [("a.php", .file [])]]⟩ := rfl
  have hload : (TreeSource.command "sh" []).load (refusing text) "a.php" = .error
      (TreeSource.rejection "a.php" ⟨false, [], Text.encode text, 0⟩) :=
    load_of_refused hfile rfl rfl
  have hcomplaint : Completion.complaint ⟨false, [], Text.encode text, 0⟩ = message := by
    simp only [Completion.complaint, hdecode, htrim, if_neg hne]
  rw [← hcomplaint]
  exact congrArg outcomeOf hload

/-- A parser that complains on one line does not break the report. -/
theorem oneLine_text_iff_not_breaksLine_refused :
    (refusedWith "error on line 3\n").text =
        "ERROR: Failed to parse file: a.php: error on line 3 IN a.php#3" ∧
      ¬(refusedWith "error on line 3\n").BreaksLine := by
  have hmade : (refusedWith "error on line 3\n").Made := .answered _ _ _ _ (by decide)
  have herror := outcome_refusedWith "error on line 3\n" "error on line 3" (by cbv) (by decide)
    (by decide)
  obtain ⟨htext, hline, -⟩ := oneLine_text_iff_not_breaksLine hmade herror
  have htext : (refusedWith "error on line 3\n").text =
      "ERROR: Failed to parse file: a.php: error on line 3 IN a.php#3" := htext.trans (by decide)
  exact ⟨htext, hline.mp (htext ▸ by decide)⟩

/-- A parser program that complains in two lines puts a line feed into the report. -/
theorem not_forall_oneLine_text :
    ¬∀ (r : Report) (failure : Failure), r.Made → r.outcome = .error failure → OneLine r.text := by
  intro h
  have herror := outcome_refusedWith "one\ntwo\n" "one\ntwo" (by cbv) (by decide) (by decide)
  have hmessage := ((oneLine_text_iff herror).mp (h _ _ (.answered _ _ _ _ (by decide)) herror)).1
  rw [oneLine_message_unparsable (by decide)] at hmessage
  exact absurd hmessage (by decide)

end Report

end SourceSig
