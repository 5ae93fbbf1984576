import SourceSig.Loader
import SourceSig.Proofs.FailureLines

/-!
# Banners above dumps

A dump may have lines of the dumping tool above it. A banner is any number of lines on none of which
a list opens (`IsBanner`). `IsBanner.stripBanner_append` says that a banner is cut off right where
the line begins on which the list opens. What a dump has in front of its list are blanks, so all of
its own lines that are cut off with the banner are blank, and a reader would have skipped them.

`parseDump_stripBanner_append` : a dump under a banner has the statements that it has without one,
and cutting off a banner a second time changes nothing.
-/

namespace SourceSig

open Text (Bytes OneLine)

/-! ## Lines -/

namespace Text

variable {α : Type} {isEnd : α → Bool}

/-- The first line has all that stands before the first end. -/
theorem exists_linesBy_append_eq_cons {s t : List α} {c : α} (hs : ∀ d ∈ s, isEnd d = false)
    (hc : isEnd c = false) :
    ∃ line rest, linesBy isEnd (s ++ c :: t) = (s ++ c :: line) :: rest := by
  induction s with
  | nil =>
    rw [List.nil_append, linesBy, if_neg (by simp [hc])]
    split
    · exact ⟨[], [], rfl⟩
    · exact ⟨_, _, rfl⟩
  | cons d s ih =>
    obtain ⟨hd, hs⟩ := List.forall_mem_cons.mp hs
    obtain ⟨line, rest, hline⟩ := ih hs
    exact ⟨line, rest, by simp [linesBy, hd, hline]⟩

/-- The lines after the first are lines on their own. -/
theorem linesBy_flatten_of_cons {s line : List α} {rest : List (List α)}
    (h : linesBy isEnd s = line :: rest) : linesBy isEnd rest.flatten = rest := by
  induction s generalizing line with
  | nil => simp [linesBy] at h
  | cons c s ih =>
    rw [linesBy] at h
    split at h
    · obtain ⟨-, rfl⟩ := List.cons.inj h
      rw [flatten_linesBy]
    · split at h
      · obtain ⟨-, rfl⟩ := List.cons.inj h
        rfl
      · next hs =>
        obtain ⟨-, rfl⟩ := List.cons.inj h
        exact ih hs

/-- Leaving out lines from the first on leaves the others as they are. -/
theorem lines_flatten_dropWhile (p : List Char → Bool) (s : List Char) :
    lines ((lines s).dropWhile p).flatten = (lines s).dropWhile p := by
  have hfix : ∀ ls : List (List Char), lines ls.flatten = ls →
      lines (ls.dropWhile p).flatten = ls.dropWhile p := by
    intro ls
    induction ls with
    | nil => exact id
    | cons line rest ih =>
      intro h
      by_cases hp : p line
      · rw [List.dropWhile_cons_of_pos hp]
        exact ih (linesBy_flatten_of_cons h)
      · rwa [List.dropWhile_cons_of_neg hp]
  exact hfix _ (by rw [flatten_lines])

end Text

theorem stripBanner_stripBanner (s : String) : stripBanner (stripBanner s) = stripBanner s := by
  cases hkept : (Text.lines s.toList).dropWhile (!opensList ·) with
  | nil =>
    have hsame : stripBanner s = s := by rw [stripBanner, hkept]
    rw [hsame, hsame]
  | cons line rest =>
    have hcut : stripBanner s = String.ofList (line :: rest).flatten := by rw [stripBanner, hkept]
    have hlines : Text.lines (line :: rest).flatten = line :: rest := by
      rw [← hkept, Text.lines_flatten_dropWhile]
    have hagain : (line :: rest).dropWhile (!opensList ·) = line :: rest := by
      rw [← hkept, List.dropWhile_idempotent]
    rw [hcut, stripBanner, String.toList_ofList, hlines, hagain]

/-! ## Banners -/

/-- The line begins with a list, after any blanks. -/
def OpensList (line : List Char) : Prop :=
  ∃ blanks rest, (∀ c ∈ blanks, Text.isBlank c) ∧ line = blanks ++ '[' :: rest

/-- Lines that are ended by a line feed, on none of which a list opens. -/
inductive IsBanner : String → Prop
  | empty : IsBanner ""
  | line {s rest : String} : OneLine s → ¬OpensList s.toList → IsBanner rest →
      IsBanner (s ++ "\n" ++ rest)

theorem opensList_iff {line : List Char} : opensList line = true ↔ OpensList line := by
  rw [opensList, beq_iff_eq, Text.trimStart]
  constructor
  · intro h
    obtain ⟨rest, hrest⟩ := List.head?_eq_some_iff.mp h
    refine ⟨line.takeWhile Text.isBlank, rest, fun c hc => List.mem_takeWhile_imp hc, ?_⟩
    rw [← hrest, List.takeWhile_append_dropWhile]
  · rintro ⟨blanks, rest, hblanks, rfl⟩
    rw [List.dropWhile_append_of_pos hblanks, List.dropWhile_cons_of_neg (by decide)]
    rfl

instance : DecidablePred OpensList := fun _ => decidable_of_iff _ opensList_iff

/-- The line feed at the end of a line has no say in it. -/
theorem opensList_append_lineFeed {line : List Char} (h : ¬OpensList line) :
    opensList (line ++ ['\n']) = false := by
  rw [Bool.eq_false_iff, ne_eq, opensList_iff]
  rintro ⟨blanks, rest, hblanks, heq⟩
  rcases List.eq_nil_or_concat rest with rfl | ⟨rest, c, rfl⟩
  · simpa using (List.append_inj' heq rfl).2
  · have hsplit : line ++ ['\n'] = (blanks ++ '[' :: rest) ++ [c] := by simpa using heq
    exact h ⟨blanks, rest, hblanks, (List.append_inj' hsplit rfl).1⟩

/-- No list opens on a blank line. -/
theorem not_opensList_of_blanks {line : List Char} (h : ∀ c ∈ line, Text.isBlank c) :
    ¬OpensList line := by
  rintro ⟨blanks, rest, -, rfl⟩
  exact absurd (h '[' (by simp)) (by decide)

namespace IsBanner

variable {banner other : String}

theorem append (h : IsBanner banner) (hother : IsBanner other) : IsBanner (banner ++ other) := by
  induction h with
  | empty => simpa using hother
  | line hline hopens _ ih => simpa [String.append_assoc] using IsBanner.line hline hopens ih

/-- One line of a banner is passed over, and so are all of them. -/
theorem dropWhile_lines_append (h : IsBanner banner) (t : List Char) :
    (Text.lines (banner.toList ++ t)).dropWhile (!opensList ·) =
      (Text.lines t).dropWhile (!opensList ·) := by
  induction h with
  | empty => simp
  | @line s rest hline hopens _ ih =>
    have hone : Text.lines (s.toList ++ ['\n']) = [s.toList ++ ['\n']] := by
      simpa using Text.lines_append_lineFeed_iff.mpr hline
    have hsplit : Text.lines (s.toList ++ '\n' :: (rest.toList ++ t)) =
        (s.toList ++ ['\n']) :: Text.lines (rest.toList ++ t) := by
      rw [Text.lines, Text.linesBy_append_end (by decide)]
      exact congrArg (· ++ _) hone
    have htext : (s ++ "\n" ++ rest).toList ++ t = s.toList ++ '\n' :: (rest.toList ++ t) := by
      simp
    rw [htext, hsplit, List.dropWhile_cons_of_pos (by simp [opensList_append_lineFeed hopens]), ih]

/-- A banner is cut off where the line begins on which the list opens. -/
theorem stripBanner_append (h : IsBanner banner) {blanks rest : List Char}
    (hblanks : ∀ c ∈ blanks, Text.isBlank c) (hline : '\n' ∉ blanks) :
    stripBanner (banner ++ String.ofList (blanks ++ '[' :: rest)) =
      String.ofList (blanks ++ '[' :: rest) := by
  have hends : ∀ c ∈ blanks, decide (c = '\n') = false := fun c hc =>
    decide_eq_false fun heq => hline (heq ▸ hc)
  obtain ⟨line, others, hlines⟩ : ∃ line others,
      Text.lines (blanks ++ '[' :: rest) = (blanks ++ '[' :: line) :: others :=
    Text.exists_linesBy_append_eq_cons hends (by decide)
  have hopens : opensList (blanks ++ '[' :: line) = true :=
    opensList_iff.mpr ⟨blanks, line, hblanks, rfl⟩
  have hkept : (Text.lines (banner.toList ++ (blanks ++ '[' :: rest))).dropWhile (!opensList ·) =
      (blanks ++ '[' :: line) :: others := by
    rw [h.dropWhile_lines_append, hlines, List.dropWhile_cons_of_neg (by simp [hopens])]
  rw [stripBanner, String.toList_append, String.toList_ofList, hkept]
  dsimp only
  rw [← hlines, Text.flatten_lines]

end IsBanner

/-- Blanks are blank lines, which are a banner, and then blanks on a line that goes on. -/
theorem exists_banner_of_blanks {blanks : List Char} (h : ∀ c ∈ blanks, Text.isBlank c) :
    ∃ banner last, blanks = banner.toList ++ last ∧ IsBanner banner ∧ '\n' ∉ last := by
  induction blanks using List.reverseRecOn with
  | nil => exact ⟨"", [], rfl, .empty, by simp⟩
  | append_singleton blanks c ih =>
    obtain ⟨banner, last, rfl, hbanner, hlast⟩ := ih fun d hd => h d (by simp [hd])
    by_cases hc : c = '\n'
    · have hblank : ∀ d ∈ (String.ofList last).toList, Text.isBlank d := by
        intro d hd
        exact h d (by simp [String.toList_ofList ▸ hd])
      have hline : IsBanner (String.ofList last ++ "\n" ++ "") :=
        .line (Text.oneLine_ofList.mpr hlast) (not_opensList_of_blanks hblank) .empty
      exact ⟨_, [], by simp [hc], hbanner.append hline, by simp⟩
    · exact ⟨banner, last ++ [c], by simp, hbanner, by simp [hlast, Ne.symm hc]⟩

/-- From a list after blanks, a banner is cut off together with the blank lines. -/
theorem IsBanner.exists_stripBanner_append {banner text : String} (h : IsBanner banner)
    {blanks rest : List Char} (hblanks : ∀ c ∈ blanks, Text.isBlank c)
    (htext : text.toList = blanks ++ '[' :: rest) :
    ∃ last, last <:+ blanks ∧
      stripBanner (banner ++ text) = String.ofList (last ++ '[' :: rest) := by
  obtain ⟨lines, last, rfl, hlines, hlast⟩ := exists_banner_of_blanks hblanks
  have hsplit : banner ++ text = banner ++ lines ++ String.ofList (last ++ '[' :: rest) := by
    rw [← String.toList_inj]
    simp [htext]
  refine ⟨last, List.suffix_append _ _, ?_⟩
  rw [hsplit]
  exact (h.append hlines).stripBanner_append
    (fun c hc => hblanks c (List.mem_append_right _ hc)) hlast

/-! ## Dumps -/

namespace Json

theorem peek_append {spaces rest : Bytes} {b : UInt8} (hspaces : ∀ x ∈ spaces, isSpace x)
    (hb : isSpace b = false) :
    ∃ h, peek (spaces ++ b :: rest) = some (b, ⟨rest, h⟩) := by
  have hdrop : (spaces ++ b :: rest).dropWhile isSpace = b :: rest := by
    rw [List.dropWhile_append_of_pos hspaces, List.dropWhile_cons_of_neg (by simp [hb])]
  refine ⟨by simp; omega, ?_⟩
  unfold peek skipSpace dropRun
  split
  · next heq => simp [hdrop] at heq
  · next heq =>
    simp only [Subtype.mk.injEq, hdrop, List.cons.injEq] at heq
    obtain ⟨rfl, rfl⟩ := heq
    rfl

theorem exists_of_peek {s : Bytes} {b : UInt8} {r : Rest s} (h : peek s = some (b, r)) :
    ∃ spaces, (∀ x ∈ spaces, isSpace x) ∧ s = spaces ++ b :: r.1 := by
  unfold peek skipSpace dropRun at h
  split at h
  · cases h
  · next b rest hlength heq =>
    obtain ⟨rfl, rfl⟩ := Prod.mk.inj (Option.some.inj h)
    have hdrop : s.dropWhile isSpace = b :: rest := Subtype.mk.inj heq
    refine ⟨s.takeWhile isSpace, fun x hx => List.mem_takeWhile_imp hx, ?_⟩
    exact (List.takeWhile_append_dropWhile.symm).trans (congrArg _ hdrop)

theorem lt_of_isSpace {b : UInt8} (h : isSpace b) : b < 0x80 := by
  simp only [isSpace, Bool.or_eq_true, beq_iff_eq] at h
  rcases h with ((rfl | rfl) | rfl) | rfl <;> decide

end Json

/-- Blanks in front of a dump are skipped. -/
theorem readDump_append {spaces : Bytes} (hspaces : ∀ x ∈ spaces, Json.isSpace x) (rest : Bytes) :
    readDump (spaces ++ 0x5B :: rest) = do
      let (statements, last) ← readElements readNode true [] rest
      liftRead (Json.expectEnd last.1)
      return statements := by
  obtain ⟨hlength, hpeek⟩ : ∃ h, Json.peek (spaces ++ 0x5B :: rest) = some (0x5B, ⟨rest, h⟩) :=
    Json.peek_append hspaces (by decide)
  simp only [readDump, readSequence, hpeek, if_true]
  cases readElements readNode true [] rest <;> rfl

/-- A text that is accepted is a list after blanks. -/
theorem exists_of_readDump {bytes : Bytes} {statements : List Node}
    (h : readDump bytes = .ok statements) :
    ∃ spaces rest, (∀ x ∈ spaces, Json.isSpace x) ∧ bytes = spaces ++ 0x5B :: rest := by
  obtain ⟨⟨all, left⟩, hlist, -⟩ := bind_eq_ok_iff.mp h
  unfold readSequence at hlist
  split at hlist
  · cases hlist
  · next b rest hpeek =>
    split_ifs at hlist with hb
    obtain ⟨spaces, hspaces, hbytes⟩ := Json.exists_of_peek hpeek
    exact ⟨spaces, rest.1, hspaces, by rw [← hb, ← hbytes]⟩

/-- A character whose bytes begin with an ASCII one is that byte. -/
theorem Text.utf8EncodeChar_eq_cons {c : Char} {b : UInt8} {bs : Bytes}
    (h : String.utf8EncodeChar c = b :: bs) (hb : b < 0x80) : bs = [] ∧ c.toNat = b.toNat := by
  have hlt : b.toNat < 128 := UInt8.lt_iff_toNat_lt.mp hb
  simp only [String.utf8EncodeChar] at h
  split_ifs at h with h1 h2 h3
  · obtain ⟨rfl, rfl⟩ := List.cons.inj h
    refine ⟨rfl, ?_⟩
    rw [UInt8.toNat_ofNat_of_lt' (show _ < 256 by omega)]
    rfl
  all_goals
    obtain ⟨rfl, -⟩ := List.cons.inj h
    rw [UInt8.toNat_ofNat_of_lt' (show _ < 256 by omega)] at hlt
    omega

theorem Text.isBlank_of_isSpace {c : Char} {b : UInt8} (h : c.toNat = b.toNat)
    (hb : Json.isSpace b) : isBlank c := by
  simp only [Json.isSpace, Bool.or_eq_true, beq_iff_eq] at hb
  rcases hb with ((rfl | rfl) | rfl) | rfl <;> simp [isBlank, inRanges, blankRanges, h]

/-- A text whose bytes are a list after blanks is a list after blanks. -/
theorem exists_of_flatMap_encode {cs : List Char} {spaces bytes : Bytes}
    (hspaces : ∀ x ∈ spaces, Json.isSpace x)
    (h : cs.flatMap String.utf8EncodeChar = spaces ++ 0x5B :: bytes) :
    ∃ blanks rest, cs = blanks ++ '[' :: rest ∧ (∀ c ∈ blanks, Text.isBlank c) ∧
      blanks.flatMap String.utf8EncodeChar = spaces ∧
        rest.flatMap String.utf8EncodeChar = bytes := by
  induction cs generalizing spaces with
  | nil => simp at h
  | cons c cs ih =>
    obtain ⟨b, bs, hc⟩ := List.exists_cons_of_ne_nil (String.utf8EncodeChar_ne_nil (c := c))
    rw [List.flatMap_cons, hc, List.cons_append] at h
    cases spaces with
    | nil =>
      obtain ⟨rfl, hrest⟩ := List.cons.inj h
      obtain ⟨rfl, hnat⟩ := Text.utf8EncodeChar_eq_cons hc (by decide)
      have hbracket : c = '[' := Char.toNat_inj.mp hnat
      exact ⟨[], cs, by rw [hbracket]; rfl, by simp, rfl, hrest⟩
    | cons x spaces =>
      obtain ⟨rfl, hrest⟩ := List.cons.inj h
      obtain ⟨hb, hspaces⟩ := List.forall_mem_cons.mp hspaces
      obtain ⟨rfl, hnat⟩ := Text.utf8EncodeChar_eq_cons hc (Json.lt_of_isSpace hb)
      obtain ⟨blanks, rest, rfl, hblanks, hspaces, hbytes⟩ := ih hspaces hrest
      refine ⟨c :: blanks, rest, rfl, ?_, ?_, hbytes⟩
      · exact List.forall_mem_cons.mpr ⟨Text.isBlank_of_isSpace hnat hb, hblanks⟩
      · rw [List.flatMap_cons, hc, hspaces]
        rfl

namespace TreeSource

theorem parseDump_eq_ok_iff {file text : String} {statements : List Node} :
    parseDump file text = .ok statements ↔ readDump (Text.encode text) = .ok statements := by
  unfold parseDump
  split
  · next hread => rw [hread, Except.ok.injEq, Except.ok.injEq]
  · next hread => simp [hread]

end TreeSource

/-- A dump that can be read is read as well with a banner above it, and has the same statements.
What is left of a text once its banner is cut off has no banner. -/
theorem parseDump_stripBanner_append :
    (∀ (banner text file : String) (statements : List Node), IsBanner banner →
      TreeSource.parseDump file text = .ok statements →
        TreeSource.parseDump file (stripBanner (banner ++ text)) = .ok statements) ∧
      ∀ text, stripBanner (stripBanner text) = stripBanner text := by
  refine ⟨fun banner text file statements hbanner h => ?_, stripBanner_stripBanner⟩
  rw [TreeSource.parseDump_eq_ok_iff] at h ⊢
  obtain ⟨spaces, bytes, hspaces, hbytes⟩ := exists_of_readDump h
  obtain ⟨blanks, rest, htext, hblanks, hencoded, hrest⟩ := exists_of_flatMap_encode hspaces hbytes
  obtain ⟨last, hlast, hstrip⟩ := hbanner.exists_stripBanner_append hblanks htext
  have hkept : Text.encode (String.ofList (last ++ '[' :: rest)) =
      last.flatMap String.utf8EncodeChar ++ 0x5B :: bytes := by
    rw [Text.encode, String.toList_ofList, List.flatMap_append, List.flatMap_cons, hrest]
    rfl
  have hskipped : ∀ x ∈ last.flatMap String.utf8EncodeChar, Json.isSpace x := by
    intro x hx
    obtain ⟨c, hc, hx⟩ := List.mem_flatMap.mp hx
    exact hspaces x (hencoded ▸ List.mem_flatMap.mpr ⟨c, hlast.subset hc, hx⟩)
  rw [hbytes, readDump_append hspaces] at h
  rw [hstrip, hkept, readDump_append hskipped, h]

/-- Two lines above a dump that begins on a line of its own, after blanks. -/
theorem parseDump_stripBanner_append_indented :
    let banner := "====> File é.php:\n\t==> JSON dump:\n"
    let dump := "\r\n  [\n\x7b\"nodeType\":\"X\",\"stmts\":\n[]\x7d]\n"
    let statement : Node := ⟨"X", [("stmts", .list [])], {}⟩
    IsBanner banner ∧ TreeSource.parseDump "é.php" dump = .ok [statement] ∧
      TreeSource.parseDump "é.php" (stripBanner (banner ++ dump)) = .ok [statement] := by
  intro banner dump statement
  have hbanner : IsBanner banner := by
    have hlines : banner = "====> File é.php:" ++ "\n" ++ ("\t==> JSON dump:" ++ "\n" ++ "") := by
      decide +kernel
    rw [hlines]
    exact .line (by decide) (by decide) (.line (by decide) (by decide) .empty)
  have hread : TreeSource.parseDump "é.php" dump = .ok [statement] := by
    subst dump statement
    cbv
  exact ⟨hbanner, hread, parseDump_stripBanner_append.1 banner dump "é.php" _ hbanner hread⟩

end SourceSig
