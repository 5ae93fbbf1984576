import SourceSig.ParserMessage
import SourceSig.Proofs.NumberText
import SourceSig.Proofs.UniqueReading

/-!
# Mentions of lines

A parser message mentions a line where `on line ` is followed by a decimal digit of any script. Of
several mentions the first one counts (`FirstMention`), whatever its digits are, so there is at most
one (`FirstMention.unique`), and the search finds it (`mentionedLine?_eq_some_iff`).

The first letter of the mark stands nowhere else in it, so text in front of a mention does not run
into it (`firstMention_append`).

`lineOfMessage_iff_and_of_written` : the line of a message is the number that the digits of its first
mention denote, if they are ASCII digits and the number has 32 bits; a line that is written into a
message is found again.
-/

namespace SourceSig

open Text (isDecimalDigit Stops)

/-! ## Mentions -/

/-- A line is mentioned after the first part of a text: the mark follows, and then a digit. -/
def MentionsAfter (before s : List Char) : Prop :=
  ∃ d rest, isDecimalDigit d ∧ s = before ++ (lineMark ++ d :: rest)

/-- The first mention of a line in a text, with all of the digits that follow the mark. -/
structure FirstMention (s before digits after : List Char) : Prop where
  text_eq : s = before ++ (lineMark ++ (digits ++ after))
  digits_ne : digits ≠ []
  isDecimalDigit_of_mem : ∀ d ∈ digits, isDecimalDigit d
  stops : Stops isDecimalDigit after
  length_le : ∀ earlier, MentionsAfter earlier s → before.length ≤ earlier.length

theorem lineMark_eq : lineMark = ['o', 'n', ' ', 'l', 'i', 'n', 'e', ' '] := by
  decide

variable {s before digits after : List Char}

theorem FirstMention.mentionsAfter (h : FirstMention s before digits after) :
    MentionsAfter before s := by
  obtain ⟨d, digits, rfl⟩ := List.exists_cons_of_ne_nil h.digits_ne
  exact ⟨d, digits ++ after, h.isDecimalDigit_of_mem d List.mem_cons_self, h.text_eq⟩

theorem FirstMention.unique (h : FirstMention s before digits after) {b d a : List Char}
    (h' : FirstMention s b d a) : before = b ∧ digits = d ∧ after = a := by
  have hlength : before.length = b.length :=
    le_antisymm (h.length_le b h'.mentionsAfter) (h'.length_le before h.mentionsAfter)
  obtain ⟨rfl, hrest⟩ := List.append_inj (h.text_eq.symm.trans h'.text_eq) hlength
  obtain ⟨rfl, rfl⟩ := Text.run_append_inj h.isDecimalDigit_of_mem h'.isDecimalDigit_of_mem h.stops
    h'.stops (List.append_cancel_left hrest)
  exact ⟨rfl, rfl, rfl⟩

/-! ## The search -/

theorem mentionsAfter_nil_iff :
    MentionsAfter [] s ↔ (lineMark.isPrefixOf s &&
      !((s.drop lineMark.length).takeWhile isDecimalDigit).isEmpty) = true := by
  rw [Bool.and_eq_true, List.isPrefixOf_iff_prefix]
  constructor
  · rintro ⟨d, rest, hd, rfl⟩
    simp [hd]
  · rintro ⟨⟨t, rfl⟩, hdigits⟩
    cases t with
    | nil => simp at hdigits
    | cons d rest =>
      refine ⟨d, rest, ?_, rfl⟩
      by_contra hd
      simp [hd] at hdigits

/-- A mention at the front is the first one, and its digits are the run after the mark. -/
theorem exists_firstMention_nil (h : MentionsAfter [] s) :
    ∃ after, FirstMention s [] ((s.drop lineMark.length).takeWhile isDecimalDigit) after := by
  obtain ⟨d, rest, hd, rfl⟩ := h
  rw [List.nil_append, List.drop_left]
  refine ⟨(d :: rest).dropWhile isDecimalDigit, ?_, by simp [hd], ?_, ?_, fun _ _ => Nat.zero_le _⟩
  · rw [List.takeWhile_append_dropWhile, List.nil_append]
  · exact fun c hc => List.mem_takeWhile_imp hc
  · intro c hc
    have hhead := List.head?_dropWhile_not isDecimalDigit (d :: rest)
    rw [Option.mem_def.mp hc] at hhead
    exact hhead

/-- Where no line is mentioned at the front, the mentions are those after the first character. -/
theorem FirstMention.cons {c : Char} (hc : ¬MentionsAfter [] (c :: s))
    (h : FirstMention s before digits after) : FirstMention (c :: s) (c :: before) digits after where
  text_eq := by rw [h.text_eq, List.cons_append]
  digits_ne := h.digits_ne
  isDecimalDigit_of_mem := h.isDecimalDigit_of_mem
  stops := h.stops
  length_le := by
    rintro earlier ⟨d, rest, hd, heq⟩
    cases earlier with
    | nil => exact absurd ⟨d, rest, hd, heq⟩ hc
    | cons e earlier =>
      obtain ⟨rfl, hs⟩ := List.cons.inj heq
      exact Nat.succ_le_succ (h.length_le earlier ⟨d, rest, hd, hs⟩)

theorem mentionedLine?_cons_of_mentionsAfter {c : Char} (h : MentionsAfter [] (c :: s)) :
    mentionedLine? (c :: s) = some (((c :: s).drop lineMark.length).takeWhile isDecimalDigit) := by
  rw [mentionedLine?]
  exact if_pos (mentionsAfter_nil_iff.mp h)

theorem mentionedLine?_cons_of_not_mentionsAfter {c : Char} (h : ¬MentionsAfter [] (c :: s)) :
    mentionedLine? (c :: s) = mentionedLine? s := by
  rw [mentionedLine?]
  exact if_neg (mt mentionsAfter_nil_iff.mpr h)

theorem exists_firstMention_of_mentionedLine? (h : mentionedLine? s = some digits) :
    ∃ before after, FirstMention s before digits after := by
  induction s with
  | nil => cases h
  | cons c s ih =>
    by_cases hc : MentionsAfter [] (c :: s)
    · rw [mentionedLine?_cons_of_mentionsAfter hc, Option.some.injEq] at h
      obtain ⟨after, hfirst⟩ := exists_firstMention_nil hc
      exact ⟨[], after, h ▸ hfirst⟩
    · rw [mentionedLine?_cons_of_not_mentionsAfter hc] at h
      obtain ⟨before, after, hfirst⟩ := ih h
      exact ⟨c :: before, after, hfirst.cons hc⟩

theorem not_mentionsAfter_of_mentionedLine? (h : mentionedLine? s = none) (before : List Char) :
    ¬MentionsAfter before s := by
  induction s generalizing before with
  | nil =>
    rintro ⟨d, rest, -, heq⟩
    simp [lineMark_eq] at heq
  | cons c s ih =>
    have hc : ¬MentionsAfter [] (c :: s) := by
      intro hc
      rw [mentionedLine?_cons_of_mentionsAfter hc] at h
      cases h
    rw [mentionedLine?_cons_of_not_mentionsAfter hc] at h
    cases before with
    | nil => exact hc
    | cons b before =>
      rintro ⟨d, rest, hd, heq⟩
      exact ih h before ⟨d, rest, hd, (List.cons.inj heq).2⟩

/-- The search finds the digits of the first mention. -/
theorem mentionedLine?_eq_some_iff :
    mentionedLine? s = some digits ↔ ∃ before after, FirstMention s before digits after := by
  refine ⟨exists_firstMention_of_mentionedLine?, ?_⟩
  rintro ⟨before, after, hfirst⟩
  cases hfound : mentionedLine? s with
  | none =>
    exact absurd hfirst.mentionsAfter (not_mentionsAfter_of_mentionedLine? hfound before)
  | some found =>
    obtain ⟨b, a, hfound⟩ := exists_firstMention_of_mentionedLine? hfound
    rw [(hfirst.unique hfound).2.1]

/-! ## Numbers -/

theorem lineNumber?_eq_some_iff {n : UInt32} : lineNumber? digits = some n ↔
    (∀ d ∈ digits, d.isDigit) ∧ Nat.ofDigitChars 10 digits 0 = n.toNat := by
  have hnumber : Text.natOfDigits digits = Nat.ofDigitChars 10 digits 0 := rfl
  simp only [lineNumber?, hnumber, List.all_eq_true]
  split_ifs with h
  · obtain ⟨hdigits, hlt⟩ := h
    rw [Option.some.injEq, ← UInt32.toNat_inj, UInt32.toNat_ofNat_of_lt' hlt]
    exact (and_iff_right hdigits).symm
  · refine iff_of_false nofun fun ⟨hdigits, hn⟩ => h ⟨hdigits, ?_⟩
    rw [hn]
    exact n.toNat_lt

/-! ## Text in front of a mention -/

/-- The letter that the mark begins with is not found again up to the digit after it. -/
theorem eq_nil_of_mark_append {d : Char} (hd : isDecimalDigit d) {u w : List Char}
    (h : lineMark ++ [d] = u ++ 'o' :: w) : u = [] := by
  cases u with
  | nil => rfl
  | cons c u =>
    have htail : 'o' ∈ (lineMark ++ [d]).tail := by simp [h]
    have hletter : d = 'o' := by simpa [lineMark_eq, eq_comm] using htail
    rw [hletter] at hd
    exact absurd hd (by decide)

/-- Text without a mention does not run into a mention that follows it. -/
theorem firstMention_append (hbefore : ∀ b, ¬MentionsAfter b before) (hne : digits ≠ [])
    (hdigits : ∀ d ∈ digits, isDecimalDigit d) (hafter : Stops isDecimalDigit after) :
    FirstMention (before ++ (lineMark ++ (digits ++ after))) before digits after where
  text_eq := rfl
  digits_ne := hne
  isDecimalDigit_of_mem := hdigits
  stops := hafter
  length_le := by
    rintro earlier ⟨d, rest, hd, heq⟩
    rcases List.append_eq_append_iff.mp heq with ⟨u, rfl, -⟩ | ⟨u, rfl, hmark⟩
    · simp
    -- An earlier mention lies within the text before, or the mark begins within it.
    have hmark : (lineMark ++ [d]) ++ rest = u ++ (lineMark ++ (digits ++ after)) := by
      simpa using hmark
    rcases List.append_eq_append_iff.mp hmark with ⟨v, rfl, -⟩ | ⟨v, hv, hrest⟩
    · exact absurd ⟨d, v, hd, by simp⟩ (hbefore earlier)
    cases v with
    | nil =>
      rw [List.append_nil] at hv
      exact absurd ⟨d, [], hd, by rw [hv]⟩ (hbefore earlier)
    | cons c v =>
      have hc : 'o' = c := by
        rw [lineMark_eq] at hrest
        exact (List.cons.inj hrest).1
      subst hc
      rw [eq_nil_of_mark_append hd hv, List.append_nil]

/-! ## Messages -/

/-- The line of a message is the number in its first mention, if that is spelled in ASCII digits and
fits. -/
theorem lineOfMessage_eq_some_iff {message : String} {n : UInt32} :
    lineOfMessage message = some n ↔
      ∃ before digits after, FirstMention message.toList before digits after ∧
        (∀ d ∈ digits, d.isDigit) ∧ Nat.ofDigitChars 10 digits 0 = n.toNat := by
  simp only [lineOfMessage, Option.bind_eq_some_iff, mentionedLine?_eq_some_iff,
    lineNumber?_eq_some_iff]
  constructor
  · rintro ⟨digits, ⟨before, after, hfirst⟩, hnumber⟩
    exact ⟨before, digits, after, hfirst, hnumber⟩
  · rintro ⟨before, digits, after, hfirst, hnumber⟩
    exact ⟨digits, ⟨before, after, hfirst⟩, hnumber⟩

/-- The line of a message is the number of its first mention of a line, if the digits are ASCII
digits and the number fits in 32 bits. So a line is found again in a message that it is written
into, after text without a mention and before anything that is no digit. -/
theorem lineOfMessage_iff_and_of_written :
    (∀ (message : String) (n : UInt32), lineOfMessage message = some n ↔
      ∃ before digits after, FirstMention message.toList before digits after ∧
        (∀ d ∈ digits, d.isDigit) ∧ Nat.ofDigitChars 10 digits 0 = n.toNat) ∧
    ∀ (before after : String) (n : UInt32), (∀ b, ¬MentionsAfter b before.toList) →
      Stops isDecimalDigit after.toList →
        lineOfMessage (before ++ "on line " ++ toString n.toNat ++ after) = some n := by
  refine ⟨fun _ _ => lineOfMessage_eq_some_iff, fun before after n hbefore hafter => ?_⟩
  have hdigits : ∀ d ∈ (toString n.toNat).toList, d.isDigit := fun d hd => isDigit_of_mem_toString hd
  have htext : (before ++ "on line " ++ toString n.toNat ++ after).toList =
      before.toList ++ (lineMark ++ ((toString n.toNat).toList ++ after.toList)) := by
    simp [lineMark_eq]
  rw [lineOfMessage_eq_some_iff, htext]
  refine ⟨before.toList, (toString n.toNat).toList, after.toList, ?_, hdigits, ?_⟩
  · exact firstMention_append hbefore (by simp)
      (fun d hd => Text.isDecimalDigit_of_isDigit (hdigits d hd)) hafter
  · rw [Nat.toString_eq_repr, Nat.toList_repr, Nat.ofDigitChars_toDigits (by decide) (by decide)]

/-- The greatest line that there is, after two marks that no digit follows. -/
theorem lineOfMessage_iff_and_of_written_greatest :
    (∀ b, ¬MentionsAfter b "error on line ? on line ".toList) ∧
      Stops isDecimalDigit ".5".toList ∧
        lineOfMessage ("error on line ? on line " ++ "on line " ++
          toString (4294967295 : UInt32).toNat ++ ".5") = some 4294967295 := by
  have hbefore := not_mentionsAfter_of_mentionedLine?
    (by decide +kernel : mentionedLine? "error on line ? on line ".toList = none)
  have hafter : Stops isDecimalDigit ".5".toList := Text.stops_cons.mpr (by decide)
  exact ⟨hbefore, hafter, lineOfMessage_iff_and_of_written.2 _ _ _ hbefore hafter⟩

end SourceSig
