import ReversePolish.Proofs.SavedHistory
import ReversePolish.Proofs.Sessions

set_option autoImplicit false

namespace ReversePolish

namespace Prompt

open History

theorem loaded_plain (editor : LineEditor) (recovers : editor.RecoversPlain) (saved : Option String)
    (plain : ∀ text, saved = some text → '\r' ∉ text.toList) :
    ∀ entry ∈ (loaded editor saved).entries, entry.toList.getLast? ≠ some '\r' := by
  cases saved with
  | none => exact fun entry member => absurd member List.not_mem_nil
  | some text => exact load_plain editor recovers text (plain text rfl)

-- What a session remembers in the end of an input that is read by lines.
def remembered (editor : LineEditor) (saved : Option String) (input : String) : History :=
  (loaded editor saved).addAll (entered (Text.linesOf input))

theorem remembered_plain (editor : LineEditor) (recovers : editor.RecoversPlain) (saved : Option String)
    (plain : ∀ text, saved = some text → '\r' ∉ text.toList) (input : String)
    (ends : ∀ line ∈ entered (Text.linesOf input), line.toList.getLast? ≠ some '\r') :
    ∀ entry ∈ (remembered editor saved input).entries, entry.toList.getLast? ≠ some '\r' := by
  intro entry member
  cases (loaded editor saved).mem_add_all _ entry member with
  | inl added => exact ends entry added
  | inr old => exact loaded_plain editor recovers saved plain entry old

theorem keep_by_lines (editor : LineEditor) (c : Calculator) (saved : Option String) (input : String)
    (lines : editor.ByLines input) :
    keep editor c saved input =
      if (remembered editor saved input).changed = true then some (remembered editor saved input).save else none := by
  rw [keep, Session.whole_by_lines editor c _ input lines, Session.kept?]
  refine ite_congr (propext ?_) (fun _ => rfl) fun _ => rfl
  rw [Bool.and_eq_true, decide_eq_true_iff]
  exact and_iff_left rfl

theorem file_after_by_lines (editor : LineEditor) (c : Calculator) (saved : Option String) (input : String)
    (lines : editor.ByLines input) :
    fileAfter editor c saved input =
      if (remembered editor saved input).changed = true then some (remembered editor saved input).save else saved := by
  rw [fileAfter, keep_by_lines editor c saved input lines]
  by_cases changed : (remembered editor saved input).changed = true
  · rw [if_pos changed, if_pos changed, Option.some_or]
  · rw [if_neg changed, if_neg changed, Option.none_or]

-- A session that added nothing leaves the file, and one that added something leaves a file that is loaded
-- as what it remembered. Either way the next session ends where one session over both texts does.
theorem file_after_append (editor : LineEditor) (c : Calculator) (saved : Option String) (first second : String)
    (byFirst : editor.ByLines first) (bySecond : editor.ByLines second) (byBoth : editor.ByLines (first ++ second))
    (lines : entered (Text.linesOf (first ++ second)) = entered (Text.linesOf first) ++ entered (Text.linesOf second))
    (plain : ∀ entry ∈ (remembered editor saved first).entries, entry.toList.getLast? ≠ some '\r') :
    fileAfter editor c (fileAfter editor c saved first) second = fileAfter editor c saved (first ++ second) := by
  let middle := remembered editor saved first
  let last := middle.addAll (entered (Text.linesOf second))
  have both : remembered editor saved (first ++ second) = last := by
    rw [remembered, lines, addAll, List.foldl_append]
    rfl
  rw [file_after_by_lines editor c saved first byFirst, file_after_by_lines editor c saved _ byBoth, both]
  by_cases changed : middle.changed = true
  · have reloaded : (loaded editor (some middle.save)).entries = middle.entries := load_save editor.recover middle plain
    have entries : (remembered editor (some middle.save) second).entries = last.entries := add_all_congr _ _ reloaded _
    rw [if_pos changed, if_pos (changed_add_all middle _ changed), file_after_by_lines editor c _ second bySecond]
    by_cases more : (remembered editor (some middle.save) second).changed = true
    · rw [if_pos more, save_congr _ _ entries]
    · have still := add_all_unchanged _ _ (Bool.eq_false_iff.mpr more)
      rw [remembered, still, reloaded] at entries
      rw [if_neg more, save_congr _ _ entries]
  · have same : middle = loaded editor saved := add_all_unchanged _ _ (Bool.eq_false_iff.mpr changed)
    have alone : remembered editor saved second = last := congrArg (addAll · _) same.symm
    rw [if_neg changed, file_after_by_lines editor c saved second bySecond, alone]

end Prompt

theorem history_across_sessions (editor : LineEditor) (recovers : editor.RecoversPlain) (c : Calculator)
    (saved : Option String) (plain : ∀ text, saved = some text → '\r' ∉ text.toList) :
    (∀ first second : String, editor.ByLines first → editor.ByLines second → editor.ByLines (first ++ second) →
      first.toList.getLast? = some '\n' → (∀ line ∈ Text.linesOf first, ¬ Prompt.Quits line) →
      (∀ line ∈ Prompt.entered (Text.linesOf (first ++ second)), line.toList.getLast? ≠ some '\r') →
      Prompt.fileAfter editor c (Prompt.fileAfter editor c saved first) second =
        Prompt.fileAfter editor c saved (first ++ second) ∧
      ((Session.whole editor c (Prompt.loaded editor saved) (first ++ second)).2.history.changed = false →
        Prompt.fileAfter editor c saved (first ++ second) = saved)) ∧
    ∀ input text : String, editor.ByLines input →
      (∀ line ∈ Prompt.entered (Text.linesOf input), line.toList.getLast? ≠ some '\r') →
      Prompt.keep editor c saved input = some text →
      let memory := (Session.whole editor c (Prompt.loaded editor saved) input).2.history
      ∃ entries, History.savedEntries? (Text.linesOf text) = some entries ∧ entries.length ≤ 100 ∧
        (∀ entry ∈ entries, entry ≠ "") ∧ entries.IsChain (· ≠ ·) ∧ entries = memory.entries.reverse ∧
        (History.load editor.recover text).entries = memory.entries := by
  constructor
  · intro first second byFirst bySecond byBoth newline goes ends
    have lines := Text.lines_of_append first second (Text.ended_of_newline _ newline)
    have both : Prompt.entered (Text.linesOf (first ++ second)) =
        Prompt.entered (Text.linesOf first) ++ Prompt.entered (Text.linesOf second) := by
      rw [lines, Prompt.entered_append _ _ goes, Prompt.entered_all _ goes]
    have endsFirst : ∀ line ∈ Prompt.entered (Text.linesOf first), line.toList.getLast? ≠ some '\r' := by
      intro line member
      apply ends line
      rw [both]
      exact List.mem_append_left _ member
    refine ⟨Prompt.file_after_append editor c saved first second byFirst bySecond byBoth both
      (Prompt.remembered_plain editor recovers saved plain first endsFirst), fun unchanged => ?_⟩
    have memory := Session.whole_by_lines editor c (Prompt.loaded editor saved) _ byBoth
    rw [memory] at unchanged
    rw [Prompt.file_after_by_lines editor c saved _ byBoth, Prompt.remembered, unchanged, if_neg Bool.false_ne_true]
  · intro input text lines ends kept memory
    have reached : memory = Prompt.remembered editor saved input :=
      congrArg (fun printed => printed.2.history) (Session.whole_by_lines editor c (Prompt.loaded editor saved) input lines)
    have free : ∀ entry ∈ memory.entries, entry.toList.getLast? ≠ some '\r' := by
      rw [reached]
      exact Prompt.remembered_plain editor recovers saved plain input ends
    have written : memory.save = text := by
      rw [Prompt.keep_by_lines editor c saved input lines, ← reached] at kept
      split at kept
      · exact Option.some.inj kept
      · cases kept
    have apart : memory.entries.reverse.IsChain (· ≠ ·) := by
      rw [List.isChain_reverse]
      exact ((no_repeat_iff _).mp memory.noRepeat).imp fun _ _ different => Ne.symm different
    have few : memory.entries.reverse.length ≤ 100 := by
      rw [List.length_reverse]
      exact memory.bounded
    rw [← written]
    exact ⟨memory.entries.reverse, History.saved_entries_save memory free, few,
      fun entry member => memory.filled entry (List.mem_reverse.mp member), apart, rfl,
      History.load_save editor.recover memory free⟩

-- Between the sessions the file has a backslash escaped, a repeated entry and one that looks like the header.
theorem history_across_sessions_escaped :
    Prompt.fileAfter .plain .lenient (Prompt.fileAfter .plain .lenient (some "old\\\n#V2\n") "a\\n\n\n#V2\r\n") "#V2\n 1\nQ\n2\n" =
        Prompt.fileAfter .plain .lenient (some "old\\\n#V2\n") ("a\\n\n\n#V2\r\n" ++ "#V2\n 1\nQ\n2\n") ∧
      Prompt.keep .plain .lenient (some "old\\\n#V2\n") "a\\n\n\n#V2\r\n" = some "#V2\nold\\\\\n#V2\na\\\\n\n#V2\n" ∧
      (History.load id "#V2\nold\\\\\n#V2\na\\\\n\n#V2\n").entries =
        (Session.whole .plain .lenient (Prompt.loaded .plain (some "old\\\n#V2\n")) "a\\n\n\n#V2\r\n").2.history.entries := by
  have plain : ∀ text, some "old\\\n#V2\n" = some text → '\r' ∉ text.toList := by
    intro text same
    rw [← Option.some.inj same]
    decide +kernel
  have goes : ∀ line ∈ Text.linesOf "a\\n\n\n#V2\r\n", ¬ Prompt.Quits line := by decide +kernel
  have written : Prompt.keep .plain .lenient (some "old\\\n#V2\n") "a\\n\n\n#V2\r\n" =
      some "#V2\nold\\\\\n#V2\na\\\\n\n#V2\n" := by decide +kernel
  obtain ⟨sessions, files⟩ := history_across_sessions .plain LineEditor.plain_recovers .lenient (some "old\\\n#V2\n") plain
  have together := sessions _ "#V2\n 1\nQ\n2\n" (LineEditor.plain_by_lines _) (LineEditor.plain_by_lines _)
    (LineEditor.plain_by_lines _) (by decide +kernel) goes (by decide +kernel)
  obtain ⟨_, _, _, _, _, _, loaded⟩ := files _ _ (LineEditor.plain_by_lines _) (by decide +kernel) written
  exact ⟨together.1, written, loaded⟩

end ReversePolish
