import Mathlib.Data.List.Chain
import ReversePolish.History
import ReversePolish.LineEditor
import ReversePolish.Proofs.Lines

set_option autoImplicit false

namespace ReversePolish

theorem no_repeat_iff (entries : List String) : NoRepeat entries ↔ entries.IsChain (· ≠ ·) := by
  induction entries with
  | nil => simp [NoRepeat]
  | cons newest older ih =>
      cases older with
      | nil => simp [NoRepeat]
      | cons next more => rw [NoRepeat, ih, List.isChain_cons_cons]

namespace History

theorem add_accepted (h : History) (entry : String) (accepted : h.accepts entry = true) :
    (h.add entry).entries = (entry :: h.entries).take 100 ∧ (h.add entry).changed = true := by
  rw [add, dif_pos accepted]
  exact ⟨rfl, rfl⟩

theorem add_refused (h : History) (entry : String) (refused : ¬ h.accepts entry = true) : h.add entry = h :=
  dif_neg refused

theorem mem_add (h : History) (entry old : String) (member : old ∈ (h.add entry).entries) : old = entry ∨ old ∈ h.entries := by
  by_cases accepted : h.accepts entry = true
  · rw [(h.add_accepted entry accepted).1] at member
    exact List.mem_cons.mp (List.mem_of_mem_take member)
  · rw [h.add_refused entry accepted] at member
    exact Or.inr member

theorem mem_add_all (h : History) (added : List String) (old : String) (member : old ∈ (h.addAll added).entries) :
    old ∈ added ∨ old ∈ h.entries := by
  induction added generalizing h with
  | nil => exact Or.inr member
  | cons entry rest ih =>
      rcases ih (h.add entry) member with later | here
      · exact Or.inl (List.mem_cons_of_mem entry later)
      · exact (h.mem_add entry old here).imp (fun newest => List.mem_cons.mpr (Or.inl newest)) id

theorem add_congr (g h : History) (same : g.entries = h.entries) (entry : String) :
    (g.add entry).entries = (h.add entry).entries := by
  have alike : g.accepts entry = h.accepts entry := by rw [accepts, accepts, same]
  by_cases accepted : h.accepts entry = true
  · rw [(g.add_accepted entry (alike.trans accepted)).1, (h.add_accepted entry accepted).1, same]
  · rw [g.add_refused entry (alike ▸ accepted), h.add_refused entry accepted, same]

theorem add_all_congr (g h : History) (same : g.entries = h.entries) (added : List String) :
    (g.addAll added).entries = (h.addAll added).entries := by
  induction added generalizing g h with
  | nil => exact same
  | cons entry rest ih => exact ih (g.add entry) (h.add entry) (add_congr g h same entry)

theorem changed_add_all (h : History) (added : List String) (changed : h.changed = true) : (h.addAll added).changed = true := by
  induction added generalizing h with
  | nil => exact changed
  | cons entry rest ih =>
      refine ih (h.add entry) ?_
      by_cases accepted : h.accepts entry = true
      · exact (h.add_accepted entry accepted).2
      · rw [h.add_refused entry accepted]
        exact changed

theorem add_all_unchanged (h : History) (added : List String) (unchanged : (h.addAll added).changed = false) :
    h.addAll added = h := by
  induction added generalizing h with
  | nil => rfl
  | cons entry rest ih =>
      change (h.add entry).addAll rest = h
      rw [ih (h.add entry) unchanged]
      by_cases accepted : h.accepts entry = true
      · have still := changed_add_all (h.add entry) rest (h.add_accepted entry accepted).2
        exact absurd (unchanged.symm.trans still) Bool.false_ne_true
      · exact h.add_refused entry accepted

theorem add_all_entries (h : History) (added : List String) (filled : ∀ entry ∈ added, entry ≠ "")
    (apart : (added.reverse ++ h.entries).IsChain (· ≠ ·)) (bounded : added.length + h.entries.length ≤ 100) :
    (h.addAll added).entries = added.reverse ++ h.entries := by
  induction added generalizing h with
  | nil => rfl
  | cons entry rest ih =>
      rw [List.reverse_cons, List.append_assoc, List.singleton_append] at apart ⊢
      rw [List.length_cons] at bounded
      have top : h.entries.head? ≠ some entry := by
        intro same
        exact (List.isChain_cons.mp apart.right_of_append).1 entry same rfl
      have accepted : h.accepts entry = true := by simp [accepts, top, filled entry List.mem_cons_self]
      have added : (h.add entry).entries = entry :: h.entries := by
        rw [(h.add_accepted entry accepted).1, List.take_of_length_le (by rw [List.length_cons]; omega)]
      have later := ih (h.add entry) (fun e member => filled e (List.mem_cons_of_mem entry member)) (by rwa [added])
        (by rw [added, List.length_cons]; omega)
      rwa [added] at later

theorem escape_line (entry : List Char) (whole : entry.getLast? ≠ some '\r') : Text.Line (escape entry) := by
  constructor
  · intro member
    obtain ⟨c, _, inside⟩ := List.mem_flatMap.mp member
    split at inside
    · simp at inside
    · rename_i newline
      split at inside
      · simp at inside
      · exact absurd (List.mem_singleton.mp inside).symm ‹_›
  · cases entry using List.reverseRecOn with
    | nil => simp [escape]
    | append_singleton front c =>
        have other : c ≠ '\r' := by simpa using whole
        rw [escape, List.flatMap_append, List.flatMap_singleton]
        split
        · simp
        · split <;> simp [other]

theorem header_line : Text.Line header.toList := by
  constructor <;> decide

theorem lines_of_save (h : History) (whole : ∀ entry ∈ h.entries, entry.toList.getLast? ≠ some '\r') :
    Text.linesOf h.save = header :: h.entries.reverse.map fun entry => String.ofList (escape entry.toList) := by
  let written := header.toList :: h.entries.reverse.map fun entry => escape entry.toList
  have letters : h.save.toList = written.flatMap (· ++ ['\n']) := by
    simp only [save, written, String.toList_join, List.map_cons, List.flatMap_cons, List.map_map, List.flatMap_map,
      String.toList_append, Function.comp_def, String.toList_ofList]
    rfl
  have each : ∀ line ∈ written, Text.Line line := by
    intro line member
    cases List.mem_cons.mp member with
    | inl top => exact top ▸ header_line
    | inr below =>
        obtain ⟨entry, known, rfl⟩ := List.mem_map.mp below
        exact escape_line entry.toList (whole entry (List.mem_reverse.mp known))
  rw [Text.linesOf, letters, Text.lines_flat_map written each]
  simp [written, Function.comp_def]

theorem saved_entries_save (h : History) (whole : ∀ entry ∈ h.entries, entry.toList.getLast? ≠ some '\r') :
    savedEntries? (Text.linesOf h.save) = some h.entries.reverse := by
  have read : ((fun line : String => (unescape? line.toList).map String.ofList) ∘
      fun entry : String => String.ofList (escape entry.toList)) = some := by
    funext entry
    simp [unescape_escape]
  rw [lines_of_save h whole, savedEntries?, if_pos rfl, List.mapM_map, read]
  exact List.mapM_pure.trans (congrArg some (List.map_id' _))

theorem load_save (recover : List String → List String) (h : History)
    (whole : ∀ entry ∈ h.entries, entry.toList.getLast? ≠ some '\r') : (load recover h.save).entries = h.entries := by
  have added := empty.add_all_entries h.entries.reverse (fun entry member => h.filled entry (List.mem_reverse.mp member))
    (by simpa [empty] using (no_repeat_iff h.entries).mp h.noRepeat) (by simpa [empty] using h.bounded)
  rw [load, saved_entries_save h whole]
  simpa [empty] using added

theorem save_congr (g h : History) (same : g.entries = h.entries) : g.save = h.save := by
  rw [save, save, same]

theorem mem_of_prepended (first c : Char) (result : Option (List Char)) (entry : List Char)
    (read : result.map (first :: ·) = some entry) (inside : c ∈ entry) : c = first ∨ ∃ rest, result = some rest ∧ c ∈ rest := by
  obtain ⟨rest, later, rfl⟩ := Option.map_eq_some_iff.mp read
  exact (List.mem_cons.mp inside).imp id fun beyond => ⟨rest, later, beyond⟩

theorem mem_unescape (line entry : List Char) (c : Char) (read : unescape? line = some entry) (inside : c ∈ entry) :
    c ∈ line ∨ c = '\n' := by
  induction line using unescape?.induct generalizing entry with
  | case1 =>
      cases read
      cases inside
  | case2 rest ih =>
      rw [unescape?] at read
      rcases mem_of_prepended _ c _ entry read inside with here | ⟨more, later, beyond⟩
      · exact Or.inl (here ▸ List.mem_cons_self)
      · exact (ih more later beyond).imp (fun member => List.mem_cons_of_mem _ (List.mem_cons_of_mem _ member)) id
  | case3 rest ih =>
      rw [unescape?] at read
      rcases mem_of_prepended _ c _ entry read inside with here | ⟨more, later, beyond⟩
      · exact Or.inr here
      · exact (ih more later beyond).imp (fun member => List.mem_cons_of_mem _ (List.mem_cons_of_mem _ member)) id
  | case4 rest notSlash notNewline =>
      rw [unescape?.eq_4 _ _ notSlash notNewline, if_pos rfl] at read
      cases read
  | case5 first rest notSlash notNewline other ih =>
      rw [unescape?.eq_4 _ _ notSlash notNewline, if_neg other] at read
      rcases mem_of_prepended _ c _ entry read inside with here | ⟨more, later, beyond⟩
      · exact Or.inl (here ▸ List.mem_cons_self)
      · exact (ih more later beyond).imp (List.mem_cons_of_mem _) id

theorem mem_of_each_read (read : String → Option String) (lines entries : List String)
    (all : lines.mapM read = some entries) : ∀ entry ∈ entries, ∃ line ∈ lines, read line = some entry := by
  induction lines generalizing entries with
  | nil =>
      cases all
      exact fun entry member => absurd member List.not_mem_nil
  | cons line rest ih =>
      rw [List.mapM_cons] at all
      obtain ⟨first, here, more⟩ := Option.bind_eq_some_iff.mp all
      obtain ⟨others, later, same⟩ := Option.bind_eq_some_iff.mp more
      cases same
      intro entry member
      cases List.mem_cons.mp member with
      | inl newest => exact ⟨line, List.mem_cons_self, newest ▸ here⟩
      | inr older =>
          obtain ⟨source, below, known⟩ := ih others later entry older
          exact ⟨source, List.mem_cons_of_mem line below, known⟩

theorem saved_entries_plain (lines entries : List String) (saved : savedEntries? lines = some entries)
    (free : ∀ line ∈ lines, '\r' ∉ line.toList) : ∀ entry ∈ entries, '\r' ∉ entry.toList := by
  cases lines with
  | nil => cases saved
  | cons first below =>
      rw [savedEntries?] at saved
      split at saved
      · intro entry member inside
        obtain ⟨line, known, read⟩ := mem_of_each_read _ below entries saved entry member
        obtain ⟨letters, unescaped, rfl⟩ := Option.map_eq_some_iff.mp read
        rw [String.toList_ofList] at inside
        rcases mem_unescape line.toList letters '\r' unescaped inside with here | newline
        · exact free line (List.mem_cons_of_mem first known) here
        · cases newline
      · cases saved

theorem lines_plain (text : String) (plain : '\r' ∉ text.toList) : ∀ line ∈ Text.linesOf text, '\r' ∉ line.toList := by
  intro line member inside
  obtain ⟨letters, known, rfl⟩ := List.mem_map.mp member
  rw [String.toList_ofList] at inside
  exact plain (Text.mem_of_line _ letters known _ inside)

theorem load_plain (editor : LineEditor) (recovers : editor.RecoversPlain) (text : String) (plain : '\r' ∉ text.toList) :
    ∀ entry ∈ (load editor.recover text).entries, entry.toList.getLast? ≠ some '\r' := by
  have free := lines_plain text plain
  intro entry member last
  rcases empty.mem_add_all _ entry member with added | none
  · apply absurd (List.mem_of_getLast? last)
    cases saved : savedEntries? (Text.linesOf text) with
    | none =>
        rw [saved] at added
        exact recovers _ free entry added
    | some entries =>
        rw [saved] at added
        exact saved_entries_plain _ entries saved free entry added
  · cases none

end History

end ReversePolish
