import ReversePolish.Text.Lines

set_option autoImplicit false

namespace ReversePolish.Text

def Ended (text : List Char) : Prop := ∀ c ∈ text.getLast?, c = '\n'

theorem ended_of_newline (text : List Char) (newline : text.getLast? = some '\n') : Ended text := by
  intro last member
  rw [newline] at member
  exact (Option.some.inj member).symm

theorem lines_char (c : Char) (rest : List Char) (other : c ≠ '\n') (alone : c = '\r' → rest.head? ≠ some '\n') :
    lines (c :: rest) = extendLine c (lines rest) := by
  refine lines.eq_4 c rest (fun tail carriage split => alone carriage ?_) other
  rw [split, List.head?_cons]

theorem lines_ne_nil (text : List Char) (filled : text ≠ []) : lines text ≠ [] := by
  cases text using lines.fun_cases with
  | case1 => exact absurd rfl filled
  | case2 rest => simp [lines]
  | case3 rest => simp [lines]
  | case4 c rest notReturn notNewline =>
      rw [lines.eq_4 c rest notReturn notNewline]
      cases lines rest <;> simp [extendLine]

theorem extend_append (c : Char) (first second : List (List Char)) (filled : first ≠ []) :
    extendLine c (first ++ second) = extendLine c first ++ second := by
  cases first with
  | nil => exact absurd rfl filled
  | cons line more => rfl

theorem ended_tail (c : Char) (rest : List Char) (ended : Ended (c :: rest)) : Ended rest := by
  intro last member
  cases rest with
  | nil => cases member
  | cons d more => exact ended last (by rwa [List.getLast?_cons_cons])

theorem lines_append (front back : List Char) (ended : Ended front) : lines (front ++ back) = lines front ++ lines back := by
  induction front using lines.induct with
  | case1 => rfl
  | case2 rest ih =>
      have later := ih (ended_tail '\n' rest (ended_tail '\r' _ ended))
      simpa [lines] using later
  | case3 rest ih =>
      have later := ih (ended_tail '\n' rest ended)
      simpa [lines] using later
  | case4 c rest notReturn notNewline ih =>
      cases rest with
      | nil => exact absurd (ended c rfl) notNewline
      | cons d more =>
          have alone : c = '\r' → d ≠ '\n' := fun carriage same => notReturn more carriage (by rw [same])
          have cut : lines (c :: (d :: more ++ back)) = extendLine c (lines (d :: more ++ back)) :=
            lines_char c _ notNewline fun carriage => by simpa using alone carriage
          rw [List.cons_append, cut, lines.eq_4 c _ notReturn notNewline, ih (ended_tail c _ ended),
            extend_append c _ _ (lines_ne_nil _ (List.cons_ne_nil d more))]

theorem lines_of_append (first second : String) (ended : Ended first.toList) :
    linesOf (first ++ second) = linesOf first ++ linesOf second := by
  rw [linesOf, String.toList_append, lines_append _ _ ended, List.map_append, linesOf, linesOf]

-- A line as it stands in a text: nothing in it ends it, and no carriage return before its end is lost.
def Line (line : List Char) : Prop := '\n' ∉ line ∧ line.getLast? ≠ some '\r'

theorem lines_line (line rest : List Char) (whole : Line line) : lines (line ++ '\n' :: rest) = line :: lines rest := by
  obtain ⟨free, last⟩ := whole
  induction line with
  | nil => simp [lines]
  | cons c more ih =>
      have notNewline : c ≠ '\n' := fun same => free (same ▸ List.mem_cons_self)
      have later : '\n' ∉ more := fun member => free (List.mem_cons_of_mem c member)
      have alone : c = '\r' → (more ++ '\n' :: rest).head? ≠ some '\n' := by
        rintro rfl
        cases more with
        | nil => exact absurd rfl last
        | cons d others => simpa using fun same : d = '\n' => later (same ▸ List.mem_cons_self)
      have ends : more.getLast? ≠ some '\r' := by
        intro same
        cases more with
        | nil => cases same
        | cons d others => exact last (by rwa [List.getLast?_cons_cons])
      rw [List.cons_append, lines_char c _ notNewline alone, ih later ends]
      rfl

theorem lines_flat_map (all : List (List Char)) (whole : ∀ line ∈ all, Line line) :
    lines (all.flatMap (· ++ ['\n'])) = all := by
  induction all with
  | nil => rfl
  | cons line rest ih =>
      have later := ih fun l member => whole l (List.mem_cons_of_mem line member)
      rw [List.flatMap_cons, List.append_assoc, List.singleton_append, lines_line line _ (whole line List.mem_cons_self), later]

theorem mem_of_extended (c d : Char) (line : List Char) (all : List (List Char)) (member : line ∈ extendLine c all)
    (inside : d ∈ line) : d = c ∨ ∃ old ∈ all, d ∈ old := by
  cases all with
  | nil =>
      rw [List.mem_singleton.mp member] at inside
      exact Or.inl (List.mem_singleton.mp inside)
  | cons first more =>
      cases List.mem_cons.mp member with
      | inl extended =>
          rw [extended] at inside
          exact (List.mem_cons.mp inside).imp id fun later => ⟨first, List.mem_cons_self, later⟩
      | inr later => exact Or.inr ⟨line, List.mem_cons_of_mem first later, inside⟩

theorem mem_of_line (text line : List Char) (member : line ∈ lines text) : ∀ c ∈ line, c ∈ text := by
  intro c inside
  induction text using lines.induct generalizing line with
  | case1 => cases member
  | case2 rest ih =>
      cases List.mem_cons.mp member with
      | inl empty => exact absurd (empty ▸ inside) List.not_mem_nil
      | inr later => exact List.mem_cons_of_mem _ (List.mem_cons_of_mem _ (ih line later inside))
  | case3 rest ih =>
      cases List.mem_cons.mp member with
      | inl empty => exact absurd (empty ▸ inside) List.not_mem_nil
      | inr later => exact List.mem_cons_of_mem _ (ih line later inside)
  | case4 d rest notReturn notNewline ih =>
      rw [lines.eq_4 d rest notReturn notNewline] at member
      rcases mem_of_extended d c line _ member inside with rfl | ⟨old, known, later⟩
      · exact List.mem_cons_self
      · exact List.mem_cons_of_mem d (ih old known later)

end ReversePolish.Text
