import ReversePolish.Text.Lines

set_option autoImplicit false

namespace ReversePolish

def NoRepeat : List String → Prop
  | a :: b :: rest => a ≠ b ∧ NoRepeat (b :: rest)
  | _ => True

theorem no_repeat_take (count : Nat) (entries : List String) (valid : NoRepeat entries) :
    NoRepeat (entries.take count) := by
  induction entries generalizing count with
  | nil => simp [NoRepeat]
  | cons a rest ih =>
      cases count with
      | zero => simp [NoRepeat]
      | succ count =>
          cases rest with
          | nil => simp [NoRepeat]
          | cons b more =>
              cases count with
              | zero => simp [NoRepeat]
              | succ count => exact ⟨valid.1, by simpa using ih (count + 1) valid.2⟩

-- The newest entry comes first.
structure History where
  entries : List String
  filled : ∀ entry ∈ entries, entry ≠ ""
  noRepeat : NoRepeat entries
  bounded : entries.length ≤ 100
  changed : Bool

namespace History

def empty : History := ⟨[], by simp, trivial, by simp, false⟩

-- An empty entry and one that repeats the newest are not added; beyond a hundred the oldest goes.
def accepts (h : History) (entry : String) : Bool :=
  entry ≠ "" && h.entries.head? ≠ some entry

def add (h : History) (entry : String) : History :=
  if accepted : h.accepts entry = true then
    { entries := (entry :: h.entries).take 100
      filled := by
        simp only [accepts, Bool.and_eq_true, decide_eq_true_eq] at accepted
        intro old member
        cases List.mem_cons.mp (List.mem_of_mem_take member) with
        | inl head => exact head ▸ accepted.1
        | inr tail => exact h.filled old tail
      noRepeat := by
        simp only [accepts, Bool.and_eq_true, decide_eq_true_eq] at accepted
        apply no_repeat_take
        cases held : h.entries with
        | nil => trivial
        | cons newest older =>
            refine ⟨fun same => accepted.2 (by simp [held, same]), held ▸ h.noRepeat⟩
      bounded := List.length_take_le 100 _
      changed := true }
  else h

def addAll (h : History) (added : List String) : History := added.foldl add h

def escape (entry : List Char) : List Char :=
  entry.flatMap fun c =>
    if c = '\\' then ['\\', '\\'] else if c = '\n' then ['\\', 'n'] else [c]

def unescape? : List Char → Option (List Char)
  | [] => some []
  | '\\' :: '\\' :: rest => (unescape? rest).map ('\\' :: ·)
  | '\\' :: 'n' :: rest => (unescape? rest).map ('\n' :: ·)
  | c :: rest => if c = '\\' then none else (unescape? rest).map (c :: ·)

def header : String := "#V2"

def save (h : History) : String :=
  String.join ((header :: h.entries.reverse.map fun entry => String.ofList (escape entry.toList)).map (· ++ "\n"))

-- The entries in the lines of a saved history; `none` if no history was saved to them.
def savedEntries? : List String → Option (List String)
  | [] => none
  | first :: below =>
      if first = header then below.mapM fun line => (unescape? line.toList).map String.ofList else none

def load (recover : List String → List String) (text : String) : History :=
  let lines := Text.linesOf text
  { empty.addAll ((savedEntries? lines).getD (recover lines)) with changed := false }

theorem unescape_escape (entry : List Char) : unescape? (escape entry) = some entry := by
  induction entry with
  | nil => rfl
  | cons c rest ih =>
      by_cases slash : c = '\\'
      · subst slash
        simpa [escape, unescape?] using ih
      · by_cases newline : c = '\n'
        · subst newline
          simpa [escape, unescape?] using ih
        · simp only [escape, List.flatMap_cons, if_neg slash, if_neg newline, List.singleton_append]
          rw [unescape?.eq_4 _ _ (fun _ h _ => slash h) (fun _ h _ => slash h), if_neg slash]
          simpa [escape] using ih

end History

end ReversePolish
