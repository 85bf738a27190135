/-!
# Lines

The first line of a text ends before the first line feed, and a carriage return directly before
that line feed belongs to the line end. A text without a line feed is one line as it stands.

This is the first line of which §10.3 of the specification speaks.
-/

namespace Conformance.Line

/-- A line without the carriage return at its end, if it has one. -/
def dropReturn (line : List Char) : List Char :=
  if line.getLast? = some '\r' then line.dropLast else line

/-- The first line of a text, without its line end. -/
def first (text : List Char) : List Char :=
  match text.dropWhile (· != '\n') with
  | [] => text
  | _ :: _ => dropReturn (text.takeWhile (· != '\n'))

/-- What a line is when what precedes the first line feed is known. -/
theorem takeWhile_ne_feed {line : List Char} (h : '\n' ∉ line) (rest : List Char) :
    (line ++ rest).takeWhile (· != '\n') = line ++ rest.takeWhile (· != '\n') ∧
      (line ++ rest).dropWhile (· != '\n') = rest.dropWhile (· != '\n') := by
  induction line with
  | nil => simp
  | cons c cs ih =>
    have hc : (c != '\n') = true := by
      have : c ≠ '\n' := fun e => h (by simp [e])
      simpa using this
    have := ih fun hm => h (List.mem_cons_of_mem _ hm)
    simp [hc, this]

theorem first_of_no_feed {text : List Char} (h : '\n' ∉ text) : first text = text := by
  have hd : text.dropWhile (· != '\n') = [] := by
    have := (takeWhile_ne_feed h []).2
    rwa [List.append_nil, List.dropWhile_nil] at this
  simp only [first, hd]

theorem first_append_feed {line : List Char} (h : '\n' ∉ line) (rest : List Char) :
    first (line ++ '\n' :: rest) = dropReturn line := by
  have := takeWhile_ne_feed h ('\n' :: rest)
  simp at this
  simp [first, this]

end Conformance.Line
