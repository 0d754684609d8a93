import PathSort.Proofs.Report.SelectFromLines

/-!
# Reports block by block

A report is written as its lines with line feeds between them and one at the end. As every token has
at least one line, this comes to lines that are each ended by a line feed of their own, and so to
the blocks of the tokens one after another. A block is made from its token and the options alone.
Only the report on no tokens is no such text: it is a lone line feed.

The last line of a block is about a shape that is skipped or about an ordering. Neither ends with a
line feed, whatever the token holds, so that a report ends with one and no more.
-/

namespace PathSort.Report

set_option autoImplicit false

def printed (palette : Palette) (lines : List Line) : String :=
  String.join (lines.map fun line => line.render palette ++ "\n")

section Printing

variable (palette : Palette)

theorem printed_cons (line : Line) (rest : List Line) :
    printed palette (line :: rest) = line.render palette ++ "\n" ++ printed palette rest := by
  rw [printed, List.map_cons, String.join_cons, printed]

theorem printed_append (first second : List Line) :
    printed palette (first ++ second) = printed palette first ++ printed palette second := by
  rw [printed, List.map_append, String.join_append, printed, printed]

/-- With line feeds between the lines and one at the end, every line is ended by one. -/
theorem text_eq_printed {lines : List Line} (some_line : lines ≠ []) :
    text palette lines = printed palette lines := by
  induction lines with
  | nil => exact absurd rfl some_line
  | cons line rest ih =>
      rw [printed_cons]
      by_cases last : rest = []
      · simp [last, text, printed]
      · have between : rest.map (Line.render palette) ≠ [] := by
          simpa using last
        rw [← ih last, text, List.map_cons, String.intercalate_cons_of_ne_nil between,
          String.append_assoc, text]

theorem text_nil : text palette [] = "\n" := by
  simp [text]

end Printing

def Line.Closing : Line → Prop
  | .ignored => True
  | .order _ => True
  | _ => False

/-- What a closing line ends with are words of the report's own, not a text of the token. -/
theorem closing_rendered {line : Line} (closing : line.Closing) (palette : Palette) :
    ∃ final, (line.render palette).toList.getLast? = some final ∧ final ≠ '\n' := by
  cases line with
  | ignored =>
      cases palette with
      | plain => exact ⟨')', by decide, by decide⟩
      | colored => exact ⟨'m', by decide, by decide⟩
  | order term =>
      have spelled : (Line.order term).render palette =
          Line.labelled palette "order:" (term.column ++ " ") ++ term.direction.keyword := by
        simp [Line.render, Line.labelled, OrderTerm.sql, String.append_assoc]
      have keyword : term.direction.keyword.toList.getLast? = some 'C' := by
        cases term.direction <;> rfl
      refine ⟨'C', ?_, by decide⟩
      rw [spelled, String.toList_append, List.getLast?_append, keyword, Option.some_or]
  | heading directive => cases closing
  | shape name => cases closing
  | join clause => cases closing
  | select columns => cases closing

def Closed (lines : List Line) : Prop := ∃ line, lines.getLast? = some line ∧ line.Closing

theorem closed_append {second : List Line} (closed : Closed second) (first : List Line) :
    Closed (first ++ second) := by
  obtain ⟨line, last, closing⟩ := closed
  exact ⟨line, by rw [List.getLast?_append, last, Option.some_or], closing⟩

theorem some_line_of_closed {lines : List Line} (closed : Closed lines) : lines ≠ [] := by
  rintro rfl
  obtain ⟨line, last, -⟩ := closed
  cases last

def EndsOnce (written : String) : Prop :=
  ∃ body final, written.toList = body ++ [final, '\n'] ∧ final ≠ '\n'

theorem ends_once_of_closed {lines : List Line} (closed : Closed lines) (palette : Palette) :
    EndsOnce (printed palette lines) := by
  obtain ⟨line, last, closing⟩ := closed
  obtain ⟨final, ended, different⟩ := closing_rendered closing palette
  obtain ⟨front, rfl⟩ := List.getLast?_eq_some_iff.mp last
  obtain ⟨body, rendered⟩ := List.getLast?_eq_some_iff.mp ended
  refine ⟨(printed palette front).toList ++ body, final, ?_, different⟩
  rw [printed_append, printed_cons, String.toList_append, String.toList_append,
    String.toList_append, rendered]
  simp [printed]

variable {options : SortOptions}

/-- Every token has lines, and the last one of them closes its block. -/
theorem token_lines_closed {raw : String} {shown : List Line}
    (listed : (tokenLines options raw ()).result = .ok shown) : Closed shown := by
  rw [token_lines_result] at listed
  cases reading : options.reading raw with
  | malformed error =>
      rw [reading] at listed
      cases listed
  | refused directive error =>
      rw [reading] at listed
      cases listed
  | skipped directive =>
      rw [reading] at listed
      cases listed
      exact ⟨.ignored, rfl, trivial⟩
  | planned directive plan =>
      rw [reading] at listed
      cases listed
      have ordered : Closed [.order ⟨plan.orderColumn, directive.order⟩] := ⟨_, rfl, trivial⟩
      exact closed_append ordered (.heading directive :: .shape plan.name ::
        (plan.joins.map .join ++ plan.projection?.toList.map .select))

/-- A report on some tokens has lines, and the last one closes the block of the last token. -/
theorem lines_closed {raws : List String} {shown : List Line} (some_token : raws ≠ [])
    (listed : (lines options raws ()).result = .ok shown) : Closed shown := by
  obtain rfl | ⟨before, last, rfl⟩ := List.eq_nil_or_concat' raws
  · exact absurd rfl some_token
  · obtain ⟨early, late, -, behind, rfl⟩ := lines_append_listed listed
    rw [lines_result_singleton] at behind
    exact closed_append (token_lines_closed behind) early

def block (options : SortOptions) (palette : Palette) (raw : String) :
    Except SortError String := do
  let directive ← Directive.parse raw options.defaultOrder
  let shown ← directiveLines options directive
  return printed palette shown

theorem block_eq_printed (options : SortOptions) (palette : Palette) (raw : String) :
    block options palette raw = (tokenLines options raw ()).result.map (printed palette) := by
  rw [token_lines_parsed, block]
  cases Directive.parse raw options.defaultOrder with
  | error error => rfl
  | ok directive =>
      change (directiveLines options directive >>= fun shown => pure (printed palette shown)) =
        (directiveLines options directive).map (printed palette)
      cases directiveLines options directive with
      | error error => rfl
      | ok shown => rfl

/-- The lines of a report make up the blocks of its tokens, or the first block that fails is how the
report fails. -/
theorem printed_lines_eq_blocks (options : SortOptions) (palette : Palette) (raws : List String) :
    (lines options raws ()).result.map (printed palette) =
      (raws.mapM (block options palette)).map String.join := by
  induction raws with
  | nil => rfl
  | cons raw rest ih =>
      rw [lines_result_cons, List.mapM_cons, block_eq_printed]
      cases (tokenLines options raw ()).result with
      | error error => rfl
      | ok shown =>
          calc ((lines options rest ()).result.map (shown ++ ·)).map (printed palette)
            _ = ((lines options rest ()).result.map (printed palette)).map
                  (printed palette shown ++ ·) := by
                cases (lines options rest ()).result with
                | error error => rfl
                | ok others => simp [Except.map, printed_append]
            _ = ((rest.mapM (block options palette)).map String.join).map
                  (printed palette shown ++ ·) := by rw [ih]
            _ = (rest.mapM (block options palette) >>= fun blocks =>
                  pure (printed palette shown :: blocks)).map String.join := by
                cases rest.mapM (block options palette) with
                | error error => rfl
                | ok blocks => simp [Except.map, bind, Except.bind, pure, Except.pure]

end PathSort.Report
