import PathSort.Proofs.Directive.WireForm
import PathSort.Report.PlanReport

/-!
# Reading a plan report

What the lines of a report say can be read off their plain text. A line with a label is two blanks,
the label, a blank and a text, and labels hold no blank, so that the label and the text are where
the first blank behind them stands. A heading has no label because no field that is read from a
token begins with a blank. -/

namespace PathSort.Report

set_option autoImplicit false

def Line.after? (label : String) (line : Line) : Option String :=
  let start := ("  " ++ label ++ " ").toList
  let printed := (line.render .plain).toList
  if start <+: printed then some (String.ofList (printed.drop start.length)) else none

theorem after_eq_some_iff (label : String) (line : Line) (text : String) :
    line.after? label = some text ↔ line.render .plain = Line.labelled .plain label text := by
  have spelled : Line.labelled .plain label text = "  " ++ label ++ " " ++ text := rfl
  rw [spelled, ← String.toList_inj, String.toList_append, Line.after?]
  constructor
  · intro read
    split at read
    · rename_i start
      obtain ⟨rest, whole⟩ := start
      cases read
      rw [← whole]
      simp
    · cases read
  · intro whole
    rw [whole]
    simp

theorem labelled_inj {label other text said : String} (label_bare : ' ' ∉ label.toList)
    (other_bare : ' ' ∉ other.toList)
    (same : Line.labelled .plain label text = Line.labelled .plain other said) :
    label = other ∧ text = said := by
  have spread : ∀ own behind : String, (Line.labelled .plain own behind).toList =
      ' ' :: ' ' :: (own.toList ++ ' ' :: behind.toList) := by
    intro own behind
    simp [Line.labelled, Palette.paint]
  have cut : ∀ own behind : String, ' ' ∉ own.toList →
      (own.toList ++ ' ' :: behind.toList).takeWhile (· ≠ ' ') = own.toList ∧
        (own.toList ++ ' ' :: behind.toList).dropWhile (· ≠ ' ') = ' ' :: behind.toList := by
    intro own behind bare
    apply Text.cut_append
    · intro c member
      simp only [ne_eq, decide_not, Bool.not_eq_eq_eq_not, Bool.not_true, decide_eq_false_iff_not]
      rintro rfl
      exact bare member
    · intro c first
      cases first
      simp
  rw [← String.toList_inj, spread, spread] at same
  simp only [List.cons.injEq, true_and] at same
  obtain ⟨label_cut, text_cut⟩ := cut label text label_bare
  obtain ⟨other_cut, said_cut⟩ := cut other said other_bare
  rw [same] at label_cut text_cut
  have behind := said_cut.symm.trans text_cut
  exact ⟨String.toList_inj.mp (label_cut.symm.trans other_cut),
    String.toList_inj.mp (List.cons.inj behind).2.symm⟩

theorem after_labelled {label own text : String} (label_bare : ' ' ∉ label.toList)
    (own_bare : ' ' ∉ own.toList) {line : Line}
    (printed : line.render .plain = Line.labelled .plain own text) :
    line.after? label = if own = label then some text else none := by
  by_cases same : own = label
  · rw [if_pos same, after_eq_some_iff, printed, same]
  · rw [if_neg same, Option.eq_none_iff_forall_ne_some]
    intro said read
    have spelled := (after_eq_some_iff label line said).mp read
    rw [printed] at spelled
    exact same (labelled_inj own_bare label_bare spelled).1

/-- A heading has no label when its field does not begin with a blank. -/
theorem after_heading {directive : Directive} (bare : Text.StartsBare directive.field.toList)
    (label : String) : (Line.heading directive).after? label = none := by
  rw [Option.eq_none_iff_forall_ne_some]
  intro said read
  have spelled := (after_eq_some_iff label _ said).mp read
  have some_field : directive.field.toList ≠ [] := by
    simpa using directive.field_ne
  have first : (directive.field.toList ++ ("," ++ directive.order.word).toList).head? =
      some ' ' := by
    rw [← String.toList_append, ← String.append_assoc]
    have heads := congrArg (fun printed : String => printed.toList.head?) spelled
    simpa [Line.render, Palette.paint, Directive.display, Line.labelled] using heads
  have blank := Text.starts_bare_append bare some_field ' ' first
  exact blank (by decide)

def Line.said? : Line → Option (String × String)
  | .heading _ => none
  | .shape name => some ("shape:", name)
  | .ignored => some ("shape:", "unsupported (ignored)")
  | .join clause => some ("join:", clause.sql)
  | .select columns => some ("select:", columns)
  | .order term => some ("order:", term.sql)

theorem said_spelled {line : Line} {own text : String} (said : line.said? = some (own, text)) :
    line.render .plain = Line.labelled .plain own text ∧ ' ' ∉ own.toList := by
  cases line with
  | heading directive => cases said
  | shape name => cases said; exact ⟨rfl, by decide⟩
  | ignored => cases said; exact ⟨rfl, by decide⟩
  | join clause => cases said; exact ⟨rfl, by decide⟩
  | select columns => cases said; exact ⟨rfl, by decide⟩
  | order term => cases said; exact ⟨rfl, by decide⟩

def Line.Bare (line : Line) : Prop :=
  ∀ directive, line = .heading directive → Text.StartsBare directive.field.toList

/-- What is read off the printed line is what the line says. -/
theorem after_eq_said {label : String} (label_bare : ' ' ∉ label.toList) {line : Line}
    (bare : line.Bare) :
    line.after? label = (line.said?.filter (·.1 = label)).map Prod.snd := by
  cases said : line.said? with
  | none =>
      cases line with
      | heading directive => exact after_heading (bare directive rfl) label
      | shape name => cases said
      | ignored => cases said
      | join clause => cases said
      | select columns => cases said
      | order term => cases said
  | some spoken =>
      obtain ⟨own, text⟩ := spoken
      obtain ⟨printed, own_bare⟩ := said_spelled said
      rw [after_labelled label_bare own_bare printed]
      by_cases same : own = label
      · simp [Option.filter, same]
      · simp [Option.filter, same]

def Line.columns? : Line → Option String
  | .select columns => some columns
  | _ => none

def Line.clause? : Line → Option JoinClause
  | .join clause => some clause
  | _ => none

def Line.term? : Line → Option OrderTerm
  | .order term => some term
  | _ => none

theorem after_select {line : Line} (bare : line.Bare) : line.after? "select:" = line.columns? := by
  rw [after_eq_said (by decide) bare]
  cases line <;> rfl

theorem after_order {line : Line} (bare : line.Bare) :
    line.after? "order:" = line.term?.map OrderTerm.sql := by
  rw [after_eq_said (by decide) bare]
  cases line <;> rfl

theorem after_join (clause : JoinClause) :
    (Line.join clause).after? "join:" = some clause.sql :=
  (after_eq_some_iff "join:" (.join clause) clause.sql).mpr rfl

end PathSort.Report
