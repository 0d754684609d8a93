import PathSort.Report.Palette
import PathSort.Sorting

/-!
# Plan reports

A plan report shows, for each token by itself, the directive that it reads as and what its plan asks
of a query. A token that is skipped by policy has two lines and no more. Tokens know nothing of each
other, so joins that they share are shown again.
-/

namespace PathSort.Report

set_option autoImplicit false

inductive Line where
  | heading (directive : Directive)
  | shape (name : String)
  /-- The shape of a field that is skipped. -/
  | ignored
  | join (clause : JoinClause)
  | select (columns : String)
  | order (term : OrderTerm)
deriving DecidableEq, Repr

namespace Line

def labelled (palette : Palette) (label text : String) : String :=
  "  " ++ palette.paint .label label ++ " " ++ text

def render (palette : Palette) : Line → String
  | heading directive => palette.paint .heading directive.display
  | shape name => labelled palette "shape:" name
  | ignored => labelled palette "shape:" (palette.paint .muted "unsupported (ignored)")
  | join clause => labelled palette "join:" clause.sql
  | select columns => labelled palette "select:" columns
  | order term => labelled palette "order:" term.sql

end Line

def planLines (plan : JoinPlan) (order : Direction) : List Line :=
  .shape plan.name :: plan.joins.map .join ++ plan.projection?.toList.map .select ++
    [.order ⟨plan.orderColumn, order⟩]

def directiveLines (options : SortOptions) (directive : Directive) :
    Except SortError (List Line) :=
  match JoinPlan.classify directive.field with
  | .ok plan => .ok (.heading directive :: planLines plan directive.order)
  | .error error =>
      if options.ignores error then .ok [.heading directive, .ignored] else .error error

def tokenLines (options : SortOptions) (raw : String) : Run Unit SortError (List Line) := do
  let directive ← options.read raw
  Run.ofExcept (directiveLines options directive)

def lines (options : SortOptions) : List String → Run Unit SortError (List Line)
  | [] => pure []
  | raw :: rest => do
      let block ← tokenLines options raw
      let blocks ← lines options rest
      pure (block ++ blocks)

/-- The text of a report: its lines, divided by line feeds and ended by one. -/
def text (palette : Palette) (lines : List Line) : String :=
  "\n".intercalate (lines.map (Line.render palette)) ++ "\n"

end PathSort.Report
