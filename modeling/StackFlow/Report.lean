import StackFlow.Findings.Content
import StackFlow.Findings.Loops
import StackFlow.Findings.Size
import StackFlow.Findings.Summary

/-!
# Reports

A report has the sections that the settings ask for, each with its findings. Drawing it up changes
nothing about the analysis, so it can be drawn up again with other settings.
-/

namespace StackFlow

/-- The title of a section. -/
def SectionKind.title : SectionKind → String
  | .size => "Stack size" | .types => "Stack types" | .content => "Stack content"
  | .loops => "Loops" | .summary => "Summary"

/-- The findings of a section. -/
def ReportInput.findings (input : ReportInput) : SectionKind → List Finding
  | .size => input.sizeFindings
  | .types => input.typeFindings
  | .content => input.contentFindings
  | .loops => input.loopFindings
  | .summary => input.summaryFindings

/-- A section of a report. -/
structure ReportSection where
  kind : SectionKind
  findings : List Finding
deriving Repr, DecidableEq

namespace ReportSection

/-- The findings about a node. -/
def forNode (part : ReportSection) (node : NodeId) : List Finding :=
  part.findings.filter fun finding => finding.node? == some node

/-- The section as text, each finding on a line under the title. -/
def render (part : ReportSection) : String :=
  s!"== {part.kind.title} ==\n" ++
    String.join (part.findings.map fun finding => finding.render ++ "\n")

end ReportSection

/-- A report. -/
structure Report where
  sections : List ReportSection
deriving Repr, DecidableEq

namespace Report

/-- Draws up the sections that the settings ask for. -/
def build (input : ReportInput) : Report :=
  { sections := (SectionKind.all.filter input.settings.reports.contains).map fun kind =>
      ⟨kind, input.findings kind⟩ }

/-- A section, if the report has it. -/
def section? (report : Report) (kind : SectionKind) : Option ReportSection :=
  report.sections.find? (·.kind == kind)

/-- The findings of a severity, over all sections. -/
def withSeverity (report : Report) (severity : Severity) : List Finding :=
  report.sections.flatMap fun part => part.findings.filter (·.severity == severity)

/-- Whether there is a finding that is an error. -/
def hasErrors (report : Report) : Bool := !(report.withSeverity .error).isEmpty

/-- The report as text, with a blank line between sections. -/
def render (report : Report) : String :=
  "\n".intercalate (report.sections.map ReportSection.render)

end Report

end StackFlow
