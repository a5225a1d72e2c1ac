import CodeSmells.Report.Sections
import CodeSmells.Value.Json

/-!
The report as a page of HTML that needs no other file. Every text that comes from the analysed
project is escaped, so that it cannot open or close an element or an attribute. There is no page
when a number in the details is too long to be shown.
-/

set_option autoImplicit false

namespace CodeSmells.Report

/-- A character of text on a page. -/
def escapeChar (c : Char) : List Char :=
  if c == '&' then "&amp;".toList
  else if c == '<' then "&lt;".toList
  else if c == '>' then "&gt;".toList
  else if c == '"' then "&quot;".toList
  else if c == '\'' then "&#x27;".toList
  else [c]

/-- A text as it stands on a page. -/
def escape (s : String) : String :=
  String.ofList (s.toList.flatMap escapeChar)

/-- A row of the table of severities. -/
def severityRow (s : Severity) (n : Nat) : String :=
  "<tr><td>" ++ escape s.name ++ "</td><td>" ++ toString n ++ "</td></tr>"

/-- The details of a smell. -/
def detailBlock (style : Style) (r : Result) : Except String String :=
  if style.includeDetails then
    return "<pre>" ++ escape (← Json.indented r.details) ++ "</pre>"
  else return ""

/-- The list item of a smell. -/
def smellItem (style : Style) (r : Result) : Except String String := do
  let details ← detailBlock style r
  return "<li class=\"" ++ escape (String.ofList ((severityName r).toList.map Char.toLower)) ++
    "\">" ++ "<strong>" ++ escape r.smell ++ "</strong> " ++
    "<span class=\"badge\">" ++ escape (severityName r) ++ "</span> " ++
    escape r.location.describe ++ details ++ "</li>"

/-- A section of the page. -/
def sectionBlock (style : Style) (s : Section) : Except String String := do
  let items ← s.smells.mapM (smellItem style)
  return "<section><h2>" ++ escape s.heading ++ "</h2><ul>" ++ String.join items ++
    "</ul></section>"

/-- The rules on how the page looks. -/
def styleLines : List String :=
  ["  <style>",
   "    body \x7b font-family: ui-monospace, SFMono-Regular, Menlo, monospace; margin: 20px; \x7d",
   "    table \x7b border-collapse: collapse; margin-bottom: 18px; \x7d",
   "    td \x7b border: 1px solid #ddd; padding: 4px 10px; \x7d",
   "    section \x7b border: 1px solid #ddd; border-radius: 8px; padding: 10px; margin: 12px 0; \x7d",
   "    ul \x7b list-style: none; padding: 0; margin: 0; \x7d",
   "    li \x7b margin: 6px 0; \x7d",
   "    .badge \x7b border-radius: 4px; padding: 0 6px; background: #eee; \x7d",
   "    .critical .badge \x7b background: #f4b4b4; \x7d",
   "    .high .badge \x7b background: #f7d7a8; \x7d",
   "    .medium .badge \x7b background: #f7f1a8; \x7d",
   "  </style>"]

/-- The lines of the page around the sections on it. -/
def pageLines (o : Outcome) (blocks : List String) : List String :=
  ["<!doctype html>",
   "<html>",
   "<head>",
   "  <meta charset=\"utf-8\" />",
   "  <title>Code smells: " ++ escape o.project.name ++ "</title>"] ++
    styleLines ++
  ["</head>",
   "<body>",
   "  <h1>Code smells: " ++ escape o.project.name ++ "</h1>",
   "  <p>" ++ toString o.detected.length ++ " smells in " ++ toString o.filesWithSmells ++
     " files</p>",
   "  <table>" ++ String.join (o.severityCounts.map fun (s, n) => severityRow s n) ++ "</table>",
   "  " ++ String.join blocks,
   "</body>",
   "</html>"]

/-- The report as a page of HTML. -/
def page (o : Outcome) (style : Style) : Except String String := do
  let blocks ← (sections o style).mapM (sectionBlock style)
  return String.intercalate "\n" (pageLines o blocks) ++ "\n"

end CodeSmells.Report
