import TagRelay.Metrics.Basic
import TagRelay.Text.Parts

/-!
# Exposition of metrics

Scrapers read metrics as lines of text: for each family its help, its type and one
line for every series.
-/

namespace TagRelay.Metrics

/-- A character of a label value. -/
def labelChar (c : Char) : List Char :=
  if c = '\\' then ['\\', '\\']
  else if c = '"' then ['\\', '"']
  else if c = '\n' then ['\\', 'n']
  else [c]

/-- A character of a help text, which stands without quotes. -/
def helpChar (c : Char) : List Char :=
  if c = '\\' then ['\\', '\\']
  else if c = '\n' then ['\\', 'n']
  else [c]

def labelText (label : String × String) : String :=
  label.1 ++ "=\"" ++ String.ofList (label.2.toList.flatMap labelChar) ++ "\""

def Series.line (name : String) (s : Series) : String :=
  let labels :=
    if s.labels.isEmpty then ""
    else "\x7b" ++ Text.join "," (s.labels.map labelText) ++ "\x7d"
  name ++ labels ++ " " ++ Decimal.wholeText (s.value : Int) ++ "\n"

def Family.lines (f : Family) : String :=
  "# HELP " ++ f.name ++ " " ++ String.ofList (f.help.toList.flatMap helpChar) ++ "\n" ++
    "# TYPE " ++ f.name ++ " " ++ f.kind.word ++ "\n" ++
    String.join (f.series.map (Series.line f.name))

/-- The text of all families that have a series. -/
def exposition (m : Metrics) : String := String.join (m.families.map Family.lines)

end TagRelay.Metrics
