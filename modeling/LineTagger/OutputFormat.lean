/-!
The styles of annotated text.
-/

namespace LineTagger

/-- A style of annotated text. -/
inductive OutputFormat where
  | slashTags
  | xml
  | inlineXml
  deriving DecidableEq, Repr, Inhabited

namespace OutputFormat

/-- Every style, in the order in which they are offered. -/
def all : List OutputFormat := [.slashTags, .xml, .inlineXml]

/-- The name by which a style is chosen. -/
def name : OutputFormat → String
  | .slashTags => "slashTags"
  | .xml => "xml"
  | .inlineXml => "inlineXML"

/-- The style of a name, which must match exactly. -/
def ofName? (s : String) : Option OutputFormat := all.find? (·.name = s)

theorem mem_all (f : OutputFormat) : f ∈ all := by cases f <;> simp [all]

@[simp] theorem ofName?_name (f : OutputFormat) : ofName? f.name = some f := by
  cases f <;> rfl

end OutputFormat

end LineTagger
