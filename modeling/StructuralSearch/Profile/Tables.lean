import StructuralSearch.Profile.Basic

/-!
# The profiles of the known languages

In the script family `$` may stand in names, so its queries need no placeholders.  In C# a `$` in
front of a quote or of `@` opens an interpolated string and stays.  In HTML names hold letters,
digits and hyphens only, and tags and texts are parts of the element around them.
-/

namespace StructuralSearch

/-- The placeholders for languages whose names are made of letters, digits and underscores. -/
def Codec.underscored : Codec where
  rest := "a_x_3_x_a"
  node := "a_x_2_x_a"
  identifier := "a_x_1_x_a"

/-- The placeholders for languages whose names are made of letters, digits and hyphens. -/
def Codec.hyphenated : Codec where
  rest := "qx-3-xq"
  node := "qx-2-xq"
  identifier := "qx-1-xq"

namespace Profile

/-- TypeScript, JavaScript and their markup extensions. -/
def typescript : Profile where
  language := .typescript
  identifierKinds :=
    ["identifier", "property_identifier", "shorthand_property_identifier",
     "shorthand_property_identifier_pattern", "type_identifier", "private_property_identifier",
     "statement_identifier"]
  stringKinds := ["string", "string_fragment"]
  numberKinds := ["number"]
  textKinds := ["jsx_text"]
  programKind := "program"
  blockKind := "statement_block"
  leafRules := [("string", .unquoted ['"', '\'']), ("jsx_text", .collapsed)]

/-- Python. -/
def python : Profile where
  language := .python
  identifierKinds := ["identifier"]
  stringKinds := ["string_content"]
  numberKinds := ["integer", "float"]
  programKind := "module"
  blockKind := "block"
  leafRules := [("string_start", .quoteMark), ("string_end", .erased)]
  codec := some .underscored

/-- C#. -/
def csharp : Profile where
  language := .csharp
  identifierKinds := ["identifier"]
  stringKinds :=
    ["string_literal", "verbatim_string_literal", "raw_string_literal", "character_literal",
     "string_content"]
  numberKinds := ["integer_literal", "real_literal"]
  programKind := "compilation_unit"
  blockKind := "block"
  transparentKinds := ["global_statement"]
  leafRules :=
    [("string_literal", .unquoted ['"', '\'']), ("character_literal", .unquoted ['"', '\'']),
     ("verbatim_string_literal", .verbatim), ("raw_string_literal", .bare)]
  codec := some { Codec.underscored with keepBefore := ['"', '@'] }

/-- HTML and the templates built on it. -/
def html : Profile where
  language := .html
  identifierKinds := ["tag_name", "attribute_name"]
  stringKinds := ["attribute_value"]
  numberKinds := []
  textKinds := ["text"]
  programKind := "document"
  blockKind := "element"
  wrapperKinds := []
  fragmentKinds := ["start_tag", "end_tag", "self_closing_tag", "erroneous_end_tag", "text"]
  leafRules := [("text", .collapsed)]
  codec := some .hyphenated

/-- The profile of a language. -/
def ofLanguage : Language → Profile
  | .typescript => typescript
  | .python => python
  | .csharp => csharp
  | .html => html

/-- Each language has its own profile. -/
theorem language_ofLanguage (language : Language) : (ofLanguage language).language = language := by
  cases language <;> rfl

end Profile

end StructuralSearch
