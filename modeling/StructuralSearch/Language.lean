import StructuralSearch.FilePath
import StructuralSearch.Mode

/-!
# Languages

The languages whose syntax a search knows, their names and aliases, and the file extensions by
which their files are recognised.
-/

namespace StructuralSearch

/-- A language that can be searched by shape. -/
inductive Language
  | typescript
  | python
  | csharp
  | html
  deriving DecidableEq, Repr

namespace Language

/-- All languages, in the order in which extensions are tried. -/
def all : List Language := [typescript, python, csharp, html]

/-- The name under which a language is written. -/
def name : Language → String
  | typescript => "typescript"
  | python => "python"
  | csharp => "csharp"
  | html => "html"

/-- The other names a user may write. -/
def aliases : Language → List String
  | typescript => ["ts", "javascript", "js", "tsx", "jsx"]
  | python => ["py"]
  | csharp => ["c#", "cs"]
  | html => ["angular"]

/-- The extensions of the language's files. -/
def extensions : Language → List String
  | typescript => ["ts", "tsx", "mts", "cts", "js", "jsx", "mjs", "cjs"]
  | python => ["py", "pyi"]
  | csharp => ["cs"]
  | html => ["html", "htm"]

/-- The language with exactly this name. -/
def ofName? (name : String) : Option Language :=
  all.find? (·.name = name)

/-- Reads a language name as a user writes it. -/
def parse (input : String) : Except UnknownName Language :=
  let wanted := Text.asciiLowercase (Text.trim input)
  match all.find? fun language => wanted = language.name ∨ wanted ∈ language.aliases with
  | some language => .ok language
  | none => .error ⟨"language", wanted⟩

/-- The language whose files bear an extension, ASCII case aside. -/
def ofExtension? (extension : String) : Option Language :=
  all.find? (·.extensions.contains (Text.asciiLowercase extension))

/-- The language of the file at a path. -/
def ofPath? (path : String) : Option Language :=
  (FilePath.extension? path).bind ofExtension?

/-- Whether the file at a path is written in the language. -/
def handles (language : Language) (path : String) : Bool :=
  ofPath? path == some language

/-- Distinct languages have distinct names. -/
theorem ofName?_name (language : Language) : ofName? language.name = some language := by
  cases language <;> rfl

/-- No extension belongs to two languages. -/
theorem extensions_disjoint {a b : Language} {extension : String}
    (ha : extension ∈ a.extensions) (hb : extension ∈ b.extensions) : a = b := by
  have disjoint : ∀ a ∈ all, ∀ b ∈ all, a ≠ b → ∀ e ∈ a.extensions, e ∉ b.extensions := by decide
  have listed : ∀ language : Language, language ∈ all := fun language => by
    cases language <;> decide
  exact Classical.not_not.mp fun differ => disjoint a (listed a) b (listed b) differ _ ha hb

end Language

end StructuralSearch
