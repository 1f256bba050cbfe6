import SourceLocator.Files.Path

/-!
The languages whose syntax trees are understood: which files are in a language, which nodes of its
trees declare something, and which nodes are identifiers.
-/

set_option autoImplicit false

namespace SourceLocator

inductive Language where
  | python
  | javascript
  | typescript
  | java
  | kotlin
  | go
  | ruby
  | rust
  | c
  | cpp
  | csharp
  | swift
deriving DecidableEq, Repr

namespace Language

def all : List Language :=
  [.python, .javascript, .typescript, .java, .kotlin, .go, .ruby, .rust, .c, .cpp, .csharp, .swift]

def name : Language → String
  | .python => "python"
  | .javascript => "javascript"
  | .typescript => "typescript"
  | .java => "java"
  | .kotlin => "kotlin"
  | .go => "go"
  | .ruby => "ruby"
  | .rust => "rust"
  | .c => "c"
  | .cpp => "cpp"
  | .csharp => "csharp"
  | .swift => "swift"

def grammar : Language → String
  | .csharp => "c_sharp"
  | language => language.name

def suffixes : Language → List String
  | .python => [".py"]
  | .javascript => [".js", ".jsx", ".mjs", ".cjs"]
  | .typescript => [".ts", ".tsx"]
  | .java => [".java"]
  | .kotlin => [".kt", ".kts"]
  | .go => [".go"]
  | .ruby => [".rb"]
  | .rust => [".rs"]
  | .c => [".c", ".h"]
  | .cpp => [".cpp", ".cc", ".cxx", ".hpp", ".hh", ".hxx"]
  | .csharp => [".cs"]
  | .swift => [".swift"]

def identifierTypes : Language → List String
  | .javascript => ["identifier", "property_identifier"]
  | .typescript => ["identifier", "property_identifier", "type_identifier"]
  | .kotlin => ["simple_identifier", "type_identifier"]
  | .go => ["identifier", "field_identifier", "type_identifier"]
  | .ruby => ["identifier", "constant"]
  | .rust => ["identifier", "type_identifier"]
  | .cpp => ["identifier", "field_identifier", "type_identifier"]
  | .swift => ["simple_identifier", "type_identifier"]
  | .python | .java | .c | .csharp => ["identifier"]

def declarationTypes : Language → List String
  | .python => ["function_definition", "class_definition"]
  | .javascript =>
    ["function_declaration", "class_declaration", "method_definition", "variable_declarator"]
  | .typescript =>
    ["function_declaration", "class_declaration", "interface_declaration", "method_definition",
     "variable_declarator"]
  | .java =>
    ["class_declaration", "interface_declaration", "method_declaration",
     "constructor_declaration"]
  | .kotlin =>
    ["class_declaration", "object_declaration", "function_declaration", "property_declaration"]
  | .go => ["function_declaration", "method_declaration", "type_spec"]
  | .ruby => ["method", "singleton_method", "class", "module"]
  | .rust => ["function_item", "struct_item", "enum_item", "trait_item"]
  | .c => ["function_declarator"]
  | .cpp => ["function_declarator", "class_specifier", "struct_specifier"]
  | .csharp =>
    ["class_declaration", "interface_declaration", "method_declaration",
     "constructor_declaration"]
  | .swift => ["class_declaration", "function_declaration"]

def ofName? (name : Text) : Option Language := all.find? fun language => language.name.toList == name

def ofPath? (path : Path) : Option Language :=
  let suffix := String.ofList path.foldedSuffix
  all.find? fun language => language.suffixes.contains suffix

end Language

end SourceLocator
