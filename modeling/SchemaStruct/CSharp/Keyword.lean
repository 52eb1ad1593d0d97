import SchemaStruct.Naming.Sanitizer

/-!
# Keywords of C#

The words that are no identifiers. Words that are special in some places only are identifiers and
not listed.
-/

namespace SchemaStruct.CSharp

/-- The reserved words of C#. -/
def keywords : List String :=
  ["abstract", "as", "base", "bool", "break", "byte", "case", "catch",
    "char", "checked", "class", "const", "continue", "decimal", "default",
    "delegate", "do", "double", "else", "enum", "event", "explicit",
    "extern", "false", "finally", "fixed", "float", "for", "foreach",
    "goto", "if", "implicit", "in", "int", "interface", "internal", "is",
    "lock", "long", "namespace", "new", "null", "object", "operator", "out",
    "override", "params", "private", "protected", "public", "readonly",
    "ref", "return", "sbyte", "sealed", "short", "sizeof", "stackalloc",
    "static", "string", "struct", "switch", "this", "throw", "true", "try",
    "typeof", "uint", "ulong", "unchecked", "unsafe", "ushort", "using",
    "virtual", "void", "volatile", "while"]

/-- The sanitizer for identifiers of C#, with nothing in use. -/
def sanitizer : Sanitizer := { reserved := keywords, caseSensitive := true }

end SchemaStruct.CSharp
