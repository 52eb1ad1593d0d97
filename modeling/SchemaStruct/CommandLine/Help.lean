/-!
# Help

The text that explains the command line.
-/

namespace SchemaStruct.CommandLine

/-- The lines of the help. -/
def helpLines : List String :=
  ["usage: structgen [-h] [--top-level NAME] [--namespace NS] [--config FILE]",
    "                 [--access-modifier \x7bpublic,internal,none\x7d]",
    "                 [--array-type \x7barray,list\x7d] [--no-json-attributes]",
    "                 [--no-comments] [--list-languages]",
    "                 [--log-level \x7bDEBUG,INFO,WARNING,ERROR\x7d]",
    "                 [SCHEMA]",
    "",
    "Generate immutable C# readonly structs from a JSON Schema.",
    "",
    "positional arguments:",
    "  SCHEMA                JSON Schema file path or http(s) URL",
    "",
    "options:",
    "  -h, --help            show this help message and exit",
    "",
    "output options:",
    "  --top-level NAME      Name for the top-level record",
    "  --namespace NS        C# namespace for generated types",
    "  --config FILE         Configuration file path (JSON)",
    "  --access-modifier \x7bpublic,internal,none\x7d",
    "                        Accessibility of generated structs",
    "  --array-type \x7barray,list\x7d",
    "                        Declare arrays as T[] or List<T>",
    "  --no-json-attributes  Omit [JsonPropertyName] attributes",
    "  --no-comments         Omit documentation comments",
    "",
    "information:",
    "  --list-languages      List supported target languages and exit",
    "  --log-level \x7bDEBUG,INFO,WARNING,ERROR\x7d",
    "                        Diagnostic verbosity (default: WARNING)"]

end SchemaStruct.CommandLine
