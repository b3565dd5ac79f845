import TestSieve.CommandLine.Arguments

-- The texts that explain how the commands are called.
namespace TestSieve.CommandLine.Help

def usage : String :=
  "Usage: suite-filter [OPTIONS] <COMMAND>\n"

def verboseAndHelp : String :=
  "  -v, --verbose...  More diagnostics on stderr (-v info, -vv debug)
  -h, --help        Print help
"

def overview : String :=
  "Command-line front end for compiling and applying test-selection filters\n\n" ++ usage ++ "
Commands:
  compile  Print the XML for a filter definition
  select   Print the tests a filter definition selects from a listing
  check    Check that a filter XML string is well formed
  help     Print this message or the help of the given subcommand(s)

Options:
" ++ verboseAndHelp ++ "  -V, --version     Print version\n"

def compile : String :=
  "Print the XML for a filter definition

Usage: suite-filter compile [OPTIONS] <DEFINITION>

Arguments:
  <DEFINITION>  Filter definition (.json, .yaml or .yml)

Options:
" ++ verboseAndHelp

def select : String :=
  "Print the tests a filter definition selects from a listing

Usage: suite-filter select [OPTIONS] <DEFINITION> <TESTS>

Arguments:
  <DEFINITION>  Filter definition (.json, .yaml or .yml)
  <TESTS>       Test listing: a list of test cases (.json, .yaml or .yml)

Options:
      --full-names  Print full names instead of ids
" ++ verboseAndHelp

def check : String :=
  "Check that a filter XML string is well formed

Usage: suite-filter check [OPTIONS] <XML>

Arguments:
  <XML>  The filter XML

Options:
" ++ verboseAndHelp

def text : Option CommandName → String
  | none          => overview
  | some .compile => compile
  | some .select  => select
  | some .check   => check

end TestSieve.CommandLine.Help
