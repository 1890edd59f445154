namespace Highlighting.Help

def version : String :=
  "hilite 0.1.0\n"

def text : String :=
  "Tokenize source code with registered highlighting rule sets\n\n" ++
  "Usage: hilite [OPTIONS] [FILE]\n\n" ++
  "Arguments:\n" ++
  "  [FILE]  Source file to tokenize (reads stdin when omitted)\n\n" ++
  "Options:\n" ++
  "  -l, --lang <ALIAS>       Language alias, e.g. `asm` or `att`\n" ++
  "  -f, --format <FORMAT>    Output format [possible values: text, json, decorations]\n" ++
  "  -c, --config <CONFIG>    Configuration file path (default: ./hilite.json when present)\n" ++
  "      --log-level <LEVEL>  Log level: silent, error, warn, info, debug, trace\n" ++
  "      --log-json           Emit logs as JSON\n" ++
  "      --list               List registered language aliases and exit\n" ++
  "  -h, --help               Print help (see more with '--help')\n" ++
  "  -V, --version            Print version\n"

end Highlighting.Help
