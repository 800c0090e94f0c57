namespace PaletteSnap.Command.Help

def version : String :=
  "piet-cleaner 0.1.0\n"

def overview : String :=
  "Snap a Piet program image onto the canonical 20-color palette

Usage: piet-cleaner <COMMAND>

Commands:
  remap    Remap every color of an image to its canonical Piet color
  palette  Print the canonical 20-color palette
  help     Print this message or the help of the given subcommand(s)

Options:
  -h, --help     Print help
  -V, --version  Print version
"

def remap : String :=
  "Remap every color of an image to its canonical Piet color

Usage: piet-cleaner remap [OPTIONS] <FILE>

Arguments:
  <FILE>  Input image (PNG, BMP, GIF, PNM or JPEG)

Options:
  -d, --diff-threshold <DIFF_THRESHOLD>    Per-channel tolerance used to identify the 20 colors
  -l, --level-threshold <LEVEL_THRESHOLD>  Tolerance used to decide which channels define a hue
  -o, --output <OUTPUT>                    Output PNG file (default: <name>.remapped.png)
  -v, --verbose                            Print the full color mapping and enable info logging
      --config <CONFIG>                    YAML config file (default: $PIET_CLEANER_CONFIG)
      --indexed                            Write an indexed PNG with the canonical palette
      --json                               Print a JSON report instead of progress lines
  -h, --help                               Print help
"

def palette : String :=
  "Print the canonical 20-color palette

Usage: piet-cleaner palette [OPTIONS]

Options:
      --json  Print as JSON
  -h, --help  Print help
"

def help : String :=
  "Print this message or the help of the given subcommand(s)

Usage: piet-cleaner help [COMMAND]...

Arguments:
  [COMMAND]...  Print help for the subcommand(s)
"

def misuse : String :=
  "error: invalid arguments

For more information, try '--help'.
"

end PaletteSnap.Command.Help
