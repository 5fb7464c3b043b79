/-!
# Help

What the client tells about itself and its commands. A page of help says what a command does and how it is called, and
lists what it takes with a description of each entry. Descriptions stand in a column beside the entries; a full page has
them below, with blank lines between the entries.
-/

namespace BasinRegister.Client

/-- What help is given on. -/
inductive Topic where
  /-- The client. -/
  | client
  /-- The command that prints a listing. -/
  | list
  /-- The commands on cursors. -/
  | cursor
  /-- The command that decodes a token. -/
  | decode
  /-- The command that builds a token. -/
  | encode
  /-- Help on the client. -/
  | help
  /-- Help on the commands on cursors. -/
  | cursorHelp
  deriving DecidableEq, Repr

/-- An entry of a page. -/
structure HelpEntry where
  /-- What stands before the name to line up long names. -/
  mark : String
  /-- The name. -/
  name : String
  /-- The description. -/
  about : String
  /-- What the entry is if it is left out. -/
  note : String

namespace HelpEntry

/-- A command. -/
def command (name about : String) : HelpEntry := ⟨"", name, about, ""⟩

/-- An operand. -/
def operand (name about note : String) : HelpEntry := ⟨"", name, about, note⟩

/-- An option with a long name only. -/
def option (name about note : String) : HelpEntry := ⟨"    ", name, about, note⟩

/-- The option that asks for help. -/
def help (about : String) : HelpEntry := ⟨"-h, ", "--help", about, ""⟩

/-- The command that asks for help. -/
def helpCommand : HelpEntry := command "help" "Print this message or the help of the given subcommand(s)"

/-- The description with the note behind it. -/
def remark (e : HelpEntry) : String :=
  " ".intercalate ([e.about, e.note].filter (!·.isEmpty))

/-- The entry with its description in a column behind names of some width. -/
def beside (width : Nat) (e : HelpEntry) : String :=
  "  " ++ e.mark ++ e.name ++ String.ofList (List.replicate (width + 2 - e.name.length) ' ') ++ e.remark

/-- Where descriptions start that stand below their entries. -/
def margin : String := "          "

/-- The entry with its description below and its note in a paragraph of its own. -/
def spread (e : HelpEntry) : String :=
  let note := if e.note.isEmpty then "" else "\n" ++ margin ++ "\n" ++ margin ++ e.note
  "  " ++ e.mark ++ e.name ++ "\n" ++ margin ++ e.about ++ note

end HelpEntry

/-- A group of entries under a heading. -/
structure HelpSection where
  /-- The heading. -/
  heading : String
  /-- The entries. -/
  entries : List HelpEntry

namespace HelpSection

/-- The width of the longest name. -/
def nameWidth (s : HelpSection) : Nat :=
  (s.entries.map (·.name.length)).foldl max 2

/-- The lines of the group. -/
def text (isFull : Bool) (s : HelpSection) : String :=
  let body :=
    if isFull then "\n\n".intercalate (s.entries.map HelpEntry.spread)
    else "\n".intercalate (s.entries.map (HelpEntry.beside s.nameWidth))
  s.heading ++ ":\n" ++ body

end HelpSection

/-- A page of help. -/
structure HelpPage where
  /-- What the command does. -/
  about : String
  /-- More on what it does, if there is more to be told. -/
  longAbout : Option String
  /-- How it is called. -/
  call : String
  /-- What it takes. -/
  sections : List HelpSection

namespace HelpPage

/-- The text of the page, in full if that is asked for and there is more to be told. -/
def text (isFull : Bool) (p : HelpPage) : String :=
  let isFull := isFull && p.longAbout.isSome
  let about := if isFull then p.longAbout.getD p.about else p.about
  "\n\n".intercalate ([about, "Usage: " ++ p.call] ++ p.sections.map (HelpSection.text isFull))

end HelpPage

namespace Topic

/-- The help on help. -/
def helpOnHelp (call : String) : HelpPage :=
  { about := HelpEntry.helpCommand.about
    longAbout := none
    call
    sections := [⟨"Arguments", [.operand "[COMMAND]..." "Print help for the subcommand(s)" ""]⟩] }

/-- The page on a topic. What a full page tells of the option for help differs from what the short one does. -/
def page (isFull : Bool) : Topic → HelpPage
  | client =>
    { about := "CLI for riverdata servers: page through listings and inspect cursors."
      longAbout := none
      call := "rdata <COMMAND>"
      sections := [
        ⟨"Commands", [
          .command "list" "Fetch a listing and print each page body",
          .command "cursor" "Decode or build cursor tokens",
          .helpCommand]⟩,
        ⟨"Options", [.help "Print help", ⟨"-V, ", "--version", "Print version", ""⟩]⟩] }
  | list =>
    { about := "Fetch a listing and print each page body"
      longAbout := some <|
        "Fetch a listing and print each page body.\n\nExamples: rdata list http://localhost:7000 /locations " ++
        "--query office=SWT --all rdata list http://localhost:7000 /offices --accept text/csv"
      call := "rdata list [OPTIONS] <BASE_URL> <PATH>"
      sections := [
        ⟨"Arguments", [
          .operand "<BASE_URL>" "Server base URL" "[env: RIVERDATA_URL=]",
          .operand "<PATH>" "Endpoint path, e.g. `/locations`" ""]⟩,
        ⟨"Options", [
          .option "--accept <ACCEPT>" "Accept header sent with every request" "[default: application/json;version=2]",
          .option "--page-size <N>" "Requested page size" "",
          .option "--all" "Keep following `next-page` until the server reports the last page" "",
          .option "--query <KEY=VALUE>"
            "Extra query parameter. Repeat for several: --query office=SWT --query names=K*" "",
          .help (if isFull then "Print help (see a summary with '-h')" else "Print help (see more with '--help')")]⟩] }
  | cursor =>
    { about := "Decode or build cursor tokens"
      longAbout := none
      call := "rdata cursor <COMMAND>"
      sections := [
        ⟨"Commands", [
          .command "decode" "Decode a token the way the server does, printing the fields as JSON",
          .command "encode" "Build a token from its fields",
          .helpCommand]⟩,
        ⟨"Options", [.help "Print help"]⟩] }
  | decode =>
    { about := "Decode a token the way the server does, printing the fields as JSON"
      longAbout := none
      call := "rdata cursor decode [OPTIONS] <TOKEN>"
      sections := [
        ⟨"Arguments", [.operand "<TOKEN>" "" ""]⟩,
        ⟨"Options", [
          .option "--default-page-size <DEFAULT_PAGE_SIZE>" "Page size the server would fall back to" "[default: 500]",
          .help "Print help"]⟩] }
  | encode =>
    { about := "Build a token from its fields"
      longAbout := none
      call := "rdata cursor encode [OPTIONS] --offset <OFFSET> --page-size <PAGE_SIZE>"
      sections := [
        ⟨"Options", [
          .option "--offset <OFFSET>" "" "",
          .option "--page-size <PAGE_SIZE>" "" "",
          .option "--total <TOTAL>" "Known total; omitted means unknown (`null`)" "",
          .help "Print help"]⟩] }
  | help => helpOnHelp "rdata help [COMMAND]..."
  | cursorHelp => helpOnHelp "rdata cursor help [COMMAND]..."

/-- The text of the help on a topic. -/
def text (topic : Topic) (isFull : Bool) : String :=
  (topic.page isFull).text isFull

end Topic

end BasinRegister.Client
