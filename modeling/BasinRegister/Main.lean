import BasinRegister.Client.Run

/-!
# The command line

The client as a program. It opens no connection, so a listing ends with the report that nothing answers; the commands on
cursors need none.
-/

namespace BasinRegister.Client

/-- A transport without a connection. -/
def offline : Transport := fun _ _ => none

end BasinRegister.Client

/-- Runs the client, writes what it prints and gives its exit code. -/
def main (arguments : List String) : IO UInt32 := do
  let report := BasinRegister.Client.run BasinRegister.Client.offline 1 arguments
  IO.print report.output
  IO.eprint report.errorOutput
  return UInt32.ofNat report.exitCode
