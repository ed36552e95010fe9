import ReliableStream.Cli.Run
/-! # The command

    Transfers bytes between two simulated nodes and reports whether the stream
    arrived intact. -/

/-- Runs the command line, prints what it leaves behind, and exits with its
    code. -/
def main (arguments : List String) : IO UInt32 := do
  let output := ReliableStream.Cli.execute 1_000_000_000_000_000_000 arguments
  IO.print output.stdout
  IO.eprint output.stderr
  return output.exitCode.toUInt32
