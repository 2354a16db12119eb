/-
**The program.**

Reads the command line, prints the outcome and ends with its exit code. Everything it prints is
decided by `CommandLine.run`; only whether the output goes to a terminal is asked here.
-/

import JavaTypes.CommandLine.Run

def main (arguments : List String) : IO UInt32 := do
  let stdout ← IO.getStdout
  let outcome := JavaTypes.CommandLine.run (← stdout.isTty) arguments
  stdout.putStr outcome.stdout
  (← IO.getStderr).putStr outcome.stderr
  return outcome.exitCode.toUInt32
