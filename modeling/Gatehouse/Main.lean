import Gatehouse.Program
/-!
The program as a process: what it needs is looked up in the system, and how it ends is written out.
Nothing on the web is reachable from here.
-/

namespace Gatehouse

namespace Outside

def environment : IO Settings.Variables := do
  let block ← try IO.FS.readBinFile "/proc/self/environ" catch _ => pure ByteArray.empty
  let entries := ((String.fromUTF8? block).getD "").splitOn "\x00"
  return entries.filterMap fun entry => match entry.splitOn "=" with
    | name :: value :: rest => some (name, "=".intercalate (value :: rest))
    | _ => none

def entry (path : String) : IO (Option FileEntry) := do
  try
    let place ← IO.FS.realPath path
    if ← place.isDir then return some .folder
    return some (.file (String.fromUTF8? (← IO.FS.readBinFile place)))
  catch _ => return none

/-- Everything that a stream still holds, after what has been read from it. -/
partial def drain (s : IO.FS.Stream) (read : ByteArray) : IO ByteArray := do
  let more ← s.read 65536
  if more.isEmpty then return read else drain s (read ++ more)

def supply : (n : Need) → IO n.Answer
  | .file path => entry path
  | .fetch _ => pure .unreachable
  | .input => do return (← drain (← IO.getStdin) .empty).toList
  | .salt => do return (← IO.getRandomBytes (.ofNat Secret.saltSize)).toList

end Outside

end Gatehouse

open Gatehouse in
/-- Runs the program with the arguments of the process. -/
def main (args : List String) : IO UInt32 := do
  let ending ← (Program.run (← Outside.environment) args).interpret Outside.supply
  ending.log.forM fun line => IO.println line.text
  IO.print ending.output
  IO.eprint ending.complaint
  return .ofNat ending.exitCode
