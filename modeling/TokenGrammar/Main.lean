import TokenGrammar.CommandLine.Run

set_option autoImplicit false

/-! The program: reads the files and the lines that it is asked to work on, and prints what the
commands say. It decides nothing itself. -/

namespace TokenGrammar.CommandLine

def readFile? (name : String) : IO (Option (List Char)) := do
  try
    return some (← IO.FS.readFile name).toList
  catch _ =>
    return none

def readFiles (invocation : Invocation) : IO (List (String × List Char)) := do
  let name := match invocation with
    | .run options _ => options.config.getD localConfig
    | .version => localConfig
  let texts ← (Settings.candidates name).mapM (fun candidate => do
    return (candidate, ← readFile? candidate))
  return texts.filterMap (fun (candidate, text) => text.map (fun found => (candidate, found)))

def print (transcript : Transcript) : IO Unit := do
  let output ← IO.getStdout
  let errors ← IO.getStderr
  output.putStr (String.ofList transcript.output)
  output.flush
  errors.putStr (String.ofList transcript.errors)
  errors.flush

/-- The bytes of the next line of input and what was read after it; nothing at the end of input. -/
partial def nextLine (input : IO.FS.Stream) (buffer : ByteArray) :
    IO (Option (List UInt8 × ByteArray)) := do
  match buffer.toList.idxOf? 10 with
  | some index =>
      return some (buffer.toList.take index, ByteArray.mk (buffer.toList.drop (index + 1)).toArray)
  | none =>
      let chunk ← input.read 4096
      if chunk.isEmpty then
        if buffer.isEmpty then return none
        else return some (buffer.toList, ByteArray.empty)
      else nextLine input (buffer ++ chunk)

partial def converse (settings : Settings) (verbose : Bool) (input : IO.FS.Stream)
    (buffer : ByteArray) : IO UInt32 := do
  print prompt
  match ← nextLine input buffer with
  | none =>
      print (say [])
      return 0
  | some (bytes, rest) =>
      match replLine settings verbose (decodeLine bytes) with
      | .stop =>
          print (say [])
          return 0
      | .unreadable transcript =>
          print transcript
          return 1
      | .next transcript =>
          print transcript
          converse settings verbose input rest

end TokenGrammar.CommandLine

open TokenGrammar.CommandLine in
def main (arguments : List String) : IO UInt32 := do
  match parse arguments with
  | none =>
      print (complain "usage: synmatch [options] tokenize TEXT | match TEXT [--show-grammar] | repl")
      return 2
  | some invocation =>
      let files ← readFiles invocation
      match plan (fun name => files.lookup name) invocation with
      | .finished result =>
          print result.transcript
          return UInt32.ofNat result.code
      | .converse settings verbose =>
          converse settings verbose (← IO.getStdin) ByteArray.empty
