import MonkeySyntax.CommandLine

open MonkeySyntax.CommandLine

/-- A failure to read is known by the system's description and code. -/
def readFailure : IO.Error → ReadFailure
  | .noFileOrDirectory _ code details => .system details code.toNat
  | .inappropriateType _ code details => .system details code.toNat
  | .permissionDenied _ code details => .system details code.toNat
  | .invalidArgument _ code details => .system details code.toNat
  | .resourceExhausted _ code details => .system details code.toNat
  | .unsupportedOperation code details => .system details code.toNat
  | .hardwareFault code details => .system details code.toNat
  | .otherError code details => .system details code.toNat
  | error => .system (toString error) 0

/-- A stream is read in pieces up to its end. -/
partial def readStream (stream : IO.FS.Stream) (bytes : ByteArray) : IO ByteArray := do
  let piece ← stream.read 65536
  if piece.isEmpty then return bytes
  readStream stream (bytes ++ piece)

/-- The text comes from the named file, or else from the standard input. -/
def readContent (file : Option String) : IO (Except ReadFailure ByteArray) := do
  try
    let stream ←
      match file with
      | some path => pure (IO.FS.Stream.ofHandle (← IO.FS.Handle.mk path .read))
      | none => IO.getStdin
    return .ok (← readStream stream ByteArray.empty)
  catch error => return .error (readFailure error)

def printResponse (response : Response) : IO UInt32 := do
  (← IO.getStdout).putStr response.output
  (← IO.getStderr).putStr response.errors
  return response.code.toUInt32

def main (words : List String) : IO UInt32 := do
  match Request.ofWords? words with
  | none => printResponse refusal
  | some .help => printResponse (respondWith helpText)
  | some .version => printResponse (respondWith versionText)
  | some (.read options) => printResponse (respond options (← readContent options.file))
