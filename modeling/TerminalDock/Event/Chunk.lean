import TerminalDock.Codec.Base64
import TerminalDock.Failure

/-! The payloads of output events, and the names of the events of a session. -/

namespace TerminalDock.Event

def outputOf (session : String) : String := "terminal-output-" ++ session

def exitOf (session : String) : String := "terminal-exit-" ++ session

/-- A payload: encoded output, nothing, or a value of another kind that is no chunk. -/
inductive Payload
  | chunk (text : String)
  | other (kind : String)
  deriving DecidableEq, Repr

def Payload.nothing : Payload := .other "NoneType"

def encodeChunk (data : List UInt8) : Payload :=
  .chunk (String.ofList (Codec.Base64.encode data))

inductive ChunkError
  | malformed (fault : Codec.Base64.Fault)
  | wrongKind (kind : String)
  deriving DecidableEq, Repr

def ChunkError.message : ChunkError → String
  | .malformed .notAscii => Codec.Base64.Fault.notAscii.message
  | .malformed fault => "malformed output chunk: " ++ fault.message
  | .wrongKind kind =>
    s!"malformed output chunk: argument should be a bytes-like object or ASCII string, not '{kind}'"

def ChunkError.failure (error : ChunkError) : Failure :=
  .fault .value error.message

def decodeChunk : Payload → Except ChunkError (List UInt8)
  | .chunk text => (Codec.Base64.decode text.toList).mapError .malformed
  | .other kind => .error (.wrongKind kind)

end TerminalDock.Event
