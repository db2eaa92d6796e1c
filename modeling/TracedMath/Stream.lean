import TracedMath.Text.Utf8

namespace TracedMath

/-- What has arrived on each stream. -/
structure Streams where
  stdout : List UInt8
  stderr : List UInt8
  deriving DecidableEq, Repr

/-- One is standard output, two is standard error, and no other descriptor can be written to. -/
structure StreamWriter where
  fd : Int32
  deriving DecidableEq, Repr

inductive StreamError where
  | noWriter (fd : Int32)
  deriving DecidableEq, Repr

namespace StreamError

/-- The kind that a caller goes by. -/
def kind : StreamError → String
  | noWriter _ => "Unsupported"

def message : StreamError → String
  | noWriter fd => "no writer for fd " ++ toString fd.toInt

end StreamError

namespace StreamWriter

/-- An empty write to a descriptor without a writer is an error too. -/
def write (w : StreamWriter) (bytes : List UInt8) (s : Streams) : Except StreamError Streams :=
  if w.fd = 1 then .ok { s with stdout := s.stdout ++ bytes }
  else if w.fd = 2 then .ok { s with stderr := s.stderr ++ bytes }
  else .error (.noWriter w.fd)

/-- Text is written as its bytes. The reason of a failure is not passed on. -/
def writeText (w : StreamWriter) (text : String) (s : Streams) : Option Streams :=
  (w.write (utf8 text) s).toOption

inductive Payload where
  | bytes (bytes : List UInt8)
  | text (text : String)
  deriving DecidableEq, Repr

/-- A write, with the descriptor that is put into the writer before it, if any. -/
structure Request where
  fd? : Option Int32
  payload : Payload
  deriving DecidableEq, Repr

/-- How a request ended. Text has no reason to give. -/
inductive Response where
  | written
  | failed (reason : StreamError)
  | textFailed
  deriving DecidableEq, Repr

/-- The new descriptor stays in the writer. -/
def retarget (w : StreamWriter) (r : Request) : StreamWriter := ⟨r.fd?.getD w.fd⟩

def serve (w : StreamWriter) (r : Request) (s : Streams) : Response × Streams :=
  let w := w.retarget r
  match r.payload with
  | .bytes bytes =>
    match w.write bytes s with
    | .ok s => (.written, s)
    | .error reason => (.failed reason, s)
  | .text text =>
    match w.writeText text s with
    | some s => (.written, s)
    | none => (.textFailed, s)

/-- The response to each request, with the writer after it and what it sent to the streams. -/
def session (w : StreamWriter) : List Request → List (Response × StreamWriter × Streams)
  | [] => []
  | r :: rs =>
    let (response, sent) := w.serve r ⟨[], []⟩
    (response, w.retarget r, sent) :: (w.retarget r).session rs

/-- The streams after all requests. -/
def run (w : StreamWriter) (s : Streams) : List Request → Streams
  | [] => s
  | r :: rs => (w.retarget r).run (w.serve r s).2 rs

end StreamWriter

end TracedMath
