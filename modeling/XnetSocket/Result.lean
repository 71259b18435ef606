import Mathlib.Data.List.Basic
import Mathlib.Tactic.Common

/-!
Errors, and the ways a thread of the event loop can panic.

An error of the library is a kind with the details that go with it. Errors that come from the
standard library, from the operating system or from a handler are carried by their kind.
-/

namespace XnetSocket

abbrev Bytes := List UInt8

/-- The kinds of input and output error the library tells apart. -/
inductive ErrorKind
  | NotFound | Interrupted | WouldBlock | Other
  deriving DecidableEq

structure IoError where
  kind : ErrorKind
  raw_os_error : Option Int
  description : String
  deriving DecidableEq

/-- How far the bytes are a text, and how many bytes behind that are wrong; none are when the
end comes too early. -/
structure Utf8Error where
  valid_up_to : ℕ
  error_len : Option ℕ
  deriving DecidableEq

inductive HttpError
  | HeaderName | HeaderValue | NewLine | Status | Token | TooManyHeaders | Version
  deriving DecidableEq

/-- The timer holds as many timeouts as it can. -/
inductive TimerError
  | TimerOverflow
  deriving DecidableEq

inductive Kind
  | Internal
  | Capacity
  | Protocol
  | Encoding (err : Utf8Error)
  | Io (err : IoError)
  | Http (err : HttpError)
  | Queue (err : String)
  | Timer (err : TimerError)
  | Custom (err : String)
  deriving DecidableEq

structure Error where
  kind : Kind
  details : String
  deriving DecidableEq

abbrev Result (α : Type) := Except Error α

def Error.new (kind : Kind) (details : String) : Error := ⟨kind, details⟩

def Utf8Error.description (_ : Utf8Error) : String := "invalid utf-8: corrupt contents"

/-- The text an error is shown with. -/
def Utf8Error.to_string (err : Utf8Error) : String :=
  match err.error_len with
  | some len => "invalid utf-8 sequence of " ++ toString len ++ " bytes from index " ++
      toString err.valid_up_to
  | none => "incomplete utf-8 byte sequence from index " ++ toString err.valid_up_to

def Kind.description : Kind → String
  | .Internal => "Internal Application Error"
  | .Capacity => "Socket at Capacity"
  | .Protocol => "Socket Protocol Error"
  | .Encoding err => err.description
  | .Io err => err.description
  | .Http _ => "Unable to parse HTTP"
  | .Queue _ => "Unable to send signal on event loop"
  | .Timer _ => "Unable to schedule timeout on event loop"
  | .Custom err => err

def Error.to_string (err : Error) : String :=
  if 0 < err.details.length then err.kind.description ++ ": " ++ err.details
  else err.kind.description

def Error.from_io (err : IoError) : Error := .new (.Io err) err.description

def Error.from_utf8_error (err : Utf8Error) : Error := .new (.Encoding err) err.to_string

def Error.from_timer (err : TimerError) : Error :=
  .new (.Timer err) "Unable to schedule timeout on event loop"

/-- The system error code of a refused connection. -/
def CONNECTION_REFUSED : Int := 111

/-- What unwinds the thread of the event loop. -/
inductive Panic
  | slice | index | unwrap | expect | debug_assert | overflow | capacity | setting
  deriving DecidableEq

end XnetSocket
