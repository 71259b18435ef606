import XnetSocket.Handler

/-!
Handlers that keep a record of the callbacks they receive.

The record is how a callback is observed: whatever handler is put inside, what a connection
calls on it can be read off the record, and the handler answers as it would without one.
-/

namespace XnetSocket

inductive Callback
  | on_shutdown
  | on_message (msg : Message)
  | on_close (code : CloseCode) (reason : String)
  | on_error (err : Error)
  | on_timeout (event : Token)
  | on_new_timeout (event : Token) (timeout : TimerHandle)
  deriving DecidableEq

/-- How often `on_close` is among the callbacks. -/
def closes (calls : List Callback) : ℕ :=
  calls.countP fun call => match call with
    | .on_close _ _ => true
    | _ => false

@[simp] lemma closes_append (l m : List Callback) : closes (l ++ m) = closes l + closes m :=
  List.countP_append

@[simp] lemma closes_on_close (code : CloseCode) (reason : String) :
    closes [.on_close code reason] = 1 := rfl

/-- A handler with its number among all the handlers made, and its callbacks so far. -/
structure Recorded (H : Type) where
  inner : H
  birth : ℕ
  calls : List Callback

namespace Recorded

variable {H : Type} [Handler H]

def note (h : Recorded H) (inner : H) (call : Callback) : Recorded H :=
  ⟨inner, h.birth, h.calls ++ [call]⟩

instance : Handler (Recorded H) where
  on_shutdown h := h.note (Handler.on_shutdown h.inner) .on_shutdown
  on_message h msg :=
    let (inner, res) := Handler.on_message h.inner msg
    (h.note inner (.on_message msg), res)
  on_close h code reason := h.note (Handler.on_close h.inner code reason) (.on_close code reason)
  on_error h err := h.note (Handler.on_error h.inner err) (.on_error err)
  on_timeout h event :=
    let (inner, res) := Handler.on_timeout h.inner event
    (h.note inner (.on_timeout event), res)
  on_new_timeout h event timeout :=
    let (inner, res) := Handler.on_new_timeout h.inner event timeout
    (h.note inner (.on_new_timeout event timeout), res)

/-! ### What a callback leaves in the record -/

@[simp] lemma birth_on_shutdown (h : Recorded H) : (Handler.on_shutdown h).birth = h.birth := rfl

@[simp] lemma birth_on_message (h : Recorded H) (msg : Message) :
    (Handler.on_message h msg).1.birth = h.birth := rfl

@[simp] lemma birth_on_close (h : Recorded H) (code : CloseCode) (reason : String) :
    (Handler.on_close h code reason).birth = h.birth := rfl

@[simp] lemma birth_on_error (h : Recorded H) (err : Error) :
    (Handler.on_error h err).birth = h.birth := rfl

@[simp] lemma birth_on_timeout (h : Recorded H) (event : Token) :
    (Handler.on_timeout h event).1.birth = h.birth := rfl

@[simp] lemma birth_on_new_timeout (h : Recorded H) (event : Token) (timeout : TimerHandle) :
    (Handler.on_new_timeout h event timeout).1.birth = h.birth := rfl

@[simp] lemma calls_on_shutdown (h : Recorded H) :
    (Handler.on_shutdown h).calls = h.calls ++ [.on_shutdown] := rfl

@[simp] lemma calls_on_message (h : Recorded H) (msg : Message) :
    (Handler.on_message h msg).1.calls = h.calls ++ [.on_message msg] := rfl

@[simp] lemma calls_on_close (h : Recorded H) (code : CloseCode) (reason : String) :
    (Handler.on_close h code reason).calls = h.calls ++ [.on_close code reason] := rfl

@[simp] lemma calls_on_error (h : Recorded H) (err : Error) :
    (Handler.on_error h err).calls = h.calls ++ [.on_error err] := rfl

@[simp] lemma calls_on_timeout (h : Recorded H) (event : Token) :
    (Handler.on_timeout h event).1.calls = h.calls ++ [.on_timeout event] := rfl

@[simp] lemma calls_on_new_timeout (h : Recorded H) (event : Token) (timeout : TimerHandle) :
    (Handler.on_new_timeout h event timeout).1.calls =
      h.calls ++ [.on_new_timeout event timeout] := rfl

end Recorded

end XnetSocket
