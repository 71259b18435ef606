import XnetSocket.Stream

/-!
The operating system, as the list of what it will answer to the calls of one kind, and the
interest it has been asked to watch each token for.

The tokens it refused to watch are a record for what follows; nothing the loop does depends on it.
-/

namespace XnetSocket

structure Os where
  /-- The answers to registering with the poll; a call succeeds when none is in store. -/
  polls : List (Except IoError Unit)
  resolves : List (Except IoError (List SocketAddr))
  connects : List (Except IoError TcpStream)
  nodelays : List (Except IoError Unit)
  accepts : List (Except IoError TcpStream)
  /-- The interest last registered for each token. -/
  interest : Token → Option Ready
  /-- The tokens whose registration failed, in order. -/
  refused : List Token

namespace Os

/-- An operating system that has been asked nothing yet, with nothing in store. -/
def init : Os := ⟨[], [], [], [], [], fun _ => none, []⟩

def register (os : Os) (token : Token) (interest : Ready) : Os × Except IoError Unit :=
  match os.polls with
  | .error err :: rest => ({ os with polls := rest, refused := os.refused ++ [token] }, .error err)
  | polls =>
    ({ os with polls := polls.tail, interest := Function.update os.interest token (some interest) },
      .ok ())

/-- Registering again replaces the interest, under the same answers. -/
def reregister (os : Os) (token : Token) (interest : Ready) : Os × Except IoError Unit :=
  os.register token interest

def to_socket_addrs (os : Os) (_url : String) : Os × Except IoError (List SocketAddr) :=
  match os.resolves with
  | [] => (os, .ok [])
  | res :: rest => ({ os with resolves := rest }, res)

def connect (os : Os) (_addr : SocketAddr) : Os × Except IoError TcpStream :=
  match os.connects with
  | [] => (os, .error ⟨.Other, some CONNECTION_REFUSED, "connection refused"⟩)
  | res :: rest => ({ os with connects := rest }, res)

def set_nodelay (os : Os) : Os × Except IoError Unit :=
  match os.nodelays with
  | [] => (os, .ok ())
  | res :: rest => ({ os with nodelays := rest }, res)

def accept (os : Os) : Os × Except IoError TcpStream :=
  match os.accepts with
  | [] => (os, .error would_block)
  | res :: rest => ({ os with accepts := rest }, res)

/-- Every registration asked for will succeed. -/
def Agrees (os : Os) : Prop := ∀ p ∈ os.polls, p = .ok ()

lemma Agrees.register {os : Os} (h : os.Agrees) (token : Token) (interest : Ready) :
    os.register token interest = ({ os with
      polls := os.polls.tail
      interest := Function.update os.interest token (some interest) }, .ok ()) := by
  unfold Os.register
  split
  · rename_i err rest hp
    have := h (.error err) (by simp [hp])
    cases this
  · rfl

lemma Agrees.tail {os : Os} (h : os.Agrees) (interest : Token → Option Ready) :
    ({ os with polls := os.polls.tail, interest := interest } : Os).Agrees :=
  fun p hp => h p (List.mem_of_mem_tail hp)

end Os

end XnetSocket
