import XnetSocket.Result

/-!
The codes a connection is closed with, and the codes of messages.
-/

namespace XnetSocket

inductive OpCode
  | Continue | Text | Binary | Close | Bad
  deriving DecidableEq

inductive CloseCode
  | Normal | Away | Protocol | Unsupported | Status | Abnormal | Invalid | Policy | Size
  | Extension | Error | Restart | Again | Tls | Empty
  | Other (code : UInt16)
  deriving DecidableEq

end XnetSocket
