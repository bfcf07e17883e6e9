import Rendezvous.Digest.Sha1
import Rendezvous.Http.Head
import Rendezvous.Text.Base64
import Rendezvous.Text.Split

namespace Rendezvous.Http

def lower (b : UInt8) : UInt8 := if 65 ≤ b && b ≤ 90 then b + 32 else b

def Field.hasName (f : Field) (name : String) : Bool := f.name.map lower == Text.encode name

def Field.text? (f : Field) : Option String := (Text.decode? f.value).map Text.trim

def equalsIgnoringCase (s t : String) : Bool := s.toList.map Char.toLower == t.toList

namespace Head

def values (h : Head) (name : String) : List String :=
  h.fields.filterMap fun f => if f.hasName name then f.text? else none

def value? (h : Head) (name : String) : Option String := (h.values name).head?

def isGet (h : Head) : Bool := h.method == Text.encode "GET"

def namesWebSocket (h : Head) : Bool :=
  (h.values "upgrade").any fun s => equalsIgnoringCase s "websocket"

def elements (s : String) : List String :=
  (Text.splitAll ',' s.toList).map fun cs => Text.trim (String.ofList cs)

def asksUpgrade (h : Head) : Bool :=
  (h.values "connection").any fun s => (elements s).any fun e => equalsIgnoringCase e "upgrade"

def key? (h : Head) : Option String := h.value? "sec-websocket-key"

def protocolVersion : String := "13"

def hasVersion (h : Head) : Bool := h.value? "sec-websocket-version" == some protocolVersion

end Head

inductive Reaction where
  | accept (key : String)
  | refuseVersion
  | page
deriving DecidableEq, Repr

def Head.reaction (h : Head) : Reaction :=
  if h.isGet && h.namesWebSocket && h.asksUpgrade then
    match h.key? with
    | some key => if h.hasVersion then .accept key else .refuseVersion
    | none => .page
  else .page

def keySuffix : String := "258EAFA5-E914-47DA-95CA-C5AB0DC85B11"

def acceptKey (key : String) : String :=
  Text.Base64.encode (Digest.Sha1.hash (Text.encode (key ++ keySuffix)))

def pageBody : String := "funkstelle signaling server\n"

def Reaction.text : Reaction → String
  | .accept key =>
    "HTTP/1.1 101 Switching Protocols\r\nUpgrade: websocket\r\nConnection: Upgrade\r\n" ++
      "Sec-WebSocket-Accept: " ++ acceptKey key ++ "\r\n\r\n"
  | .refuseVersion =>
    "HTTP/1.1 426 Upgrade Required\r\nSec-WebSocket-Version: " ++ Head.protocolVersion ++
      "\r\nContent-Length: 0\r\nConnection: close\r\n\r\n"
  | .page =>
    "HTTP/1.1 200 OK\r\nContent-Type: text/plain; charset=utf-8\r\nContent-Length: " ++
      toString pageBody.utf8ByteSize ++ "\r\nConnection: close\r\n\r\n" ++ pageBody

end Rendezvous.Http
