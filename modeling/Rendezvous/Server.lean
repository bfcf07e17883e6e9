import Rendezvous.Exit.Sockets
import Rendezvous.Hub
import Rendezvous.Settings.Basic
import Rendezvous.Tls.Material

namespace Rendezvous

structure Host where
  file? : String → Option (List UInt8)
  admits : IpAddress → Nat → Bool
  sockets : Exit.Sockets

structure Server where
  settings : Settings
  identity : Option Tls.Identity := none

def Settings.tlsPaths (s : Settings) : Tls.Paths := ⟨s.certificate, s.key, s.dhParameters⟩

def Settings.terms (s : Settings) : Terms :=
  { ice := s.ice
    pongTime := (s.pongTime * 1000 : Nat)
    handshakeTime := (s.handshakeTime * 1000 : Nat) }

namespace Server

inductive Fault where
  | channel (name : String) (f : Exit.Fault)
  | listener (a : IpAddress) (port : Nat)
  | tls (f : Tls.Fault)
deriving DecidableEq, Repr

def Fault.message : Fault → String
  | .channel name _ => "Steuerkanal '" ++ name ++ "' konnte nicht geoeffnet werden"
  | .listener .. | .tls _ => "Listener konnten nicht gestartet werden"

def listen (h : Host) (a : IpAddress) (port : Nat) : Except Fault Unit :=
  if h.admits a port then .ok () else .error (.listener a port)

def loadIdentity (h : Host) (s : Settings) : Except Fault Tls.Identity :=
  match Tls.load h.file? s.tlsPaths with
  | .error f => .error (.tls f)
  | .ok i => .ok i

def bind (h : Host) (s : Settings) : Except Fault Server := do
  listen h s.address s.port
  match s.tlsPort with
  | none => return { settings := s }
  | some port =>
    let identity ← loadIdentity h s
    listen h s.address port
    return { settings := s, identity := some identity }

def start (h : Host) (s : Settings) : Except Fault Server × Host :=
  match h.sockets.listen s.channel with
  | (.error f, sockets) => (.error (.channel s.channel f), { h with sockets := sockets })
  | (.ok _, sockets) =>
    match bind h s with
    | .error f => (.error f, { h with sockets := (sockets.close s.channel).2 })
    | .ok server => (.ok server, { h with sockets := sockets })

def hub (s : Server) : Hub := .start s.settings.terms

def await (s : Server) (h : Host) : Option Exit.Reason × Host :=
  match h.sockets.wait s.settings.channel with
  | (none, sockets) => (none, { h with sockets := sockets })
  | (some r, sockets) => (some r, { h with sockets := (sockets.close s.settings.channel).2 })

def abort (s : Server) (h : Host) : Host :=
  { h with sockets := h.sockets.abort s.settings.channel }

end Server

end Rendezvous
