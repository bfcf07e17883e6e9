import Rendezvous.Server
import Rendezvous.Settings.Layers

namespace Rendezvous.Program

structure Ending where
  code : Nat
  output : String := ""
  errors : String := ""
deriving DecidableEq, Repr

inductive Outcome where
  | ended (e : Ending)
  | serving (s : Server)

def name : String := "funkstelle"

def version : String := name ++ " 0.1.0\n"

def optionsHelp : String :=
  "      --port <PORT>            Port des ws://-Listeners\n" ++
  "      --tls-port <TLS_PORT>    Port des wss://-Listeners (0 deaktiviert TLS)\n" ++
  "      --log-level <LOG_LEVEL>  Log-Level: trace, debug, info, warn, error oder 0-5\n" ++
  "      --ice <ICE>              ICE-Server: \"turn:<uri> [<username>:<password>]\"\n" ++
  "      --config <CONFIG>        TOML-Konfiguration; gesetzte Felder ueberschreiben " ++
    "die Kommandozeile\n" ++
  "      --kanal <KANAL>          Name des Steuerkanals fuer `stop`\n" ++
  "  -h, --help                   Print help\n"

def help : CommandLine.Topic → String
  | .program =>
    "WebRTC-Signaling-Server\n\nUsage: funkstelle [OPTIONS] [COMMAND]\n\nCommands:\n" ++
    "  run   Server starten (Standard)\n" ++
    "  stop  Laufenden Server beenden\n" ++
    "  help  Print this message or the help of the given subcommand(s)\n\nOptions:\n" ++
    optionsHelp ++
    "  -V, --version                Print version\n"
  | .run =>
    "Server starten (Standard)\n\nUsage: funkstelle run [OPTIONS]\n\nOptions:\n" ++ optionsHelp
  | .stop =>
    "Laufenden Server beenden\n\nUsage: funkstelle stop [OPTIONS]\n\nOptions:\n" ++
    "      --kanal <KANAL>  Name des Steuerkanals\n" ++
    "  -h, --help           Print help\n"
  | .help =>
    "Print this message or the help of the given subcommand(s)\n\n" ++
    "Usage: funkstelle help [COMMAND]...\n\nArguments:\n" ++
    "  [COMMAND]...  Print help for the subcommand(s)\n"

def refuse : CommandLine.Refusal → Ending
  | .help t => { code := 0, output := help t }
  | .version => { code := 0, output := version }
  | .invalidSubcommand => { code := 2, errors := "error: unrecognized subcommand\n" }
  | .unknownArgument => { code := 2, errors := "error: unexpected argument found\n" }
  | .valueValidation => { code := 2, errors := "error: invalid value\n" }
  | .invalidValue => { code := 2, errors := "error: a value is required\n" }
  | .argumentConflict => { code := 2, errors := "error: an argument is used twice\n" }
  | .tooManyValues => { code := 2, errors := "error: unexpected value found\n" }

def fail (message : String) : Ending := { code := 1, errors := "Error: " ++ message ++ "\n" }

def failAll (messages : List String) : Ending := fail (messages.headD "")

def stop (h : Host) (channel : String) : Ending × Host :=
  let (r, sockets) := h.sockets.stop channel
  let ending : Ending := match r with
    | .ok true => { code := 0, output := "Stop an '" ++ channel ++ "' gesendet\n" }
    | .ok false =>
      { code := 0, output := "Kein laufender Server auf Kanal '" ++ channel ++ "'\n" }
    | .error _ => fail ("Stop an Kanal '" ++ channel ++ "' fehlgeschlagen")
  (ending, { h with sockets := sockets })

def text? (h : Host) (path : String) : Option String := (h.file? path).bind Text.decode?

def serve (h : Host) (a : CommandLine.Arguments) : Outcome × Host :=
  match Settings.resolve (text? h) a with
  | .error f => (.ended (failAll f.messages), h)
  | .ok s =>
    match Server.start h s with
    | (.error f, h) => (.ended (fail f.message), h)
    | (.ok server, h) => (.serving server, h)

def run (h : Host) (args : List String) : Outcome × Host :=
  match CommandLine.parse args with
  | .error r => (.ended (refuse r), h)
  | .ok (.run a) => serve h a
  | .ok (.stop channel) =>
    let (e, h) := stop h (channel.getD Settings.standard.channel)
    (.ended e, h)

def wanted (h : Host) (args : List String) : List String :=
  match CommandLine.parse args with
  | .ok (.run a) =>
    let material := match Settings.resolve (text? h) a with
      | .ok s => if s.tlsPort.isSome then s.certificate :: s.key :: s.dhParameters.toList else []
      | .error _ => []
    a.config.toList ++ material
  | _ => []

def finish (s : Server) (h : Host) : Option Ending × Host :=
  let (reason, h) := s.await h
  (reason.map fun _ => { code := 0 }, h)

end Rendezvous.Program
