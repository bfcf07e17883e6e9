import Rendezvous.Exit.Channel
import Rendezvous.Exit.Path

/-!
The channel `name` is a socket `name.sock` in the runtime directory. A server that ends without
closing its channel leaves the socket there, with nobody listening.
-/

namespace Rendezvous.Exit

inductive Socket where
  | listening (name : String) (c : Channel)
  | orphaned
deriving DecidableEq, Repr

def Socket.mode : Socket → Nat
  | listening .. => 0o600
  | orphaned => 0o755

structure Sockets where
  directory : String
  files : List (Place × Socket) := []
deriving DecidableEq, Repr

namespace Sockets

def path (s : Sockets) (name : String) : String := Path.join s.directory (name ++ ".sock")

def file? (s : Sockets) (p : Place) : Option Socket := s.files.lookup p

def set (s : Sockets) (p : Place) (x : Socket) : Sockets :=
  { s with files := (p, x) :: s.files.filter (·.1 ≠ p) }

def erase (s : Sockets) (p : Place) : Sockets := { s with files := s.files.filter (·.1 ≠ p) }

def isDirectory (s : Sockets) (p : Place) : Bool := (Path.way s.directory).contains p

def kind? (s : Sockets) (p : Place) : Option Path.Kind :=
  if s.isDirectory p then some .directory else (s.file? p).map fun _ => .file

def locate (s : Sockets) (path : String) : Except Fault Place := Path.locate s.kind? path

def socket? (s : Sockets) (name : String) : Option Socket :=
  match s.locate (s.path name) with
  | .error _ => none
  | .ok p => s.file? p

def channel? (s : Sockets) (name : String) : Option Channel :=
  match s.socket? name with
  | some (.listening opened c) => if opened = name then some c else none
  | _ => none

def connect (s : Sockets) (path : String) (c : Call) : Except Fault Sockets :=
  if Path.fitsSocket path then
    match s.locate path with
    | .error f => .error f
    | .ok p =>
      if s.isDirectory p then .error .refused
      else
        match s.file? p with
        | none => .error .notFound
        | some .orphaned => .error .refused
        | some (.listening name ch) => .ok (s.set p (.listening name (ch.receive c)))
  else .error .invalidPath

def bind (s : Sockets) (path : String) (x : Socket) : Except Fault Sockets :=
  if Path.fitsSocket path then
    match s.locate path with
    | .error f => .error f
    | .ok p =>
      if s.isDirectory p || (s.file? p).isSome then .error (.inUse path) else .ok (s.set p x)
  else .error .invalidPath

def remove (s : Sockets) (path : String) : Except Fault Sockets :=
  match s.locate path with
  | .error f => .error f
  | .ok p =>
    if s.isDirectory p then .error .isDirectory
    else if (s.file? p).isSome then .ok (s.erase p)
    else .error .notFound

def unlessAbsent (s : Sockets) : Except Fault Sockets → Except Fault Sockets
  | .error .notFound => .ok s
  | r => r

/-- Opens a channel, and gives its path. A call shows whether somebody listens already; a socket
where nobody does is replaced. -/
def listen (s : Sockets) (name : String) : Except Fault String × Sockets :=
  let path := s.path name
  match s.connect path [] with
  | .ok s => (.error (.inUse path), s)
  | .error _ =>
    match s.unlessAbsent (s.remove path) with
    | .error f => (.error f, s)
    | .ok free =>
      match free.bind path (.listening name .empty) with
      | .error f => (.error f, free)
      | .ok s => (.ok path, s)

def close (s : Sockets) (name : String) : Bool × Sockets :=
  match s.channel? name, s.remove (s.path name) with
  | some _, .ok s => (true, s)
  | _, _ => (false, s)

def orphan (s : Sockets) (name : String) : Bool × Sockets :=
  match s.bind (s.path name) .orphaned with
  | .error _ => (false, s)
  | .ok s => (true, s)

def call (s : Sockets) (name : String) (c : Call) : Except Fault Unit × Sockets :=
  match s.connect (s.path name) c with
  | .error f => (.error f, s)
  | .ok s => (.ok (), s)

def stop (s : Sockets) (name : String) : Except Fault Bool × Sockets :=
  match s.connect (s.path name) (.ofReason .stop) with
  | .ok s => (.ok true, s)
  | .error .notFound => (.ok false, s)
  | .error .refused => (.ok false, s)
  | .error f => (.error f, s)

def abort (s : Sockets) (name : String) : Sockets :=
  match s.channel? name, s.connect (s.path name) (.ofReason .abort) with
  | some _, .ok s => s
  | _, _ => s

def wait (s : Sockets) (name : String) : Option Reason × Sockets :=
  match s.channel? name, s.locate (s.path name) with
  | some ch, .ok p =>
    let (reason, ch) := ch.wait
    (reason, s.set p (.listening name ch))
  | _, _ => (none, s)

theorem file?_set_self (s : Sockets) (p : Place) (x : Socket) : (s.set p x).file? p = some x := by
  simp [file?, set]

theorem lookup_filter_ne {p q : Place} (h : q ≠ p) (fs : List (Place × Socket)) :
    (fs.filter (·.1 ≠ p)).lookup q = fs.lookup q := by
  induction fs with
  | nil => rfl
  | cons f fs ih =>
    obtain ⟨r, x⟩ := f
    by_cases hr : r = p
    · subst hr
      rw [List.filter_cons_of_neg (by simp), ih, List.lookup_cons, beq_false_of_ne h]
    · rw [List.filter_cons_of_pos (by simpa using hr), List.lookup_cons, List.lookup_cons, ih]

theorem file?_set_of_ne {p q : Place} (h : q ≠ p) (s : Sockets) (x : Socket) :
    (s.set p x).file? q = s.file? q := by
  simp only [file?, set, List.lookup_cons, beq_false_of_ne h]
  exact lookup_filter_ne h s.files

theorem file?_erase_of_ne {p q : Place} (h : q ≠ p) (s : Sockets) :
    (s.erase p).file? q = s.file? q := lookup_filter_ne h s.files

theorem file?_erase_self (s : Sockets) (p : Place) : (s.erase p).file? p = none := by
  simp only [file?, erase]
  induction s.files with
  | nil => rfl
  | cons f fs ih =>
    obtain ⟨r, x⟩ := f
    by_cases hr : r = p
    · rw [List.filter_cons_of_neg (by simp [hr]), ih]
    · rw [List.filter_cons_of_pos (by simpa using hr), List.lookup_cons,
        beq_false_of_ne (Ne.symm hr), ih]

end Sockets

end Rendezvous.Exit
