import Rendezvous.Exit.Operation
import Rendezvous.Proofs.Exit.Place

namespace Rendezvous.Exit

namespace Operation

def name : Operation → String
  | listen name => name
  | close name => name
  | orphan name => name
  | call name _ => name
  | stop name => name
  | abort name => name
  | wait name => name

def turn (path : String) : Operation → Option Socket → Result × Option Socket
  | listen _, some (.listening opened ch) =>
    (.listened (.error (.inUse path)), some (.listening opened (ch.receive [])))
  | listen name, _ => (.listened (.ok path), some (.listening name .empty))
  | close _, some (.listening ..) => (.closed true, none)
  | close _, x => (.closed false, x)
  | orphan _, none => (.orphaned true, some .orphaned)
  | orphan _, x => (.orphaned false, x)
  | call _ c, some (.listening opened ch) =>
    (.called (.ok ()), some (.listening opened (ch.receive c)))
  | call _ _, some .orphaned => (.called (.error .refused), some .orphaned)
  | call _ _, none => (.called (.error .notFound), none)
  | stop _, some (.listening opened ch) =>
    (.stopped (.ok true), some (.listening opened (ch.receive (.ofReason .stop))))
  | stop _, x => (.stopped (.ok false), x)
  | abort _, some (.listening opened ch) =>
    (.aborted, some (.listening opened (ch.receive (.ofReason .abort))))
  | abort _, x => (.aborted, x)
  | wait _, some (.listening opened ch) => (.waited ch.wait.1, some (.listening opened ch.wait.2))
  | wait _, x => (.waited none, x)

def barred : Operation → Result
  | listen _ => .listened (.error .isDirectory)
  | close _ => .closed false
  | orphan _ => .orphaned false
  | call _ _ => .called (.error .refused)
  | stop _ => .stopped (.ok false)
  | abort _ => .aborted
  | wait _ => .waited none

end Operation

namespace Sockets

variable {s t u : Sockets} {name path opened : String} {p q : Place} {x y : Option Socket}
  {z : Socket} {ch : Channel} {c : Call}

structure Reaches (s : Sockets) (name : String) (p : Place) : Prop where
  fits : Path.fitsSocket (s.path name) = true
  locate : s.locate (s.path name) = .ok p

structure Seated (s : Sockets) (name : String) (p : Place) : Prop extends s.Reaches name p where
  free : s.isDirectory p = false

structure Barred (s : Sockets) (name : String) (p : Place) : Prop extends s.Reaches name p where
  taken : s.isDirectory p = true
  vacant : s.file? p = none

def Owned (s : Sockets) (name : String) (p : Place) : Prop :=
  ∀ opened ch, s.file? p = some (.listening opened ch) → opened = name

structure Turns (s t : Sockets) (p : Place) (x : Option Socket) : Prop where
  directory : t.directory = s.directory
  here : t.file? p = x
  elsewhere : ∀ q, q ≠ p → t.file? q = s.file? q

lemma Usable.reaches (h : s.Usable name) : s.Reaches name (s.seat name) := ⟨h.fits, h.locate⟩

lemma Seated.congr (h : s.Seated name p) (hd : t.directory = s.directory) : t.Seated name p where
  fits := path_congr hd ▸ h.fits
  locate := by
    rw [path_congr hd]
    exact locate_congr hd h.locate
  free := by rw [isDirectory_congr hd, h.free]

lemma turns_self (h : s.file? p = x) : Turns s s p x := ⟨rfl, h, fun _ _ => rfl⟩

lemma turns_set : Turns s (s.set p z) p (some z) :=
  ⟨rfl, file?_set_self s p z, fun _ h => file?_set_of_ne h s z⟩

lemma turns_erase : Turns s (s.erase p) p none :=
  ⟨rfl, file?_erase_self s p, fun _ h => file?_erase_of_ne h s⟩

lemma Turns.trans (h : Turns s t p x) (h' : Turns t u p y) : Turns s u p y where
  directory := h'.directory.trans h.directory
  here := h'.here
  elsewhere q hq := (h'.elsewhere q hq).trans (h.elsewhere q hq)

namespace Seated

lemma connect_eq (h : s.Seated name p) : s.connect (s.path name) c =
    match s.file? p with
    | none => .error .notFound
    | some .orphaned => .error .refused
    | some (.listening opened ch) => .ok (s.set p (.listening opened (ch.receive c))) := by
  rw [connect, if_pos h.fits, h.locate]
  simp only [h.free]
  rfl

lemma remove_eq (h : s.Seated name p) : s.remove (s.path name) =
    if (s.file? p).isSome then .ok (s.erase p) else .error .notFound := by
  rw [remove, h.locate]
  simp only [h.free]
  rfl

lemma bind_eq (h : s.Seated name p) : s.bind (s.path name) z =
    if (s.file? p).isSome then .error (.inUse (s.path name)) else .ok (s.set p z) := by
  rw [bind, if_pos h.fits, h.locate]
  simp only [h.free, Bool.false_or]

lemma channel?_eq (h : s.Seated name p) (ho : s.Owned name p) : s.channel? name =
    match s.file? p with
    | some (.listening _ ch) => some ch
    | _ => none := by
  have hsocket : s.socket? name = s.file? p := by
    unfold socket?
    rw [h.locate]
  unfold channel?
  rw [hsocket]
  cases hfile : s.file? p with
  | none => rfl
  | some z =>
    cases z with
    | orphaned => rfl
    | listening opened ch => exact if_pos (ho opened ch hfile)

lemma bind_free (h : s.Seated name p) (hd : t.directory = s.directory) (hnone : t.file? p = none) :
    t.bind (s.path name) z = .ok (t.set p z) := by
  rw [← path_congr hd, (h.congr hd).bind_eq, hnone]
  rfl

lemma listen_open (h : s.Seated name p) (hfile : s.file? p = some (.listening opened ch)) :
    s.listen name =
      (.error (.inUse (s.path name)), s.set p (.listening opened (ch.receive []))) := by
  unfold listen
  simp only [h.connect_eq, hfile]

lemma listen_orphaned (h : s.Seated name p) (hfile : s.file? p = some .orphaned) :
    s.listen name = (.ok (s.path name), (s.erase p).set p (.listening name .empty)) := by
  have hremove : s.remove (s.path name) = .ok (s.erase p) := by
    rw [h.remove_eq, hfile]
    rfl
  have hbind : (s.erase p).bind (s.path name) (.listening name .empty) =
      .ok ((s.erase p).set p (.listening name .empty)) :=
    h.bind_free rfl (file?_erase_self s p)
  unfold listen
  simp only [h.connect_eq, hfile, hremove, unlessAbsent, hbind]

lemma listen_absent (h : s.Seated name p) (hfile : s.file? p = none) :
    s.listen name = (.ok (s.path name), s.set p (.listening name .empty)) := by
  have hremove : s.remove (s.path name) = .error .notFound := by
    rw [h.remove_eq, hfile]
    rfl
  unfold listen
  simp only [h.connect_eq, hfile, hremove, unlessAbsent, h.bind_free rfl hfile]

end Seated

namespace Barred

lemma connect_eq (h : s.Barred name p) : s.connect (s.path name) c = .error .refused := by
  rw [connect, if_pos h.fits, h.locate]
  exact if_pos h.taken

lemma remove_eq (h : s.Barred name p) : s.remove (s.path name) = .error .isDirectory := by
  rw [remove, h.locate]
  exact if_pos h.taken

lemma bind_eq (h : s.Barred name p) : s.bind (s.path name) z = .error (.inUse (s.path name)) := by
  rw [bind, if_pos h.fits, h.locate]
  simp only [h.taken, Bool.true_or, if_true]

lemma channel?_eq (h : s.Barred name p) : s.channel? name = none := by
  have hsocket : s.socket? name = s.file? p := by
    unfold socket?
    rw [h.locate]
  unfold channel?
  rw [hsocket, h.vacant]

end Barred

lemma Seated.perform {op : Operation} (h : s.Seated op.name p) (ho : s.Owned op.name p) :
    (s.perform op).1 = (op.turn (s.path op.name) (s.file? p)).1 ∧
      Turns s (s.perform op).2 p (op.turn (s.path op.name) (s.file? p)).2 := by
  -- Each operation finds no file at its place, or a socket with its channel, or one that was left.
  cases op with
  | listen name =>
    dsimp only [Operation.name] at h
    rw [Sockets.perform]
    rcases hfile : s.file? p with _ | (⟨opened, ch⟩ | _)
    · rw [h.listen_absent hfile]
      exact ⟨rfl, turns_set⟩
    · rw [h.listen_open hfile]
      exact ⟨rfl, turns_set⟩
    · rw [h.listen_orphaned hfile]
      exact ⟨rfl, turns_erase.trans turns_set⟩
  | close name =>
    dsimp only [Operation.name] at h ho
    rw [Sockets.perform]
    unfold close
    rw [h.channel?_eq ho, h.remove_eq]
    rcases hfile : s.file? p with _ | (⟨opened, ch⟩ | _)
    · exact ⟨rfl, turns_self hfile⟩
    · exact ⟨rfl, turns_erase⟩
    · exact ⟨rfl, turns_self hfile⟩
  | orphan name =>
    dsimp only [Operation.name] at h
    rw [Sockets.perform]
    unfold orphan
    rw [h.bind_eq]
    rcases hfile : s.file? p with _ | z
    · exact ⟨rfl, turns_set⟩
    · exact ⟨rfl, turns_self hfile⟩
  | call name c =>
    dsimp only [Operation.name] at h
    rw [Sockets.perform]
    unfold call
    rw [h.connect_eq]
    rcases hfile : s.file? p with _ | (⟨opened, ch⟩ | _)
    · exact ⟨rfl, turns_self hfile⟩
    · exact ⟨rfl, turns_set⟩
    · exact ⟨rfl, turns_self hfile⟩
  | stop name =>
    dsimp only [Operation.name] at h
    rw [Sockets.perform]
    unfold stop
    rw [h.connect_eq]
    rcases hfile : s.file? p with _ | (⟨opened, ch⟩ | _)
    · exact ⟨rfl, turns_self hfile⟩
    · exact ⟨rfl, turns_set⟩
    · exact ⟨rfl, turns_self hfile⟩
  | abort name =>
    dsimp only [Operation.name] at h ho
    rw [Sockets.perform]
    unfold abort
    rw [h.channel?_eq ho, h.connect_eq]
    rcases hfile : s.file? p with _ | (⟨opened, ch⟩ | _)
    · exact ⟨rfl, turns_self hfile⟩
    · exact ⟨rfl, turns_set⟩
    · exact ⟨rfl, turns_self hfile⟩
  | wait name =>
    dsimp only [Operation.name] at h ho
    rw [Sockets.perform]
    unfold wait
    rw [h.channel?_eq ho, h.locate]
    rcases hfile : s.file? p with _ | (⟨opened, ch⟩ | _)
    · exact ⟨rfl, turns_self hfile⟩
    · obtain rfl := ho opened ch hfile
      exact ⟨rfl, turns_set⟩
    · exact ⟨rfl, turns_self hfile⟩

lemma Barred.perform {op : Operation} (h : s.Barred op.name p) : s.perform op = (op.barred, s) := by
  cases op with
  | listen name =>
    dsimp only [Operation.name] at h
    rw [Sockets.perform]
    unfold listen
    simp only [h.connect_eq, h.remove_eq, unlessAbsent]
    rfl
  | close name =>
    dsimp only [Operation.name] at h
    rw [Sockets.perform]
    unfold close
    rw [h.channel?_eq]
    rfl
  | orphan name =>
    dsimp only [Operation.name] at h
    rw [Sockets.perform]
    unfold orphan
    rw [h.bind_eq]
    rfl
  | call name c =>
    dsimp only [Operation.name] at h
    rw [Sockets.perform]
    unfold call
    rw [h.connect_eq]
    rfl
  | stop name =>
    dsimp only [Operation.name] at h
    rw [Sockets.perform]
    unfold stop
    rw [h.connect_eq]
    rfl
  | abort name =>
    dsimp only [Operation.name] at h
    rw [Sockets.perform]
    unfold abort
    rw [h.channel?_eq]
    rfl
  | wait name =>
    dsimp only [Operation.name] at h
    rw [Sockets.perform]
    unfold wait
    rw [h.channel?_eq]
    rfl

end Sockets
end Rendezvous.Exit
