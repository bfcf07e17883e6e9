import Rendezvous.Toml.Value

/-!
TOML 1.0 documents of one shape: sections, which hold values by key or as a list. A document of any
other shape is not read.
-/

namespace Rendezvous.Toml

inductive Line where
  | header (name : String)
  | entry (path : List String) (v : Value)
deriving Repr

inductive Content where
  | keyed (entries : Entries)
  | listed (items : List Value)
deriving Repr

structure Section where
  name : String
  content : Content := .keyed []
  dotted : Bool := false
deriving Repr

abbrev Document := List Section

def endOfLine (cs : List Char) : Option (List Char) :=
  let rest := dropSpace cs
  let rest := if rest.head? = some '#' then rest.dropWhile isPlain else rest
  match rest with
  | [] => some []
  | '\n' :: cs => some cs
  | _ => none

def header (cs : List Char) : Option (Line × List Char) :=
  match path (dropSpace cs) with
  | some ([name], ']' :: rest) => some (.header name, rest)
  | _ => none

def entry (cs : List Char) : Option (Line × List Char) :=
  match assignment cs with
  | none => none
  | some (p, cs) => (value cs).map fun (v, cs) => (.entry p v, cs)

def linesFrom (done : List Line) : Nat → List Char → Option (List Line)
  | 0, _ => none
  | bound + 1, cs =>
    match dropSpace cs with
    | [] => some done.reverse
    | c :: rest =>
      if c == '#' || c == '\n' then (endOfLine (c :: rest)).bind (linesFrom done bound)
      else
        match if c == '[' then header rest else entry (c :: rest) with
        | none => none
        | some (line, rest) => (endOfLine rest).bind (linesFrom (line :: done) bound)

def dropMark : List Char → List Char
  | '\ufeff' :: cs => cs
  | cs => cs

def unifyBreaks : List Char → List Char
  | '\r' :: '\n' :: cs => '\n' :: unifyBreaks cs
  | c :: cs => c :: unifyBreaks cs
  | [] => []

def lines? (text : String) : Option (List Line) :=
  let cs := unifyBreaks (dropMark text.toList)
  linesFrom [] (cs.length + 2) cs

namespace Section

def add? (s : Section) (k : String) (v : Value) : Option Section :=
  match s.content with
  | .keyed es => (insert? es [k] v).map fun es => { s with content := .keyed es }
  | .listed _ => none

def value? (s : Section) (keys : List String) (k : String) : Option Value :=
  match s.content with
  | .keyed es => es.lookup k
  | .listed items => (keys.zip items).lookup k

end Section

namespace Document

def section? (d : Document) (name : String) : Option Section :=
  List.find? (fun s => s.name == name) d

def put (d : Document) (s : Section) : Document :=
  List.map (fun t => if t.name == s.name then s else t) d

def addLine? (d : Document) (inside : Option String) : Line → Option (Document × Option String)
  | .header name =>
    match d.section? name with
    | some _ => none
    | none => some (List.append d [{ name := name }], some name)
  | .entry path v =>
    match inside, path, v with
    | some name, [k], v =>
      ((d.section? name).bind (·.add? k v)).map fun s => (d.put s, inside)
    | none, [name, k], v =>
      match d.section? name with
      | none => some (List.append d [⟨name, .keyed [(k, v)], true⟩], inside)
      | some s => if s.dotted then (s.add? k v).map fun s => (d.put s, inside) else none
    | none, [name], .table _ entries =>
      if (d.section? name).isSome then none
      else some (List.append d [{ name := name, content := .keyed entries }], inside)
    | none, [name], .array items =>
      if (d.section? name).isSome then none
      else some (List.append d [{ name := name, content := .listed items }], inside)
    | _, _, _ => none

def addLines? (d : Document) (inside : Option String) : List Line → Option Document
  | [] => some d
  | l :: ls =>
    match d.addLine? inside l with
    | none => none
    | some (d, inside) => addLines? d inside ls

def read? (text : String) : Option Document := (lines? text).bind (addLines? [] none)

end Document

end Rendezvous.Toml
