import Rendezvous.Text.Blank
import Rendezvous.Text.Utf8

/-!
The head of an HTTP request, read one octet at a time. What the reader makes of a stream does not
depend on the pieces in which the stream comes.
-/

namespace Rendezvous.Http

structure Field where
  name : List UInt8
  value : List UInt8
deriving DecidableEq, Repr

structure Head where
  method : List UInt8 := []
  target : List UInt8 := []
  fields : List Field := []
deriving DecidableEq, Repr

def cr : UInt8 := 13
def lf : UInt8 := 10
def tab : UInt8 := 9
def space : UInt8 := 32
def colon : UInt8 := 58

def isLetter (b : UInt8) : Bool := (65 ≤ b && b ≤ 90) || (97 ≤ b && b ≤ 122)
def isDigit (b : UInt8) : Bool := 48 ≤ b && b ≤ 57

def tokenMarks : List UInt8 := Text.encode "!#$%&'*+-.^_`|~"

def isToken (b : UInt8) : Bool := isLetter b || isDigit b || tokenMarks.contains b

def isTargetOctet (b : UInt8) : Bool := space < b && b ≠ 127

def isValueOctet (b : UInt8) : Bool := b == tab || (space ≤ b && b ≠ 127)

inductive Place where
  | blank
  | blankCr
  | method (run : List UInt8)
  | target (run : List UInt8)
  | version (seen : Nat)
  | versionEnd
  | versionCr
  | line
  | name (run : List UInt8)
  | gap (name : List UInt8)
  | value (name run : List UInt8)
  | valueCr (name run : List UInt8)
  | lastCr
deriving DecidableEq, Repr

structure HeadReader where
  place : Place := .blank
  method : List UInt8 := []
  target : List UInt8 := []
  fields : List Field := []
deriving DecidableEq, Repr

namespace HeadReader

def start : HeadReader := {}

def greatestFieldCount : Nat := 64

inductive Step where
  | more (r : HeadReader)
  | complete (h : Head)
  | invalid

def head (r : HeadReader) : Head := ⟨r.method, r.target, r.fields.reverse⟩

def goto (r : HeadReader) (p : Place) : Step := .more { r with place := p }

def versionStem : List UInt8 := Text.encode "HTTP/1."

def isVersionOctet (seen : Nat) (b : UInt8) : Bool :=
  match versionStem[seen]? with
  | some x => b == x
  | none => b == 48 || b == 49

def addField (r : HeadReader) (name value : List UInt8) : Step :=
  .more { r with place := .line, fields := ⟨name, value.reverse⟩ :: r.fields }

def endValue (r : HeadReader) (name run : List UInt8) (b : UInt8) : Step :=
  if b == cr then r.goto (.valueCr name run)
  else if b == lf then r.addField name run
  else .invalid

def step (r : HeadReader) (b : UInt8) : Step :=
  match r.place with
  | .blank =>
    if b == cr then r.goto .blankCr
    else if b == lf then r.goto .blank
    else if isToken b then r.goto (.method [b])
    else .invalid
  | .blankCr => if b == lf then r.goto .blank else .invalid
  | .method run =>
    if b == space then .more { r with place := .target [], method := run.reverse }
    else if isToken b then r.goto (.method (b :: run))
    else .invalid
  | .target run =>
    if b == space then
      if run.isEmpty || (Text.decode? run.reverse).isNone then .invalid
      else .more { r with place := .version 0, target := run.reverse }
    else if isTargetOctet b then r.goto (.target (b :: run))
    else .invalid
  | .version seen =>
    if isVersionOctet seen b then
      if seen < versionStem.length then r.goto (.version (seen + 1)) else r.goto .versionEnd
    else .invalid
  | .versionEnd =>
    if b == cr then r.goto .versionCr
    else if b == lf then r.goto .line
    else .invalid
  | .versionCr => if b == lf then r.goto .line else .invalid
  | .line =>
    if b == cr then r.goto .lastCr
    else if b == lf then .complete r.head
    else if isToken b && r.fields.length < greatestFieldCount then r.goto (.name [b])
    else .invalid
  | .name run =>
    if b == colon then r.goto (.gap run.reverse)
    else if isToken b then r.goto (.name (b :: run))
    else .invalid
  | .gap name =>
    if b == space || b == tab then r.goto (.gap name)
    else if isValueOctet b then r.goto (.value name [b])
    else r.endValue name [] b
  | .value name run =>
    if isValueOctet b then r.goto (.value name (b :: run)) else r.endValue name run b
  | .valueCr name run => if b == lf then r.addField name run else .invalid
  | .lastCr => if b == lf then .complete r.head else .invalid

inductive Outcome where
  | more (r : HeadReader)
  | complete (h : Head) (rest : List UInt8)
  | invalid
deriving DecidableEq, Repr

def feed (r : HeadReader) : List UInt8 → Outcome
  | [] => .more r
  | b :: bs =>
    match r.step b with
    | .more r => r.feed bs
    | .complete h => .complete h bs
    | .invalid => .invalid

theorem feed_append (r : HeadReader) (as bs : List UInt8) :
    r.feed (as ++ bs) = match r.feed as with
      | .more r => r.feed bs
      | .complete h rest => .complete h (rest ++ bs)
      | .invalid => .invalid := by
  induction as generalizing r with
  | nil => rfl
  | cons a as ih =>
    simp only [List.cons_append, feed]
    cases r.step a with
    | more r => exact ih r
    | complete h => rfl
    | invalid => rfl

end HeadReader

end Rendezvous.Http
