import Rendezvous.Log.Options
import Rendezvous.Log.Pattern
import Rendezvous.Text.Alphanumeric
import Rendezvous.Text.Digit
import Rendezvous.Text.Split

/-!
Directives separated by commas. Of those that concern an entry, the one with the longest target
decides, and among these one with a condition on the entry's fields.
-/

namespace Rendezvous.Log

structure Directive where
  target : List Char := []
  level : Option Level := some .trace
  field : Option (List Char) := none
  spanOnly : Bool := false
deriving DecidableEq, Repr

abbrev Filter := List Directive

namespace Directive

def lower (cs : List Char) : List Char := cs.map Char.toLower

def number? : List Char → Option Nat
  | '+' :: ds => Text.number? 10 ds
  | ds => Text.number? 10 ds

def numberedLevel? : Nat → Option (Option Level)
  | 0 => some none
  | 1 => some (some .error)
  | 2 => some (some .warn)
  | 3 => some (some .info)
  | 4 => some (some .debug)
  | 5 => some (some .trace)
  | _ => none

def threshold? (cs : List Char) : Option (Option Level) :=
  match number? cs with
  | some n => numberedLevel? n
  | none =>
    match String.ofList (lower cs) with
    | "off" => some none
    | "error" => some (some .error)
    | "warn" => some (some .warn)
    | "info" => some (some .info)
    | "debug" => some (some .debug)
    | "trace" => some (some .trace)
    | _ => none

def mayStart (c : Char) : Bool := c == '-' || c == ':' || c == '_' || Text.isAlphanumeric c

def level? (cs : List Char) : Option (Option Level) :=
  if cs.isEmpty then some (some .trace) else threshold? cs

/-- The text of a directive, place by place: what decides its form, and what is taken for its parts.
They differ if there are blanks in front, which do not count for the form. -/
abbrev Places := List (Char × Char)

def taken (ps : Places) : List Char := ps.map Prod.snd

def ofField? (d : Directive) (text : List Char) : Option Directive :=
  match Text.splitAll '=' text with
  | [name] => if name.isEmpty then none else some { d with field := some name }
  | _ :: value :: _ =>
    if Pattern.isValue value then some { d with spanOnly := true } else none
  | [] => none

def ofEnd? (d : Directive) (tail : List Char) : Places → Option Directive
  | [] => some d
  | ('=', _) :: rest => (level? (taken rest ++ tail)).map fun l => { d with level := l }
  | _ => none

def ofSpan? (d : Directive) (tail : List Char) (ps : Places) : Option Directive :=
  let name := ps.takeWhile fun p => p.1 != ']' && p.1 != '\x7b'
  match ps.drop name.length with
  | (']', _) :: rest => ofEnd? { d with spanOnly := true } tail rest
  | (_, _) :: rest =>
    let field := rest.takeWhile fun p => p.1 != '\x7d'
    match rest.drop field.length with
    | _ :: (']', _) :: rest =>
      (ofField? { d with spanOnly := !name.isEmpty } (taken field)).bind fun d => ofEnd? d tail rest
    | _ => none
  | [] => none

def read? (cs : List Char) : Option Directive :=
  let form := Text.trimEnd (Text.trimStart cs)
  let ps : Places := form.zip cs
  let tail := cs.drop form.length
  match ps with
  | [] => none
  | ('[', _) :: rest => ofSpan? {} tail rest
  | (first, _) :: _ =>
    if mayStart first then
      let target := ps.takeWhile fun p => p.1 != '=' && p.1 != '['
      match ps.drop target.length with
      | [] =>
        match threshold? cs with
        | some l => some { level := l }
        | none => some { target := cs }
      | ('[', _) :: rest => ofSpan? { target := taken target } tail rest
      | rest => ofEnd? { target := taken target } tail rest
    else none

def messageField : List Char := "message".toList

def concerns (d : Directive) (target : List Char) : Bool :=
  !d.spanOnly && d.target.isPrefixOf target && d.field.all (· == messageField)

def precedes (d e : Directive) : Bool :=
  e.target.length < d.target.length ||
    (e.target.length == d.target.length && (d.field.isSome || e.field.isNone))

def admits (d : Directive) (l : Level) : Bool :=
  match d.level with
  | none => false
  | some least => least.rank ≤ l.rank

end Directive

namespace Filter

def pick? (target : List Char) (f : Filter) : Option Directive :=
  (f.filter (·.concerns target)).foldl (fun best d =>
    if best.all d.precedes then some d else best) none

def admits (f : Filter) (target : String) (l : Level) : Bool :=
  match pick? target.toList f with
  | none => false
  | some d => d.admits l

def readAll? : List (List Char) → Option Filter
  | [] => some []
  | cs :: rest =>
    match Directive.read? cs with
    | none => none
    | some d => (readAll? rest).map (d :: ·)

def fallback : Filter := [{ level := some .info }]

def ofText (s : String) : Filter :=
  (readAll? ((Text.splitAll ',' s.toList).filter (!·.isEmpty))).getD fallback

def choose (environment : Option String) (configured : String) : Filter :=
  let text := environment.getD configured
  match readLevel text with
  | .ok l => [{ level := some l }]
  | .error _ => ofText text

end Filter

end Rendezvous.Log
