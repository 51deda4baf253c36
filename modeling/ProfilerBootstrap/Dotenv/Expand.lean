import ProfilerBootstrap.Dotenv
import ProfilerBootstrap.Environment

namespace ProfilerBootstrap.Dotenv

/-- A variable in a value, with what stands for it when it is not set. -/
structure Reference where
  name : String
  default : String
  deriving DecidableEq, Repr

def Reference.read? (cs : List Char) : Option (Reference × List Char) :=
  let name := cs.takeWhile fun c => c ≠ '\x7d' && c ≠ ':'
  match cs.drop name.length with
  | ':' :: '-' :: rest =>
    let default := rest.takeWhile (· ≠ '\x7d')
    match rest.drop default.length with
    | _ :: rest => some (⟨String.ofList name, String.ofList default⟩, rest)
    | [] => none
  | '\x7d' :: rest => some (⟨String.ofList name, ""⟩, rest)
  | _ => none

/-- The values of the entries so far. An entry without a value counts as an empty one. -/
abbrev Values := List (String × Option String)

def Values.set (k : String) (v : Option String) : Values → Values
  | [] => [(k, v)]
  | (k', v') :: rest => if k' = k then (k', v) :: rest else (k', v') :: Values.set k v rest

def Reference.value (env : Environment) (known : Values) (r : Reference) : String :=
  match env.get? r.name with
  | some v => v
  | none =>
    match known.lookup r.name with
    | some v => v.getD ""
    | none => r.default

def expandFrom (env : Environment) (known : Values) : Nat → List Char → List Char
  | n + 1, '$' :: '\x7b' :: rest =>
    match Reference.read? rest with
    | some (r, rest) => (r.value env known).toList ++ expandFrom env known n rest
    | none => '$' :: expandFrom env known n ('\x7b' :: rest)
  | n + 1, c :: rest => c :: expandFrom env known n rest
  | _, cs => cs

def expand (env : Environment) (known : Values) (s : String) : String :=
  String.ofList (expandFrom env known s.length s.toList)

/-- The values of the keys of a file, each at its first place and as its last entry says. -/
def values (env : Environment) (entries : List Entry) : Values :=
  entries.foldl (fun known e => known.set e.key (e.value.map (expand env known))) []

end ProfilerBootstrap.Dotenv
