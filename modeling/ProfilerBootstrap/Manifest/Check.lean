import ProfilerBootstrap.Manifest.Integer
import ProfilerBootstrap.Manifest.Record

namespace ProfilerBootstrap.Manifest

open Yaml (Value Items Document)

/-- What a check comes to: a result, or all the issues that it found. -/
inductive Checked (α : Type)
  | sound (a : α)
  | faulty (issues : List Issue)

namespace Checked

def map (f : α → β) : Checked α → Checked β
  | sound a => sound (f a)
  | faulty is => faulty is

/-- Both results, or the issues of both. -/
def ap : Checked (α → β) → Checked α → Checked β
  | sound f, a => a.map f
  | faulty is, sound _ => faulty is
  | faulty is, faulty js => faulty (is ++ js)

instance : Applicative Checked where
  pure := sound
  map := map
  seq f a := ap f (a ())

def fault (f : Fault) : Checked α := faulty [⟨[], f⟩]

def under (s : Step) : Checked α → Checked α
  | sound a => sound a
  | faulty is => faulty (is.map fun i => { i with place := s :: i.place })

def listFrom (check : Value → Checked α) : Nat → List Value → Checked (List α)
  | _, [] => sound []
  | n, v :: vs => List.cons <$> under (.index n) (check v) <*> listFrom check (n + 1) vs

end Checked

def listItems? (d : Document) : Value → Option (List Value)
  | .pair a b => some [a, b]
  | v =>
    match d.items? v with
    | some (.list vs) => some vs
    | some (.set vs) => some vs
    | _ => none

def checkList (d : Document) (check : Value → Checked α) (v : Value) : Checked (List α) :=
  match listItems? d v with
  | some vs => Checked.listFrom check 0 vs
  | none => Checked.fault .notList

/-- Bytes are taken for the text that they encode. -/
def checkText : Value → Checked Points
  | .str text => .sound text
  | .bytes bs =>
    match Decoding.decode .utf8 bs with
    | .ok cs => .sound (cs.map Char.toNat)
    | .error _ => Checked.fault .brokenText
  | _ => Checked.fault .notText

def checkOptional (check : Value → Checked α) : Value → Checked (Option α)
  | .null => .sound none
  | v => (check v).map some

def checkVersionPart (v : Value) : Checked Nat :=
  match Integer.ofValue v with
  | .error f => Checked.fault f
  | .ok n =>
    if n < 0 then Checked.fault .negative
    else if maxVersionPart < n then Checked.fault .tooLarge
    else .sound n.toNat

def isSurrogate (n : Nat) : Bool := 0xD800 ≤ n && n ≤ 0xDFFF

def checkAction (v : Value) : Checked WrapperAction :=
  match checkText v with
  | .sound text =>
    if text.any isSurrogate then Checked.fault .brokenText
    else match WrapperAction.all.find? (points ·.name = text) with
      | some a => .sound a
      | none => Checked.fault .unknownAction
  | .faulty _ => Checked.fault .unknownAction

abbrev Entries := List (Value × Value)

namespace Entries

def isNamed (name : String) (e : Value × Value) : Bool :=
  match e.1 with
  | .str text => text = points name
  | _ => false

/-- The value of a field, checked; `absent` is what it is when it is not there. -/
def field (es : Entries) (name : String) (absent : Checked α) (check : Value → Checked α) :
    Checked α :=
  Checked.under (.name name) <| match es.find? (isNamed name) with
    | some (_, v) => check v
    | none => absent

def required (es : Entries) (name : String) (check : Value → Checked α) : Checked α :=
  es.field name (Checked.fault .missing) check

def optional (es : Entries) (name : String) (check : Value → Checked α) : Checked (Option α) :=
  es.field name (.sound none) (checkOptional check)

def unknown (fields : List String) (es : Entries) : Entries :=
  es.filter fun e => !fields.any (isNamed · e)

/-- The unknown entries, whose keys have to be texts. -/
def extra : Entries → Checked Extra
  | [] => .sound []
  | (.str text, v) :: rest => ((text, v) :: ·) <$> extra rest
  | (k, _) :: rest => Checked.ap (.faulty [⟨[Step.ofKey k], .keyNotText⟩]) (extra rest)

def isBroken : Value × Value → Bool
  | (.str text, _) => text.any isSurrogate
  | _ => false

end Entries

/-- A record from the entries of a map. An unknown key that is broken text spoils the map as a
whole. -/
def checkRecord (d : Document) (m : Model) (fields : List String)
    (check : Entries → Checked (Extra → α)) (v : Value) : Checked α :=
  match d.items? v with
  | some (.map es) =>
    let unknown := Entries.unknown fields es
    if unknown.any Entries.isBroken then Checked.fault .brokenText
    else check es <*> Entries.extra unknown
  | _ => Checked.fault (.notModel m.name)

def checkCaller (d : Document) : Value → Checked CallerReference :=
  checkRecord d .caller ["assembly", "type", "method"] fun es =>
    CallerReference.mk <$> es.optional "assembly" checkText
      <*> es.optional "type" checkText
      <*> es.optional "method" checkText

/-- A part of a version, with the bound that holds when it is not given. -/
def versionPart (es : Entries) (name : String) (bound : Nat) : Checked Nat :=
  es.field name (.sound bound) checkVersionPart

def checkTarget (d : Document) : Value → Checked TargetReference :=
  checkRecord d .target
    ["assembly", "type", "method", "signature_types", "minimum_major", "minimum_minor",
      "minimum_patch", "maximum_major", "maximum_minor", "maximum_patch"] fun es =>
    TargetReference.mk <$> es.required "assembly" checkText
      <*> es.required "type" checkText
      <*> es.required "method" checkText
      <*> es.optional "signature_types" (checkList d checkText)
      <*> versionPart es "minimum_major" 0
      <*> versionPart es "minimum_minor" 0
      <*> versionPart es "minimum_patch" 0
      <*> versionPart es "maximum_major" maxVersionPart
      <*> versionPart es "maximum_minor" maxVersionPart
      <*> versionPart es "maximum_patch" maxVersionPart

def checkWrapper (d : Document) : Value → Checked WrapperReference :=
  checkRecord d .wrapper ["assembly", "type", "method", "signature", "action"] fun es =>
    WrapperReference.mk <$> es.required "assembly" checkText
      <*> es.required "type" checkText
      <*> es.optional "method" checkText
      <*> es.optional "signature" checkText
      <*> es.field "action" (.sound .none) checkAction

def checkReplacement (d : Document) : Value → Checked MethodReplacement :=
  checkRecord d .replacement ["caller", "target", "wrapper"] fun es =>
    MethodReplacement.mk <$> es.optional "caller" (checkCaller d)
      <*> es.optional "target" (checkTarget d)
      <*> es.optional "wrapper" (checkWrapper d)

def checkIntegration (d : Document) : Value → Checked Integration :=
  checkRecord d .integration ["name", "method_replacements"] fun es =>
    Integration.mk <$> es.required "name" checkText
      <*> es.field "method_replacements" (.sound []) (checkList d (checkReplacement d))

def Model.check (m : Model) (d : Document) (v : Value) : Checked Record :=
  match m with
  | .integration => (checkIntegration d v).map .integration
  | .replacement => (checkReplacement d v).map .replacement
  | .caller => (checkCaller d v).map .caller
  | .target => (checkTarget d v).map .target
  | .wrapper => (checkWrapper d v).map .wrapper

def check (m : Model) (d : Document) : Checked Records :=
  (checkList d (m.check d) d.root).map fun items => ⟨d.heap, items⟩

end ProfilerBootstrap.Manifest
