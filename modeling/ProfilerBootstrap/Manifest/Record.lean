import ProfilerBootstrap.Yaml.Value

namespace ProfilerBootstrap.Manifest

abbrev Extra := List (Points × Yaml.Value)

/-- Restricts a replacement to calls from inside a method. -/
structure CallerReference where
  assembly : Option Points
  type : Option Points
  method : Option Points
  extra : Extra

/-- The method to replace, and the versions of its assembly for which to do so. -/
structure TargetReference where
  assembly : Points
  type : Points
  method : Points
  signatureTypes : Option (List Points)
  minimumMajor : Nat
  minimumMinor : Nat
  minimumPatch : Nat
  maximumMajor : Nat
  maximumMinor : Nat
  maximumPatch : Nat
  extra : Extra

/-- What is done with the wrapper method. -/
inductive WrapperAction
  | callTargetModification
  | replaceTargetMethod
  | insertFirst
  | none
  deriving DecidableEq, Repr

def WrapperAction.name : WrapperAction → String
  | callTargetModification => "CallTargetModification"
  | replaceTargetMethod => "ReplaceTargetMethod"
  | insertFirst => "InsertFirst"
  | none => "None"

def WrapperAction.all : List WrapperAction :=
  [callTargetModification, replaceTargetMethod, insertFirst, none]

structure WrapperReference where
  assembly : Points
  type : Points
  method : Option Points
  signature : Option Points
  action : WrapperAction
  extra : Extra

structure MethodReplacement where
  caller : Option CallerReference
  target : Option TargetReference
  wrapper : Option WrapperReference
  extra : Extra

/-- A library that is instrumented by replacing methods. -/
structure Integration where
  name : Points
  replacements : List MethodReplacement
  extra : Extra

/-- The kinds of records that a manifest can be a list of. -/
inductive Model
  | integration
  | replacement
  | caller
  | target
  | wrapper
  deriving DecidableEq, Repr

def Model.name : Model → String
  | integration => "Integration"
  | replacement => "MethodReplacement"
  | caller => "CallerMethodReference"
  | target => "TargetMethodReference"
  | wrapper => "WrapperMethodReference"

inductive Record
  | integration (r : Integration)
  | replacement (r : MethodReplacement)
  | caller (r : CallerReference)
  | target (r : TargetReference)
  | wrapper (r : WrapperReference)

/-- The records of a manifest, and the containers that their unknown values refer to. -/
structure Records where
  heap : Array Yaml.Items
  items : List Record

end ProfilerBootstrap.Manifest
