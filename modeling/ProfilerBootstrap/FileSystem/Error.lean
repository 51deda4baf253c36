import ProfilerBootstrap.Text.Quoted

namespace ProfilerBootstrap.FileSystem

inductive Cause
  | missing
  | busy
  | exists
  | notDirectory
  | isDirectory
  | invalid
  | nameTooLong
  | notEmpty
  | tooManyLinks
  deriving DecidableEq, Repr

def Cause.number : Cause → Nat
  | .missing => 2
  | .busy => 16
  | .exists => 17
  | .notDirectory => 20
  | .isDirectory => 21
  | .invalid => 22
  | .nameTooLong => 36
  | .notEmpty => 39
  | .tooManyLinks => 40

def Cause.text : Cause → String
  | .missing => "No such file or directory"
  | .busy => "Device or resource busy"
  | .exists => "File exists"
  | .notDirectory => "Not a directory"
  | .isDirectory => "Is a directory"
  | .invalid => "Invalid argument"
  | .nameTooLong => "File name too long"
  | .notEmpty => "Directory not empty"
  | .tooManyLinks => "Too many levels of symbolic links"

/-- A refusal with the path of the operation, and the one it was to be moved to. -/
structure Refusal where
  cause : Cause
  path : String
  target : Option String
  deriving DecidableEq, Repr

def Refusal.message (r : Refusal) : String :=
  let target := match r.target with
    | none => ""
    | some t => s!" -> {Text.quote t}"
  s!"[Errno {r.cause.number}] {r.cause.text}: {Text.quote r.path}{target}"

/-- A path with a null character is not even a path. -/
inductive Error
  | refused (r : Refusal)
  | nullCharacter
  deriving DecidableEq, Repr

def Error.message : Error → String
  | .refused r => r.message
  | .nullCharacter => "embedded null byte"

end ProfilerBootstrap.FileSystem
