import ProfilerBootstrap.Console.Emoji.CodesAC
import ProfilerBootstrap.Console.Emoji.CodesDH
import ProfilerBootstrap.Console.Emoji.CodesIO
import ProfilerBootstrap.Console.Emoji.CodesPS
import ProfilerBootstrap.Console.Emoji.CodesTZ
import ProfilerBootstrap.Text.Blank
import ProfilerBootstrap.Text.Case

namespace ProfilerBootstrap.Console.Emoji

def codes : List (List (String × String)) :=
  [codesA, codesB, codesC, codesD, codesE, codesF, codesG, codesH, codesI, codesJ, codesK, codesL,
    codesM, codesN, codesO, codesP, codesQ, codesR, codesS, codesT, codesU, codesV, codesW, codesX,
    codesY, codesZ, codesOther]

def named? (name : List Char) : Option (List Char) :=
  let key := lowerCase (String.ofList name)
  (codes.findSome? (·.lookup key)).map String.toList

/-- The ends of a code that choose how a picture is drawn, and what they add to it. -/
def variants : List (List Char × Char) := [("-emoji".toList, '\ufe0f'), ("-text".toList, '\ufe0e')]

def splitVariant (code : List Char) : List Char × List Char :=
  match variants.find? fun v => v.1.isSuffixOf code with
  | some (ending, c) => (code.take (code.length - ending.length), [c])
  | none => (code, [])

def picture? (code : List Char) : Option (List Char) :=
  let (name, added) := splitVariant code
  (named? name).map (· ++ added)

def shown (code : List Char) : List Char := (picture? code).getD (':' :: code ++ [':'])

/-- The parts of a text after its first colon, each of which comes after a colon. -/
def replaceAfter : List (List Char) → List Char
  | [] => []
  | [s] => ':' :: s
  | s :: t :: rest =>
    if s.any Text.isBlank then ':' :: s ++ replaceAfter (t :: rest)
    else shown s ++ t ++ replaceAfter rest

def replace (cs : List Char) : List Char :=
  match cs.splitOn ':' with
  | [] => []
  | s :: rest => s ++ replaceAfter rest

end ProfilerBootstrap.Console.Emoji
