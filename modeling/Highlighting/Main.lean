import Highlighting.CommandLine.Help
import Highlighting.CommandLine.Run
import Highlighting.Log.Line

open Highlighting

def readErrorOf (e : IO.Error) : ReadError :=
  match e with
  | .noFileOrDirectory .. => .notFound
  | .inappropriateType _ 20 _ => .notDirectory
  | .inappropriateType _ 21 _ => .isDirectory
  | e => .other (toString e)

def readText (path : String) : IO (Except ReadError String) := do
  try
    return decodeText (← IO.FS.readBinFile path)
  catch e =>
    return .error (readErrorOf e)

def readInput : IO (Except ReadError String) := do
  return decodeText (← (← IO.getStdin).readBinToEnd)

def surroundings (args : Arguments) : IO Surroundings := do
  let config := args.config.getD Surroundings.defaultConfigFile
  let configText ← readText config
  let fileText ← args.file.mapM readText
  let input ← if args.file.isNone ∧ ¬args.list then readInput else pure (.ok "")
  let files := (config, configText) :: (args.file.bind fun f => fileText.map (f, ·)).toList
  return {
    read := fun path => (files.lookup path).getD (.error .notFound)
    isFile := fun path =>
      match files.lookup path with
      | some (.ok _) => true
      | some (.error .invalidUtf8) => true
      | _ => false
    input := input }

def writeOutcome (o : Outcome) : IO UInt32 := do
  for e in o.log do
    IO.eprintln (if o.json then String.ofList e.toJson.compact else e.line)
  if let some e := o.error then
    IO.eprintln ("Error: " ++ e.message)
  IO.print o.output
  return o.exitCode.toUInt32

def main (texts : List String) : IO UInt32 := do
  match Arguments.parse texts with
  | .error e =>
    IO.eprintln e.message
    return 2
  | .ok .help =>
    IO.print Help.text
    return 0
  | .ok .version =>
    IO.print Help.version
    return 0
  | .ok (.run args) => writeOutcome ((← surroundings args).run args)
