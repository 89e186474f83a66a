import QueryGateway.CommandLine

/-! The program: its arguments, its environment and its files. -/
namespace QueryGateway

/-- What a path leads to. -/
def readContent (path : String) : IO Config.FileContent := do
  try
    return .ok (← IO.FS.readBinFile path).toList
  catch
    | .inappropriateType _ 20 _ | .noFileOrDirectory _ 20 _ => return .error .belowFile
    | .inappropriateType _ 21 _ => return .error .directory
    | _ => return .error .missing

/-- The environment as far as these variables go. -/
def environmentOf (names : List String) : IO Environment := do
  let table ← names.mapM fun name => return (name, ← IO.getEnv name)
  return fun name => (table.lookup name).join

/-- The file that arguments lead to, and the environment that it refers to. -/
def surroundings (arguments : List String) : IO (Environment × CommandLine.Files) := do
  let env ← environmentOf [Config.pathVariable]
  match CommandLine.read arguments with
  | .perform i =>
    let path := Config.resolvePath i.config env
    let content ← readContent path
    let names := ((Config.textOf content).toOption.bind Config.read).elim [] Config.variableNames
    let env ← environmentOf (Config.pathVariable :: names)
    return (env, fun p => if p = path then content else .error .missing)
  | _ => return (env, fun _ => .error .missing)

end QueryGateway

def main (arguments : List String) : IO UInt32 := do
  let (env, files) ← QueryGateway.surroundings arguments
  let output := QueryGateway.CommandLine.run arguments env files
  for line in output.lines do
    IO.println line
  if !output.complaint.isEmpty then IO.eprintln output.complaint
  return output.code.toUInt32
