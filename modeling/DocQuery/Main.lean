import DocQuery.Demo
/-!
The command line: prints the demonstration.
-/

def main : IO Unit := do
  for line in DocQuery.Demo.all DocQuery.Registry.standard do
    IO.println line
