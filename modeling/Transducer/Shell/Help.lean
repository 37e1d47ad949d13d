/-!
The overview of its commands that the shell gives.
-/

namespace Transducer.Shell

def helpText : String := "
Available commands:
  help                      Show this help

  load <file>               Replace the machine with one read from a file
  save <file>               Write the machine (.json for raw states)
  add <state line>          Add a state, e.g. add [START] S0 :: S1: a|x
  remove <label>            Remove a state
  show                      Print the machine

  check                     Validate the machine
  run <input>               Run to completion
  step <input>              Step through a run
                              next, <enter>  take one transition
                              finish         run to completion
                              stop           leave stepping mode
  history on|off            Record visited states
  config                    Show current settings
  config save <file>        Write current settings as YAML

  quit, exit                Exit the REPL
"

end Transducer.Shell
