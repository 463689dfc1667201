import ElevatorBank.Setting.Config
import ElevatorBank.Setting.Path
import ElevatorBank.Setting.Reading
import ElevatorBank.Toml.Document

/-!
# Deployments

A validated configuration together with where it came from. Its settings are
layered: the defaults, over them a file, over that the environment variables.
They can be read with any library (`Deployment.loadWith`); the one in use reads
documents in TOML (`Setting.library`).
-/
namespace ElevatorBank

/-- The library in use. -/
def Setting.library : Setting.Library where
  parse? := Toml.parse?
  keyOf? := keyOf?
  ofVariable := ofVariable
  lay := lay
  floor? := floor?
  nat? := nat?
  list? := list?
  word? := word?
  fields? := fields?

structure Deployment where
  config : Config
  /-- The kind of surroundings, such as production or test. -/
  environment : String
  /-- Whether the caller named a file. -/
  fileGiven : Bool
  deriving DecidableEq, Repr, Inhabited

/-- The file that settings are read from, with its text if there is such a file. -/
inductive SettingsFile
  /-- A file that the caller names has to exist. -/
  | named (path : String) (text : Option String)
  /-- The file in the usual place is read if it is there. -/
  | usual (text : Option String)

namespace SettingsFile

def usualPath : String := "config/lift-dispatch"

def path : SettingsFile → String
  | named path _ => path
  | usual _ => usualPath

def isNamed : SettingsFile → Bool
  | named .. => true
  | usual _ => false

/-- The settings of the file; a file that need not be there may have none. -/
def settings (lib : Setting.Library) (f : SettingsFile) : Except ConfigError (Entries Setting) :=
  let read (text : String) : Except ConfigError (Entries Setting) :=
    match lib.parse? text with
    | some es => .ok es
    | none => .error (.load f.path "not a TOML document")
  match f with
  | named _ (some text) => read text
  | named path none => .error (.load path "no such file")
  | usual (some text) => read text
  | usual none => .ok []

end SettingsFile

namespace Deployment

/-- The word that the names of environment variables begin with. -/
def usualWord : String := "LIFT"

/-- A deployment of a configuration that is already at hand. -/
def ofConfig (config : Config) (vs : Variables) : Except ConfigError Deployment :=
  config.validate.map fun _ => { config, environment := vs.environment, fileGiven := false }

section
variable (lib : Setting.Library)

/-- The configuration that layers of settings over the defaults give. -/
def configOf? (layers : List (Entries Setting)) : Option Config :=
  Config.ofSetting? lib (lib.layered (({} : Config).settings :: layers))

/-- A deployment with the settings of a file, over which come those of the
variables that begin with a word. -/
def ofSettings (file : SettingsFile) (es : Entries Setting) (word : String) (vs : Variables) :
    Except ConfigError Deployment := do
  let some config := configOf? lib [es, lib.ofVariables word vs]
    | throw (.load file.path "settings of the wrong kind")
  config.validate
  return { config, environment := vs.environment, fileGiven := file.isNamed }

/-- Reads the file first. -/
def loadWith (file : SettingsFile) (word : String) (vs : Variables) :
    Except ConfigError Deployment := do
  ofSettings lib file (← file.settings lib) word vs

end

def load (file : SettingsFile) (word : String) (vs : Variables) : Except ConfigError Deployment :=
  loadWith Setting.library file word vs

end Deployment
end ElevatorBank
