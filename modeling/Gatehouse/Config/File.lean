import Gatehouse.Config.Reader
import Gatehouse.Config.Problem

/-!
From the text of a file to a configuration that may be put to use.
-/

namespace Gatehouse.Config

/-- Secrets from the environment, which win over those in the file. -/
structure Secrets where
  sign : Option String := none
  hmacSecret : Option String := none
  deriving DecidableEq, Repr, Inhabited

/-- Why there is no configuration. -/
inductive LoadError where
  /-- The file is not text. -/
  | notText
  /-- The text is no TOML document, or a setting in it has the wrong type. -/
  | unreadable
  /-- The configuration has problems. -/
  | invalid (problems : List Problem)
  deriving DecidableEq, Repr, Inhabited

def LoadError.message : LoadError → String
  | notText => "IO error: stream did not contain valid UTF-8"
  | unreadable => "Parse error"
  | invalid problems => "Validation failed: " ++ ", ".intercalate (problems.map Problem.message)

/-- A secret from the environment, if it is set and not empty, and else the one in the file. -/
def override (fromEnvironment fromFile : Option String) : Option String :=
  match fromEnvironment with
  | some secret => if secret.isEmpty then fromFile else some secret
  | none => fromFile

/-- Let the secrets from the environment win. -/
def withSecrets (config : Config) (secrets : Secrets) : Config :=
  { config with security :=
    { config.security with
      sign := override secrets.sign config.security.sign
      hmacSecret := override secrets.hmacSecret config.security.hmacSecret } }

/-- The configuration itself, if it has no problems. -/
def validated (config : Config) : Except LoadError Config :=
  match config.problems with
  | [] => .ok config
  | problems => .error (.invalid problems)

/-- The configuration that a text holds. -/
def parse (text : String) (secrets : Secrets) : Except LoadError Config :=
  match (Toml.parse? text).bind ofToml? with
  | none => .error .unreadable
  | some config => (config.withSecrets secrets).validated

/-- The configuration in a file, or the defaults where there is no file, and whether the file was
missing. -/
def load (file : Option Bytes) (secrets : Secrets) : Except LoadError (Config × Bool) :=
  match file with
  | none => ((({} : Config).withSecrets secrets).validated).map fun config => (config, true)
  | some content =>
    match Bytes.text? content with
    | none => .error .notText
    | some text => (parse text secrets).map fun config => (config, false)

end Gatehouse.Config
