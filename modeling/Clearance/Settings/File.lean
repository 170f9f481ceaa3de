import Clearance.Document.Toml.Reader
import Clearance.Settings.Codec
import Clearance.Settings.Error

/-!
# Settings in a file

A TOML file with a section for abilities and one for logging. A file that does not exist says
nothing.
-/

namespace Clearance

inductive FileContent where
  | absent
  | directory
  /-- A file that is there and that the system does not let be read. -/
  | closed (reason : String)
  | bytes (bytes : ByteArray)

structure ConfigFile where
  path : String
  content : FileContent

namespace ConfigFile

def layerOfText (path text : String) : Except ConfigError ConfigLayer :=
  match Toml.read text with
  | none => .error (.tomlSyntax path)
  | some d => (ConfigLayer.decode .toml d).mapError (.tomlFault path)

/-- What the file says. -/
def layer (f : ConfigFile) : Except ConfigError ConfigLayer :=
  match f.content with
  | .absent => .ok ConfigLayer.empty
  | .directory => .error (.fileRead f.path .directory)
  | .closed reason => .error (.fileRead f.path (.refused reason))
  | .bytes bytes =>
      match String.fromUTF8? bytes with
      | none => .error (.fileRead f.path .notText)
      | some text => layerOfText f.path text

/-- What reading the file tells the log. -/
def notices (f : ConfigFile) : List Notice :=
  match f.content, f.layer with
  | .absent, _ => [.fileNotFound f.path]
  | _, .ok _ => [.loadingFile f.path, .fileParsed]
  | _, .error _ => [.loadingFile f.path]

end ConfigFile

end Clearance
