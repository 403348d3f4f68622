import TraversalScript.Script.Find
import TraversalScript.Settings.Basic

/-!
# Configuration of the service

* `Config`: whether scripts are written on request, and the properties they use;
* `Config.ofKeywords`: a configuration of named parts, the others at their defaults;
* `Config.ofSettings`: the configuration that the settings ask for;
* `Config.finder`: what writes the scripts.
-/

namespace TraversalScript

/-- Whether scripts are written on request, and the properties that they use. -/
structure Config where
  enabled : Value
  idProperty : Value
  labelProperty : Value

namespace Config

/-- The configuration of which no part is named. -/
def default : Config := ⟨.bool true, Finder.defaultId, Finder.defaultLabel⟩

/-- A configuration with a named part changed; there are no other parts than these three. -/
def set (c : Config) (name : String) (v : Value) : Except Misuse Config :=
  match name with
  | "enable_script_api" => .ok { c with enabled := v }
  | "id_property" => .ok { c with idProperty := v }
  | "label_property" => .ok { c with labelProperty := v }
  | _ => .error .wrongType

/-- The configuration of named parts. -/
def ofKeywords (parts : List (String × Value)) : Except Misuse Config :=
  parts.foldlM (fun c (name, v) => c.set name v) default

/-- The configuration that the settings ask for. -/
def ofSettings (s : Settings) : Config :=
  ⟨.bool s.enabled, .text s.idProperty, .text s.labelProperty⟩

/-- What writes the scripts. -/
def finder (c : Config) : Finder := ⟨c.idProperty, c.labelProperty⟩

end Config

end TraversalScript
