import Transcoding.Adapter.Settings
import Transcoding.Yaml.Document

/-!
# Settings as YAML

A settings file is a YAML document that maps the names of settings to scalars. A text setting takes
any scalar as it is. Null and truth values are plain scalars; a tag before a scalar can rule a
reading out.
-/

namespace Transcoding

open Transcoding.Yaml

namespace Yaml.Scalar

/-- Whether a text is written for null. -/
def spellsNull (text : String) : Bool := ["~", "null", "Null", "NULL"].contains text

/-- The text of a scalar, or nothing for null. Only a plain scalar can be null; without a tag an
empty one is, and with the tag of null it has to be spelled. -/
def textOrNull? (scalar : Scalar) : Option (Option String) :=
  if scalar.style ≠ .plain then some (some scalar.text)
  else match scalar.tag with
    | none => some (if scalar.text = "" || spellsNull scalar.text then none else some scalar.text)
    | some tag =>
      if tag ≠ Tag.null then some (some scalar.text)
      else if spellsNull scalar.text then some none
      else none

/-- The truth value of a scalar, which is plain, or a literal block with the tag of truth
values. -/
def bool? (scalar : Scalar) : Option Bool :=
  if scalar.style = .plain || (scalar.style = .literal && scalar.tag = some Tag.bool) then
    if ["true", "True", "TRUE"].contains scalar.text then some true
    else if ["false", "False", "FALSE"].contains scalar.text then some false
    else none
  else none

end Yaml.Scalar

/-- The settings with one more entry. -/
def Settings.addEntry? (settings : Settings) (key : String) (value : Scalar) : Option Settings :=
  if key = "runtime_crate" then some { settings with runtimeCrate := value.text }
  else if key = "types_path" then
    value.textOrNull?.map fun path => { settings with typesPath := path }
  else if key = "output_file" then some { settings with outputFile := value.text }
  else if key = "include_summary_header" then
    value.bool?.map fun flag => { settings with summaryHeader := flag }
  else none

/-- Reads settings. Every name is known and occurs once. -/
def Settings.ofText? (text : String) : Option Settings := do
  let entries ← document? text
  if (entries.map (·.1.text)).Nodup then
    entries.foldlM (fun settings (key, value) => settings.addEntry? key.text value) {}
  else none

end Transcoding
