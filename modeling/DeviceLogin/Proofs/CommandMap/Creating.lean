import DeviceLogin.Proofs.CommandMap.Untouched
import DeviceLogin.Proofs.Files

set_option autoImplicit false

namespace DeviceLogin

open Act

namespace World

-- The files are as they were, but for the one that was created where there was none.
structure Left (left : Option (String × String)) (before after : World) : Prop where
  free : ∀ file ∈ left, before.files.occupied file.1 = false
  contents : after.files.contents = before.files.contents ++ left.toList
  folders : after.files.folders = before.files.folders
  changes : ∀ beside, after.changes beside =
    before.changes beside ++ (left.toList.map fun file => .wrote file.1 file.2 .createOnly).filter (Event.alters beside)

variable {left : Option (String × String)} {before now after : World}

end World

namespace CommandMap

section

variable (others : Files → Files) (settings : Settings) (refusals : Service.Refusals) (parent : Logger) (scene : Scene Site)

def met : World :=
  match place? settings with
  | none => scene.world
  | some path =>
      if scene.world.files.occupied path then scene.world
      else (gathered settings refusals parent (checked scene)).world.changedBy others

end

variable {beside : Option String}

end CommandMap

end DeviceLogin
