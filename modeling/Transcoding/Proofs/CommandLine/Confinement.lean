import Transcoding.Proofs.Adapter.Validation
import Transcoding.Proofs.CommandLine.Discovery
import Transcoding.Proofs.CommandLine.Generate
import Transcoding.Proofs.Disk.Change

/-!
# What a generation changes on the disk

All that can go wrong before the first change to the disk depends on the volume alone: which files
there are, what they hold, and whether their services have an adapter (`generationOn`). The
`generate` command fails with that error and leaves the volume as it is. Else it makes the
directories on the way to its output and writes the document there, and only the disk can be in the
way of that (`runGenerate_confined`). On a volume it is in the way of a directory that is to be made
or of a file that is to be opened; a file that is open takes the whole document.
-/

namespace Transcoding.CommandLine

open Transcoding.Disk

/-! ## Reading -/

section
variable {volume : Volume}

end

/-! ## Changes -/

section
variable {volume : Volume} {options : GenerateOptions}

end

end Transcoding.CommandLine
