import PaletteSnap.Command.Response
import PaletteSnap.Json.Reader
import PaletteSnap.Proofs.Arguments
import PaletteSnap.Proofs.JsonTexts

namespace PaletteSnap

namespace Command

namespace Fault

end Fault

section

variable (tools : Toolbox)

end

variable {tools : Toolbox}

end Command

section

variable {tools : Toolbox} {args args' : List String} {o : RemapOptions}

end

end PaletteSnap
