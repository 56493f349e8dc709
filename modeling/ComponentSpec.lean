import ComponentSpec.Main
import ComponentSpec.Proofs.FinalProps
import ComponentSpec.Proofs.Build
import ComponentSpec.Proofs.Replay
import ComponentSpec.Proofs.CacheSlots
import ComponentSpec.Proofs.InjectProps
import ComponentSpec.Proofs.DeclaredDiffs
import ComponentSpec.Proofs.RoundTrip
import ComponentSpec.Proofs.Surface
import ComponentSpec.Proofs.Outcomes
import ComponentSpec.Proofs.Roles
import ComponentSpec.Proofs.Json.Lines
import ComponentSpec.Proofs.Rendering
import ComponentSpec.Proofs.Stripped
import ComponentSpec.Proofs.Settings
import ComponentSpec.Proofs.Documents
import ComponentSpec.Proofs.Loading
import ComponentSpec.Proofs.MethodSurface
import ComponentSpec.Proofs.Provenance
import ComponentSpec.Proofs.Names
import ComponentSpec.Proofs.Effects
import ComponentSpec.Proofs.DiffTypes
import ComponentSpec.Proofs.Values
import ComponentSpec.Proofs.ByteChanges
import ComponentSpec.Proofs.FirstOccurrences
import ComponentSpec.Proofs.LaterProps
import ComponentSpec.Proofs.Markers
import ComponentSpec.Proofs.NameBytes
import ComponentSpec.Proofs.HexText
import ComponentSpec.Proofs.SetViews
import ComponentSpec.Proofs.Categories
