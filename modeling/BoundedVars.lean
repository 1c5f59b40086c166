import BoundedVars.Session
import BoundedVars.Proofs.Markup.Joined
import BoundedVars.Proofs.Store.Messages
import BoundedVars.Proofs.Store.Results
import BoundedVars.Proofs.Store.Isolation
import BoundedVars.Proofs.Store.Growth
import BoundedVars.Proofs.Store.Filling
import BoundedVars.Proofs.Store.Refinement
import BoundedVars.Proofs.Context
import BoundedVars.Proofs.Session.Bounds
import BoundedVars.Proofs.Session.Recording
import BoundedVars.Proofs.Session.Logging
import BoundedVars.Proofs.Session.Hearing
import BoundedVars.Proofs.Session.Concluding
import BoundedVars.Proofs.Session.Failing
import BoundedVars.Proofs.Session.Sequential
import BoundedVars.Proofs.Session.Isolation
import BoundedVars.Proofs.Session.Growth
import BoundedVars.Proofs.Session.Interleaving
import BoundedVars.Proofs.Reference
import BoundedVars.Proofs.Session.Refinement
import BoundedVars.Proofs.Mirror
import BoundedVars.Proofs.Session.Mirroring
import BoundedVars.Proofs.Session.Effect
import BoundedVars.Proofs.Session.Replay
import BoundedVars.Proofs.Session.Linearising
import BoundedVars.Proofs.Session.Reentrance
import BoundedVars.Proofs.Session.Plain
import BoundedVars.Proofs.Text.Trimming
import BoundedVars.Proofs.Numeral
import BoundedVars.Proofs.Configuration
import BoundedVars.Proofs.Environment
import BoundedVars.Proofs.Truncation
import BoundedVars.Proofs.Merging
import BoundedVars.Proofs.Session.Freezing
import BoundedVars.Proofs.Session.Turns
import BoundedVars.Proofs.Key
import BoundedVars.Proofs.Keyed
import BoundedVars.Proofs.Layers
import BoundedVars.Proofs.Overrides
import BoundedVars.Proofs.Session.Absent
import BoundedVars.Proofs.Session.Contexts
import BoundedVars.Proofs.Collection
import BoundedVars.Proofs.Soundness
import BoundedVars.Proofs.Equality
import BoundedVars.Proofs.LayerKeys
import BoundedVars.Proofs.Reading
import BoundedVars.Proofs.Editing
import BoundedVars.Proofs.Sources
import BoundedVars.Proofs.Store.Soundness
import BoundedVars.Proofs.Memory
import BoundedVars.Proofs.Session.Yielding
import BoundedVars.Proofs.Session.Soundness
import BoundedVars.Proofs.Session.Mappings
