import EffectGraph.Main
import EffectGraph.Proofs.Direct
import EffectGraph.Proofs.Adequacy
import EffectGraph.Proofs.Agreement
import EffectGraph.Proofs.Limit
import EffectGraph.Proofs.Tally
import EffectGraph.Proofs.Callbacks
import EffectGraph.Proofs.Current
import EffectGraph.Proofs.History
import EffectGraph.Proofs.Ledger
import EffectGraph.Proofs.Blame
import EffectGraph.Proofs.Alike
import EffectGraph.Proofs.Deafness
import EffectGraph.Proofs.Kinship
import EffectGraph.Proofs.Conduct
import EffectGraph.Proofs.Shadowing
import EffectGraph.Proofs.Context
import EffectGraph.Proofs.MonadLaws
import EffectGraph.Proofs.RecoveryLaws
import EffectGraph.Proofs.Rounds
import EffectGraph.Proofs.Space
import EffectGraph.Proofs.Construction
import EffectGraph.Proofs.Copies
import EffectGraph.Proofs.Reuse
import EffectGraph.Proofs.Bracketing
import EffectGraph.Proofs.Tracing
import EffectGraph.Proofs.Cells
import EffectGraph.Proofs.Store
import EffectGraph.Proofs.Updates
import EffectGraph.Proofs.JsonText
import EffectGraph.Proofs.Rendering
import EffectGraph.Proofs.Commands
import EffectGraph.Proofs.Folding
import EffectGraph.Proofs.Telling
import EffectGraph.Proofs.Showing
import EffectGraph.Proofs.Cuts
import EffectGraph.Proofs.Parallel
import EffectGraph.Proofs.Replay
import EffectGraph.Proofs.Exits
import EffectGraph.Proofs.Driving
import EffectGraph.Proofs.Traversing
import EffectGraph.Proofs.Lockstep
import EffectGraph.Proofs.Endings
import EffectGraph.Proofs.Discarding
import EffectGraph.Proofs.Repeating
import EffectGraph.Proofs.Repetitions
import EffectGraph.Proofs.Circling
import EffectGraph.Proofs.Unrolling
import EffectGraph.Proofs.Segments
import EffectGraph.Proofs.Rereading
import EffectGraph.Proofs.Factorials
import EffectGraph.Proofs.Transcripts
import EffectGraph.Proofs.Dialogues
import EffectGraph.Proofs.Reifying
import EffectGraph.Proofs.Logging
import EffectGraph.Proofs.Timeless
import EffectGraph.Proofs.Nesting
import EffectGraph.Proofs.Exchanges
import EffectGraph.Proofs.Unwinding
import EffectGraph.Proofs.Numerals
import EffectGraph.Proofs.Decimals
import EffectGraph.Proofs.Nearest
import EffectGraph.Proofs.Parsing
import EffectGraph.Proofs.Sharing
import EffectGraph.Proofs.Speaking
import EffectGraph.Proofs.Presenting
