import StackScript.Main
import StackScript.Settings.Json
import StackScript.Proofs.Conformance
import StackScript.Proofs.Invariants
import StackScript.Proofs.Simulation
import StackScript.Proofs.Layout
import StackScript.Proofs.Inline
import StackScript.Proofs.Locality
import StackScript.Proofs.Pieces
import StackScript.Proofs.Hosting
import StackScript.Proofs.Moments
import StackScript.Proofs.Places
import StackScript.Proofs.Frames
import StackScript.Proofs.Crashes
import StackScript.Proofs.Requests
import StackScript.Proofs.Captures
import StackScript.Proofs.Turns
import StackScript.Proofs.Termination
import StackScript.Proofs.Halting
import StackScript.Proofs.Resets
import StackScript.Proofs.Extension
import StackScript.Proofs.Sinks
import StackScript.Proofs.StackBounds
import StackScript.Proofs.Atomicity
import StackScript.Proofs.Arity
import StackScript.Proofs.Numerals
import StackScript.Proofs.Nesting
import StackScript.Proofs.Quoting
import StackScript.Proofs.Brackets
import StackScript.Proofs.Lines
import StackScript.Proofs.Splitting
import StackScript.Proofs.Transcripts
import StackScript.Proofs.Conversations
import StackScript.Proofs.Names
import StackScript.Proofs.Division
import StackScript.Proofs.Scripts
import StackScript.Proofs.Handles
