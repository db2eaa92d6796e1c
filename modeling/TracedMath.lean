import TracedMath.Constants
import TracedMath.Host
import TracedMath.Log.Run
import TracedMath.Log.State
import TracedMath.Session
import TracedMath.Proofs.Rounding
import TracedMath.Proofs.Splitting
import TracedMath.Proofs.Ceiling
import TracedMath.Proofs.Transparency
import TracedMath.Proofs.Admission
import TracedMath.Proofs.Installation
import TracedMath.Proofs.Emission
import TracedMath.Proofs.EntryPoints
import TracedMath.Proofs.Truncation
import TracedMath.Proofs.TraceLog
import TracedMath.Proofs.ReadBack
import TracedMath.Proofs.Determinacy
import TracedMath.Proofs.Noninterference
import TracedMath.Proofs.Visits
import TracedMath.Proofs.Isolation
import TracedMath.Proofs.Modes
import TracedMath.Proofs.Cells
import TracedMath.Proofs.Threads
import TracedMath.Proofs.Clamping
import TracedMath.Proofs.Destinations
import TracedMath.Proofs.Replies
import TracedMath.Proofs.Parts
import TracedMath.Proofs.Nearest
import TracedMath.Proofs.Reading
import TracedMath.Proofs.Shortest
import TracedMath.Proofs.PlainText
import TracedMath.Proofs.TraceText
import TracedMath.Proofs.ErrorTexts
import TracedMath.Proofs.Writing
import TracedMath.Proofs.Classification
import TracedMath.Proofs.Forgery
