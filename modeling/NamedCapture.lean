import NamedCapture.CharSet.Fold
import NamedCapture.CharSet.Property
import NamedCapture.Annotated
import NamedCapture.Matcher.Walk
import NamedCapture.Matcher.Replace
import NamedCapture.Regex.Compile
import NamedCapture.Proofs.Annotated.Run
import NamedCapture.Proofs.Annotated.Spelling
import NamedCapture.Proofs.Annotated.Stripping
import NamedCapture.Proofs.Boundary
import NamedCapture.Proofs.Loop
import NamedCapture.Proofs.Gather
import NamedCapture.Proofs.Replace
import NamedCapture.Proofs.Progress
import NamedCapture.Proofs.Agreement
import NamedCapture.Proofs.Numbering.Legible
import NamedCapture.Proofs.Numbering.Inert
import NamedCapture.Proofs.Numbering.Reach
import NamedCapture.Proofs.Numbering.Class
import NamedCapture.Proofs.Numbering.Alignment
import NamedCapture.Proofs.Numbering.Reading
import NamedCapture.Proofs.Numbering.Kept
import NamedCapture.Proofs.Annotated.Removal
import NamedCapture.Proofs.Annotated.Again
import NamedCapture.Proofs.Annotated.Append
import NamedCapture.Proofs.Annotated.Cut
import NamedCapture.Proofs.Annotated.Refusal
import NamedCapture.Proofs.Annotated.Renaming
import NamedCapture.Proofs.Attempt
import NamedCapture.Proofs.Session
import NamedCapture.Proofs.GivingUp
import NamedCapture.Proofs.Template
import NamedCapture.Proofs.Lookup
import NamedCapture.Proofs.Entry
import NamedCapture.Proofs.Leftmost
import NamedCapture.Proofs.Splice
import NamedCapture.Proofs.Rounds
import NamedCapture.Proofs.Sticky
import NamedCapture.Proofs.Registration
import NamedCapture.Proofs.Flags
import NamedCapture.Proofs.Sweep.Safety
import NamedCapture.Proofs.Template.Builder
