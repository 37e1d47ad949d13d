import Transducer.Json.Quoted.Lemmas
import Transducer.Main
import Transducer.Proofs.Defect
import Transducer.Proofs.Execution
import Transducer.Proofs.Export
import Transducer.Proofs.Format
import Transducer.Proofs.Session.Safety
import Transducer.Validity.Json
import Transducer.Proofs.Reordering
import Transducer.Proofs.Columns.RoundTrip
import Transducer.Proofs.Shell.Held
import Transducer.Proofs.Truncation
import Transducer.Proofs.Document.Composition
import Transducer.Proofs.Shell.Changes
import Transducer.Proofs.Shell.Stepping
import Transducer.Proofs.Pruning
import Transducer.Proofs.Line.Offset
import Transducer.Proofs.Line.Spacing
import Transducer.Proofs.Session.Cursor
import Transducer.Proofs.Session.Progress
import Transducer.Proofs.Session.Future
import Transducer.Proofs.Session.Stopping
import Transducer.Proofs.Shadow.Dead
import Transducer.Proofs.Session.Recording
import Transducer.Proofs.Columns.Import
import Transducer.Proofs.Document.Layout
import Transducer.Proofs.Settings.Saving
import Transducer.Proofs.Yaml.Lines
import Transducer.Proofs.Yaml.Outline
import Transducer.Proofs.Shell.Cutting
